import Mathlib.Algebra.Group.Int.Defs
import Mathlib.Data.List.DropRight
import LfpPipe.RustText

/-!
# Go string operations

Text is read as its sequence of Unicode scalar values, as for the Rust side.
Trimming of spaces uses the same White_Space property, one suffix is removed
at most once, and lengths are counted in UTF-8 bytes. The Unicode lower-case
table is a parameter that is known on ASCII only.
-/

namespace LfpPipe.GoText

open RustText

/-- A simple lower-case table that maps ASCII letters as ASCII does. -/
structure LowerTable where
  /-- The lower case of one scalar value. -/
  lower : Char → Char
  /-- On ASCII the table is the ASCII one. -/
  lower_ascii : ∀ c : Char, c.toNat < 128 → lower c = c.toLower

/-- The table of the ASCII letters alone. -/
def asciiTable : LowerTable := ⟨Char.toLower, fun _ _ => rfl⟩

/-- Remove leading and trailing white space. -/
def trimSpace (s : String) : String := trim s

/-- Map every scalar value to its lower case. -/
def toLower (table : LowerTable) (s : String) : String :=
  String.ofList (s.toList.map table.lower)

/-- Whether the text ends with the given ending. -/
def hasSuffix (s ending : String) : Bool := ending.toList.isSuffixOf s.toList

/-- Whether the text starts with the given beginning. -/
def hasPrefix (s beginning : String) : Bool := beginning.toList.isPrefixOf s.toList

/-- Remove the ending once, when it is there. -/
def trimSuffix (s ending : String) : String := (stripEnd s ending).getD s

/-- Remove the beginning once, when it is there. -/
def trimPrefix (s beginning : String) : String := (stripStart s beginning).getD s

/-- Remove every leading and trailing occurrence of one character. -/
def trimChar (c : Char) (s : String) : String :=
  String.ofList (dropEndWhile (· == c) (s.toList.dropWhile (· == c)))

/-- Replace every longest run of characters outside a class by one character;
the flag says whether the scan stands inside a run. -/
def replaceRuns (keep : Char → Bool) (replacement : Char) : Bool → List Char → List Char
  | _, [] => []
  | inRun, c :: cs =>
    if keep c then c :: replaceRuns keep replacement false cs
    else if inRun then replaceRuns keep replacement true cs
    else replacement :: replaceRuns keep replacement true cs

/-- The characters that are printed as they are; on ASCII these are known. -/
structure PrintTable where
  /-- Whether a scalar value is printed as it is. -/
  printable : Char → Bool
  /-- On ASCII these are the characters from the space to the tilde. -/
  printable_ascii : ∀ c : Char, c.toNat < 128 →
    printable c = (decide (32 ≤ c.toNat) && decide (c.toNat < 127))

/-- The printable characters of ASCII alone. -/
def asciiPrintTable : PrintTable where
  printable c := decide (32 ≤ c.toNat) && decide (c.toNat < 127)
  printable_ascii _ _ := rfl

/-- The last hexadecimal digits of a number, lowercase. -/
def hexDigits : ℕ → ℕ → List Char
  | 0, _ => []
  | count + 1, value => hexDigits count (value / 16) ++ [Nat.digitChar (value % 16)]

/-- One character inside a double-quoted literal. -/
def quoteChar (table : PrintTable) (c : Char) : List Char :=
  if c == '"' || c == '\\' then ['\\', c]
  else if table.printable c then [c]
  else if c.toNat == 7 then ['\\', 'a']
  else if c.toNat == 8 then ['\\', 'b']
  else if c.toNat == 12 then ['\\', 'f']
  else if c == '\n' then ['\\', 'n']
  else if c == '\r' then ['\\', 'r']
  else if c == '\t' then ['\\', 't']
  else if c.toNat == 11 then ['\\', 'v']
  else if c.toNat < 32 || c.toNat == 127 then ['\\', 'x'] ++ hexDigits 2 c.toNat
  else if c.toNat < 65536 then ['\\', 'u'] ++ hexDigits 4 c.toNat
  else ['\\', 'U'] ++ hexDigits 8 c.toNat

/-- A double-quoted literal of the text. -/
def quote (table : PrintTable) (s : String) : String :=
  String.ofList ('"' :: s.toList.flatMap (quoteChar table) ++ ['"'])

/-- The decimal number of a text with an optional sign, when it fits 64 bits. -/
def atoi (s : String) : Option ℤ :=
  let (negative, digits) : Bool × List Char := match s.toList with
    | '-' :: digits => (true, digits)
    | '+' :: digits => (false, digits)
    | digits => (false, digits)
  let magnitude : ℤ := digits.foldl (fun number c => number * 10 + (c.toNat - 48 : ℕ)) 0
  let number := if negative then -magnitude else magnitude
  if digits.isEmpty || !digits.all Char.isDigit then none
  else if -2 ^ 63 ≤ number ∧ number < 2 ^ 63 then some number
  else none

/-- What remains after the replacement is in the class or the replacement. -/
theorem mem_replaceRuns {keep : Char → Bool} {replacement c : Char} {inRun : Bool}
    {cs : List Char} (h : c ∈ replaceRuns keep replacement inRun cs) :
    keep c = true ∨ c = replacement := by
  induction cs generalizing inRun with
  | nil => cases h
  | cons x xs ih =>
    rw [replaceRuns] at h
    split at h
    · rename_i hkeep
      rcases List.mem_cons.mp h with h | h
      · rw [h]
        exact Or.inl hkeep
      · exact ih h
    · split at h
      · exact ih h
      · rcases List.mem_cons.mp h with h | h
        · exact Or.inr h
        · exact ih h

/-- Trimming at the ends keeps only characters of the text. -/
theorem mem_of_mem_trimChar {c x : Char} {s : String} (h : x ∈ (trimChar c s).toList) :
    x ∈ s.toList := by
  rw [trimChar, String.toList_ofList, dropEndWhile, List.mem_reverse] at h
  have hdrop := (List.dropWhile_suffix (p := (· == c))).mem h
  exact (List.dropWhile_suffix (p := (· == c))).mem (List.mem_reverse.mp hdrop)

/-- Removing an ending that is not there changes nothing. -/
theorem trimSuffix_of_not_hasSuffix {s ending : String} (h : hasSuffix s ending = false) :
    trimSuffix s ending = s := by
  rw [hasSuffix] at h
  rw [trimSuffix, stripEnd, h]
  rfl

/-- A text that does not end with a dot has no dot to remove. -/
theorem trimSuffix_dot_of_getLast_ne {s : String} (h : s.toList.getLast? ≠ some '.') :
    trimSuffix s "." = s := by
  apply trimSuffix_of_not_hasSuffix
  rw [hasSuffix, Bool.eq_false_iff, Ne, List.isSuffixOf_iff_suffix]
  rintro ⟨before, hb⟩
  apply h
  rw [← hb]
  exact List.getLast?_concat

/-- Text without white space at its ends is not changed by trimming. -/
theorem trimSpace_of_no_space {s : String} (h : ∀ c ∈ s.toList, isWhitespace c = false) :
    trimSpace s = s := by
  have hstart : s.toList.dropWhile isWhitespace = s.toList := by
    cases hs : s.toList with
    | nil => rfl
    | cons c cs =>
      rw [List.dropWhile_cons_of_neg]
      rw [h c (by rw [hs]; exact List.mem_cons_self)]
      exact Bool.false_ne_true
  have hend : s.toList.reverse.dropWhile isWhitespace = s.toList.reverse := by
    cases hs : s.toList.reverse with
    | nil => rfl
    | cons c cs =>
      have hc : c ∈ s.toList := by
        rw [← List.mem_reverse, hs]
        exact List.mem_cons_self
      rw [List.dropWhile_cons_of_neg]
      rw [h c hc]
      exact Bool.false_ne_true
  rw [trimSpace, trim, hstart, dropEndWhile, hend, List.reverse_reverse, String.ofList_toList]

/-- Lower-case ASCII text is its own lower case. -/
theorem toLower_of_lower {table : LowerTable} {s : String}
    (h : ∀ c ∈ s.toList, c.toNat < 128 ∧ c.toLower = c) : toLower table s = s := by
  have hmap : s.toList.map table.lower = s.toList := by
    have hid : ∀ c ∈ s.toList, table.lower c = id c := by
      intro c hc
      rw [table.lower_ascii c (h c hc).1, (h c hc).2]
      rfl
    rw [List.map_congr_left hid, List.map_id]
  rw [toLower, hmap, String.ofList_toList]

/-- Nothing is replaced in a text of the class. -/
theorem replaceRuns_of_keep {keep : Char → Bool} (replacement : Char) {inRun : Bool}
    {cs : List Char} (h : ∀ c ∈ cs, keep c = true) :
    replaceRuns keep replacement inRun cs = cs := by
  induction cs generalizing inRun with
  | nil => rfl
  | cons c cs ih =>
    rw [replaceRuns, if_pos (h c List.mem_cons_self),
      ih fun later hlater => h later (List.mem_cons_of_mem c hlater)]

/-- What dropping at both ends leaves does not begin with a dropped character. -/
theorem head_dropEndWhile_dropWhile {p : Char → Bool} {cs : List Char} {c : Char}
    (h : (dropEndWhile p (cs.dropWhile p)).head? = some c) : p c = false := by
  obtain ⟨later, hlater⟩ := dropEndWhile_prefix p (cs.dropWhile p)
  have hhead : (cs.dropWhile p).head? = some c := by
    rw [← hlater, List.head?_append, h]
    rfl
  have hnot := List.head?_dropWhile_not p cs
  rw [hhead] at hnot
  exact hnot

/-- Characters that were trimmed at both ends stay as they are. -/
theorem dropEndWhile_dropWhile_idempotent (p : Char → Bool) (cs : List Char) :
    dropEndWhile p ((dropEndWhile p (cs.dropWhile p)).dropWhile p) =
      dropEndWhile p (cs.dropWhile p) := by
  have hstart : (dropEndWhile p (cs.dropWhile p)).dropWhile p =
      dropEndWhile p (cs.dropWhile p) := by
    cases hkept : dropEndWhile p (cs.dropWhile p) with
    | nil => rfl
    | cons first rest =>
      have hhead : (dropEndWhile p (cs.dropWhile p)).head? = some first := by
        rw [hkept, List.head?_cons]
      rw [List.dropWhile_cons, head_dropEndWhile_dropWhile hhead, if_neg Bool.false_ne_true]
  rw [hstart, dropEndWhile, dropEndWhile, List.reverse_reverse, List.dropWhile_idempotent]

/-- A text that was trimmed of a character stays as it is. -/
theorem trimChar_trimChar (c : Char) (s : String) : trimChar c (trimChar c s) = trimChar c s := by
  rw [trimChar, trimChar, String.toList_ofList, dropEndWhile_dropWhile_idempotent]

/-- What trimming leaves does not begin with the character. -/
theorem head_trimChar (c : Char) (s : String) : (trimChar c s).toList.head? ≠ some c := by
  rw [trimChar, String.toList_ofList]
  intro h
  have hkept := head_dropEndWhile_dropWhile h
  rw [beq_self_eq_true] at hkept
  exact Bool.false_ne_true hkept.symm

/-- What trimming leaves does not end with the character. -/
theorem getLast_trimChar (c : Char) (s : String) : (trimChar c s).toList.getLast? ≠ some c := by
  have hend := getLast_trimEndMatches c (String.ofList (s.toList.dropWhile (· == c)))
  rw [trimEndMatches, String.toList_ofList, String.toList_ofList] at hend
  rw [trimChar, String.toList_ofList]
  exact hend

/-- A text that was trimmed of white space stays as it is. -/
theorem trimSpace_trimSpace (s : String) : trimSpace (trimSpace s) = trimSpace s := by
  rw [trimSpace, trimSpace, trim, trim, String.toList_ofList, dropEndWhile_dropWhile_idempotent]

end LfpPipe.GoText
