import Mathlib.Data.List.Basic
import Mathlib.Data.List.TakeDrop
import Mathlib.Data.List.TakeWhile

/-!
# Rust string operations

Text is a Lean string, read as its sequence of Unicode scalar values. The
operations follow the documented behaviour of the Rust standard library:
trimming uses the Unicode White_Space property, case folding is ASCII only,
and lengths are counted in UTF-8 bytes.
-/

namespace LfpPipe.RustText

/-- The White_Space property used by trimming. -/
def isWhitespace (c : Char) : Bool :=
  (9 ≤ c.toNat && c.toNat ≤ 13) || c.toNat == 0x20 || c.toNat == 0x85 || c.toNat == 0xA0 ||
    c.toNat == 0x1680 || (0x2000 ≤ c.toNat && c.toNat ≤ 0x200A) || c.toNat == 0x2028 ||
    c.toNat == 0x2029 || c.toNat == 0x202F || c.toNat == 0x205F || c.toNat == 0x3000

/-- Remove the longest matching end. -/
def dropEndWhile (p : Char → Bool) (cs : List Char) : List Char :=
  (cs.reverse.dropWhile p).reverse

/-- Remove leading and trailing white space. -/
def trim (s : String) : String :=
  String.ofList (dropEndWhile isWhitespace (s.toList.dropWhile isWhitespace))

/-- Only white space, or nothing at all. -/
def isBlank (s : String) : Bool := (trim s).isEmpty

/-- Remove every trailing occurrence of one character. -/
def trimEndMatches (c : Char) (s : String) : String :=
  String.ofList (dropEndWhile (· == c) s.toList)

/-- Dropping at the end keeps a beginning. -/
theorem dropEndWhile_prefix (p : Char → Bool) (cs : List Char) : dropEndWhile p cs <+: cs := by
  rw [dropEndWhile, ← List.reverse_suffix, List.reverse_reverse]
  exact List.dropWhile_suffix _

/-- What trimming leaves does not end with the character. -/
theorem getLast_trimEndMatches (c : Char) (s : String) :
    (trimEndMatches c s).toList.getLast? ≠ some c := by
  rw [trimEndMatches, String.toList_ofList, dropEndWhile, List.getLast?_reverse]
  intro h
  have hnot := List.head?_dropWhile_not (· == c) s.toList.reverse
  rw [h] at hnot
  dsimp only at hnot
  rw [beq_self_eq_true] at hnot
  exact Bool.false_ne_true hnot.symm

/-- How often one character stands at the end. -/
def countEndMatches (c : Char) (s : String) : ℕ := (s.toList.reverse.takeWhile (· == c)).length

/-- A text is what trimming leaves, followed by the trimmed occurrences. -/
theorem toList_eq_trimEndMatches_append (c : Char) (s : String) :
    s.toList = (trimEndMatches c s).toList ++ List.replicate (countEndMatches c s) c := by
  have hrun : ∀ x ∈ s.toList.reverse.takeWhile (· == c), x = c := by
    intro x hx
    have hp := List.mem_takeWhile_imp (p := (· == c)) hx
    exact beq_iff_eq.mp hp
  have hrep := List.eq_replicate_of_mem hrun
  have hsplit := List.takeWhile_append_dropWhile (l := s.toList.reverse) (p := (· == c))
  rw [trimEndMatches, String.toList_ofList, dropEndWhile, countEndMatches]
  calc s.toList = s.toList.reverse.reverse := (List.reverse_reverse _).symm
    _ = (s.toList.reverse.takeWhile (· == c) ++ s.toList.reverse.dropWhile (· == c)).reverse := by
      rw [hsplit]
    _ = (s.toList.reverse.dropWhile (· == c)).reverse ++
        (s.toList.reverse.takeWhile (· == c)).reverse := List.reverse_append
    _ = _ := by
      rw [hrep, List.reverse_replicate, List.length_replicate]

/-- Map ASCII letters to lower case and keep every other character. -/
def toAsciiLowercase (s : String) : String := String.ofList (s.toList.map Char.toLower)

/-- Equality up to the case of ASCII letters. -/
def eqIgnoreAsciiCase (left right : String) : Bool :=
  toAsciiLowercase left == toAsciiLowercase right

/-- Equality up to case compares character by character. -/
theorem eqIgnoreAsciiCase_iff {left right : String} :
    eqIgnoreAsciiCase left right = true ↔
      left.toList.map Char.toLower = right.toList.map Char.toLower := by
  rw [eqIgnoreAsciiCase, beq_iff_eq, toAsciiLowercase, toAsciiLowercase, String.ofList_inj]

/-- Codes of the lower-case letters. -/
theorem isLower_iff {c : Char} : c.isLower = true ↔ 97 ≤ c.toNat ∧ c.toNat ≤ 122 := by
  change (decide (97 ≤ c.val) && decide (c.val ≤ 122)) = true ↔ _
  rw [Bool.and_eq_true, decide_eq_true_eq, decide_eq_true_eq, UInt32.le_iff_toNat_le,
    UInt32.le_iff_toNat_le]
  exact Iff.rfl

/-- Codes of the upper-case letters. -/
theorem isUpper_iff {c : Char} : c.isUpper = true ↔ 65 ≤ c.toNat ∧ c.toNat ≤ 90 := by
  change decide (65 ≤ c.val ∧ c.val ≤ 90) = true ↔ _
  rw [decide_eq_true_eq, UInt32.le_iff_toNat_le, UInt32.le_iff_toNat_le]
  exact Iff.rfl

/-- A letter is an upper-case or a lower-case one. -/
theorem isAlpha_iff {c : Char} : c.isAlpha = true ↔ c.isUpper = true ∨ c.isLower = true :=
  Iff.of_eq (Bool.or_eq_true _ _)

/-- An upper-case letter is lowered by 32. -/
theorem toNat_toLower {c : Char} (h : c.isUpper = true) : c.toLower.toNat = c.toNat + 32 := by
  obtain ⟨hlow, hhigh⟩ := isUpper_iff.mp h
  have hupper : 65 ≤ c.val ∧ c.val ≤ 90 :=
    ⟨UInt32.le_iff_toNat_le.mpr hlow, UInt32.le_iff_toNat_le.mpr hhigh⟩
  have hlowered : c.toLower.val = c.val + 32 := congrArg Char.val (dif_pos hupper)
  have hsum : c.toLower.toNat = (c.toNat + 32) % 2 ^ 32 := congrArg UInt32.toNat hlowered
  omega

/-- Other characters are not lowered. -/
theorem toLower_of_not_isUpper {c : Char} (h : c.isUpper = false) : c.toLower = c := by
  have hother : ¬ (65 ≤ c.val ∧ c.val ≤ 90) := by
    rintro ⟨hlow, hhigh⟩
    have hupper := isUpper_iff.mpr
      ⟨UInt32.le_iff_toNat_le.mp hlow, UInt32.le_iff_toNat_le.mp hhigh⟩
    rw [h] at hupper
    cases hupper
  exact dif_neg hother

/-- A character that is lowered to one that is no lower-case letter is that
character. -/
theorem eq_of_toLower_eq {c d : Char} (hd : d.isLower = false) (h : c.toLower = d) : c = d := by
  cases hupper : c.isUpper with
  | false =>
    rw [toLower_of_not_isUpper hupper] at h
    exact h
  | true =>
    obtain ⟨hlow, hhigh⟩ := isUpper_iff.mp hupper
    have hsum := toNat_toLower hupper
    rw [h] at hsum
    have hlower : d.isLower = true := isLower_iff.mpr ⟨by omega, by omega⟩
    rw [hd] at hlower
    cases hlower

/-- A character that is no letter is the only one that is lowered to what it is
lowered to. -/
theorem eq_of_toLower_eq_toLower {c d : Char} (hd : d.isAlpha = false)
    (h : c.toLower = d.toLower) : c = d := by
  rw [← Bool.not_eq_true, isAlpha_iff, not_or, Bool.not_eq_true, Bool.not_eq_true] at hd
  exact eq_of_toLower_eq hd.2 (h.trans (toLower_of_not_isUpper hd.1))

/-- A letter has another case. -/
theorem exists_other_case {c : Char} (h : c.isAlpha = true) :
    ∃ d : Char, d ≠ c ∧ d.toLower = c.toLower := by
  have hupper : ∀ n : Fin 26, (Char.ofNat (65 + n)).toLower ≠ Char.ofNat (65 + n) ∧
      (Char.ofNat (65 + n)).toLower.toLower = (Char.ofNat (65 + n)).toLower := by
    decide
  have hlower : ∀ n : Fin 26, (Char.ofNat (97 + n)).toUpper ≠ Char.ofNat (97 + n) ∧
      (Char.ofNat (97 + n)).toUpper.toLower = (Char.ofNat (97 + n)).toLower := by
    decide
  have hchar : ∀ (low : ℕ), low ≤ c.toNat → c.toNat < low + 26 →
      ∃ n : Fin 26, c = Char.ofNat (low + n) := by
    intro low hle hlt
    have hsum : low + (c.toNat - low) = c.toNat := by omega
    refine ⟨⟨c.toNat - low, by omega⟩, ?_⟩
    dsimp only
    rw [hsum, Char.ofNat_toNat]
  rw [isAlpha_iff, isUpper_iff, isLower_iff] at h
  rcases h with ⟨hlow, hhigh⟩ | ⟨hlow, hhigh⟩
  · obtain ⟨n, hn⟩ := hchar 65 hlow (by omega)
    rw [hn]
    exact ⟨_, hupper n⟩
  · obtain ⟨n, hn⟩ := hchar 97 hlow (by omega)
    rw [hn]
    exact ⟨_, hlower n⟩

/-- Whether the text starts with the given beginning. -/
def startsWith (s beginning : String) : Bool := beginning.toList.isPrefixOf s.toList

/-- The text after the given beginning, when it starts with it. -/
def stripStart (s beginning : String) : Option String :=
  if startsWith s beginning then some (String.ofList (s.toList.drop beginning.length)) else none

/-- The text before the given ending, when it ends with it. -/
def stripEnd (s ending : String) : Option String :=
  if ending.toList.isSuffixOf s.toList then
    some (String.ofList (s.toList.take (s.length - ending.length)))
  else none

/-- The text after a beginning. -/
theorem stripStart_eq_some {s beginning rest : String} :
    stripStart s beginning = some rest ↔ s.toList = beginning.toList ++ rest.toList := by
  rw [stripStart, startsWith]
  constructor
  · intro h
    split at h
    · rename_i hstart
      obtain ⟨after, hafter⟩ := List.isPrefixOf_iff_prefix.mp hstart
      cases h
      rw [← hafter, String.toList_ofList, ← String.length_toList, List.drop_left]
    · cases h
  · intro h
    rw [if_pos, h, ← String.length_toList, List.drop_left, String.ofList_toList]
    rw [h]
    exact List.isPrefixOf_iff_prefix.mpr (List.prefix_append _ _)

/-- The text before an ending. -/
theorem stripEnd_eq_some {s ending rest : String} :
    stripEnd s ending = some rest ↔ s.toList = rest.toList ++ ending.toList := by
  rw [stripEnd]
  constructor
  · intro h
    split at h
    · rename_i hend
      obtain ⟨before, hbefore⟩ := List.isSuffixOf_iff_suffix.mp hend
      cases h
      rw [← String.length_toList, ← String.length_toList, ← hbefore, List.length_append,
        Nat.add_sub_cancel, List.take_left, String.toList_ofList]
    · cases h
  · intro h
    have hend : ending.toList.isSuffixOf s.toList = true := by
      rw [h]
      exact List.isSuffixOf_iff_suffix.mpr (List.suffix_append _ _)
    rw [if_pos hend, ← String.length_toList, ← String.length_toList, h, List.length_append,
      Nat.add_sub_cancel, List.take_left, String.ofList_toList]

/-- Whether one of the characters occurs. -/
def containsAny (s : String) (cs : List Char) : Bool := s.toList.any fun c => cs.contains c

/-- A property that was checked character by character. -/
theorem forall_mem_of_all {P : Char → Prop} [DecidablePred P] {cs : List Char}
    (h : (cs.all fun c => decide (P c)) = true) : ∀ c ∈ cs, P c := by
  intro c hm
  exact of_decide_eq_true (List.all_eq_true.mp h c hm)

/-- Split at the first occurrence of the separator, which is removed. -/
def splitOnce (c : Char) (s : String) : Option (String × String) :=
  match s.toList.span (· != c) with
  | (_, []) => none
  | (before, _ :: after) => some (String.ofList before, String.ofList after)

/-- A text without the separator is not split. -/
theorem splitOnce_of_not_mem {c : Char} {s : String} (h : c ∉ s.toList) : splitOnce c s = none := by
  have hall : ∀ x ∈ s.toList, (x != c) = true := by
    intro x hx
    rw [bne_iff_ne]
    intro heq
    rw [heq] at hx
    exact h hx
  have hspan : s.toList.span (· != c) = (s.toList, []) := by
    rw [List.span_eq_takeWhile_dropWhile, List.takeWhile_eq_self_iff.mpr hall,
      List.dropWhile_eq_nil_iff.mpr hall]
  rw [splitOnce, hspan]

/-- The first separator splits the text. -/
theorem splitOnce_append {c : Char} {before : String} (h : c ∉ before.toList) (after : String) :
    splitOnce c (before ++ String.singleton c ++ after) = some (before, after) := by
  have hall : ∀ x ∈ before.toList, (x != c) = true := by
    intro x hx
    rw [bne_iff_ne]
    intro heq
    rw [heq] at hx
    exact h hx
  have hstop : ¬ (c != c) = true := by
    rw [bne_self_eq_false]
    exact Bool.false_ne_true
  have hspan : (before ++ String.singleton c ++ after).toList.span (· != c) =
      (before.toList, c :: after.toList) := by
    rw [String.toList_append, String.toList_append, String.toList_singleton, List.append_assoc,
      List.singleton_append, List.span_eq_takeWhile_dropWhile, List.takeWhile_append_of_pos hall,
      List.dropWhile_append_of_pos hall, List.takeWhile_cons_of_neg (p := (· != c)) hstop,
      List.dropWhile_cons_of_neg (p := (· != c)) hstop, List.append_nil]
  rw [splitOnce, hspan]
  dsimp only
  rw [String.ofList_toList, String.ofList_toList]

/-- Pieces between separators; there is always at least one piece. -/
def splitChars (c : Char) : List Char → List (List Char)
  | [] => [[]]
  | x :: xs =>
    if x = c then [] :: splitChars c xs
    else match splitChars c xs with
      | [] => [[x]]
      | piece :: pieces => (x :: piece) :: pieces

/-- Split a text at every separator. -/
def split (c : Char) (s : String) : List String := (splitChars c s.toList).map String.ofList

/-- Splitting is the library's splitting at one separator. -/
theorem splitChars_eq_splitOn (c : Char) (cs : List Char) : splitChars c cs = cs.splitOn c := by
  induction cs with
  | nil => rw [splitChars, List.splitOn_nil]
  | cons x xs ih =>
    rw [splitChars, List.splitOn_cons_eq_if_modifyHead, ih]
    by_cases hx : x = c
    · rw [if_pos hx, if_pos (beq_iff_eq.mpr hx)]
    · rw [if_neg hx, if_neg (fun h => hx (beq_iff_eq.mp h))]
      obtain ⟨piece, pieces, hp⟩ := List.exists_cons_of_ne_nil (List.splitOn_ne_nil c xs)
      rw [hp, List.modifyHead_cons]

/-- No piece contains the separator. -/
theorem not_mem_of_mem_splitChars {c : Char} {cs piece : List Char}
    (h : piece ∈ splitChars c cs) : c ∉ piece := by
  induction cs generalizing piece with
  | nil =>
    rw [splitChars, List.mem_singleton] at h
    rw [h]
    exact List.not_mem_nil
  | cons x xs ih =>
    rw [splitChars] at h
    split at h
    · rcases List.mem_cons.mp h with h | h
      · rw [h]
        exact List.not_mem_nil
      · exact ih h
    · rename_i hx
      split at h
      · rw [List.mem_singleton] at h
        rw [h, List.mem_singleton]
        exact fun hc => hx hc.symm
      · rename_i first rest hs
        rw [hs] at ih
        rcases List.mem_cons.mp h with h | h
        · have hfirst := ih List.mem_cons_self
          rw [h, List.mem_cons]
          rintro (hc | hc)
          · exact hx hc.symm
          · exact hfirst hc
        · exact ih (List.mem_cons_of_mem first h)

/-- Every other character stands in some piece. -/
theorem exists_mem_splitChars_of_mem {c x : Char} {cs : List Char} (hx : x ∈ cs) (hne : x ≠ c) :
    ∃ piece ∈ splitChars c cs, x ∈ piece := by
  induction cs with
  | nil => cases hx
  | cons y ys ih =>
    rw [splitChars]
    split
    · rename_i hy
      rcases List.mem_cons.mp hx with hx | hx
      · exact absurd (hx.trans hy) hne
      · obtain ⟨piece, hp, hm⟩ := ih hx
        exact ⟨piece, List.mem_cons_of_mem [] hp, hm⟩
    · split
      · rename_i hnil
        rw [splitChars_eq_splitOn] at hnil
        exact absurd hnil (List.splitOn_ne_nil c ys)
      · rename_i first rest hs
        rw [hs] at ih
        rcases List.mem_cons.mp hx with hx | hx
        · exact ⟨y :: first, List.mem_cons_self, hx ▸ List.mem_cons_self⟩
        · obtain ⟨piece, hp, hm⟩ := ih hx
          rcases List.mem_cons.mp hp with hp | hp
          · rw [hp] at hm
            exact ⟨y :: first, List.mem_cons_self, List.mem_cons_of_mem y hm⟩
          · exact ⟨piece, List.mem_cons_of_mem (y :: first) hp, hm⟩

/-- The characters of a piece are characters of the text. -/
theorem mem_of_mem_splitChars {c x : Char} {cs piece : List Char}
    (hp : piece ∈ splitChars c cs) (hx : x ∈ piece) : x ∈ cs := by
  induction cs generalizing piece with
  | nil =>
    rw [splitChars, List.mem_singleton] at hp
    rw [hp] at hx
    cases hx
  | cons y ys ih =>
    rw [splitChars] at hp
    split at hp
    · rcases List.mem_cons.mp hp with hp | hp
      · rw [hp] at hx
        cases hx
      · exact List.mem_cons_of_mem y (ih hp hx)
    · split at hp
      · rw [List.mem_singleton] at hp
        rw [hp] at hx
        exact List.mem_singleton.mp hx ▸ List.mem_cons_self
      · rename_i first rest hs
        rw [hs] at ih
        rcases List.mem_cons.mp hp with hp | hp
        · rw [hp] at hx
          rcases List.mem_cons.mp hx with hx | hx
          · exact hx ▸ List.mem_cons_self
          · exact List.mem_cons_of_mem y (ih List.mem_cons_self hx)
        · exact List.mem_cons_of_mem y (ih (List.mem_cons_of_mem first hp) hx)

/-- Joining the pieces with the separator gives the text back. -/
theorem intercalate_split (c : Char) (s : String) :
    String.intercalate (String.singleton c) (split c s) = s := by
  apply String.toList_inj.mp
  rw [String.toList_intercalate, split, List.map_map]
  have hid : (String.toList ∘ String.ofList) = id := by
    funext cs
    exact String.toList_ofList
  rw [hid, List.map_id, splitChars_eq_splitOn, String.toList_singleton, List.intercalate_splitOn]

/-- A join of pieces without the separator splits into these pieces. -/
theorem split_intercalate {c : Char} {pieces : List String} (hne : pieces ≠ [])
    (h : ∀ piece ∈ pieces, c ∉ piece.toList) :
    split c (String.intercalate (String.singleton c) pieces) = pieces := by
  rw [split, splitChars_eq_splitOn, String.toList_intercalate, String.toList_singleton,
    List.splitOn_intercalate, List.map_map]
  · have hid : (String.ofList ∘ String.toList) = id := by
      funext s
      exact String.ofList_toList
    rw [hid, List.map_id]
  · intro l hl
    obtain ⟨piece, hp, rfl⟩ := List.mem_map.mp hl
    exact h piece hp
  · simpa using hne

/-- A text without separator is one piece. -/
theorem split_of_not_mem {c : Char} {s : String} (h : c ∉ s.toList) : split c s = [s] := by
  have hpieces : ∀ piece ∈ [s], c ∉ piece.toList := by
    intro piece hm
    rw [List.mem_singleton.mp hm]
    exact h
  have hsplit := split_intercalate (List.cons_ne_nil s []) hpieces
  rwa [String.intercalate_singleton] at hsplit

/-- Pieces of a split do not contain the separator. -/
theorem not_mem_of_mem_split {c : Char} {s piece : String} (h : piece ∈ split c s) :
    c ∉ piece.toList := by
  obtain ⟨cs, hcs, rfl⟩ := List.mem_map.mp h
  rw [String.toList_ofList]
  exact not_mem_of_mem_splitChars hcs

/-- A join splits into its pieces exactly when no piece contains the separator. -/
theorem split_intercalate_iff {c : Char} {pieces : List String} (hne : pieces ≠ []) :
    split c (String.intercalate (String.singleton c) pieces) = pieces ↔
      ∀ piece ∈ pieces, c ∉ piece.toList := by
  constructor
  · intro h piece hm
    rw [← h] at hm
    exact not_mem_of_mem_split hm
  · exact split_intercalate hne

/-- Texts around a separator are split on their own. -/
theorem split_append_separator (c : Char) (left right : String) :
    split c (left ++ String.singleton c ++ right) = split c left ++ split c right := by
  rw [split, split, split, splitChars_eq_splitOn, splitChars_eq_splitOn, splitChars_eq_splitOn,
    String.toList_append, String.toList_append, String.toList_singleton, List.append_assoc,
    List.singleton_append, List.splitOn_append_cons_self, List.map_append]

/-- There is always at least one piece. -/
theorem split_ne_nil (c : Char) (s : String) : split c s ≠ [] := by
  rw [split, splitChars_eq_splitOn, Ne, List.map_eq_nil_iff]
  exact List.splitOn_ne_nil c s.toList

/-- The pieces of a text end another's pieces exactly when it is the other text
or stands behind one of its separators. -/
theorem splitChars_suffix_iff {c : Char} {short long : List Char} :
    splitChars c short <:+ splitChars c long ↔ short = long ∨ (c :: short) <:+ long := by
  have hinj : ∀ {left right : List Char}, splitChars c left = splitChars c right →
      left = right := by
    intro left right h
    rw [splitChars_eq_splitOn, splitChars_eq_splitOn] at h
    calc left = [c].intercalate (left.splitOn c) := (List.intercalate_splitOn c).symm
      _ = [c].intercalate (right.splitOn c) := by rw [h]
      _ = right := List.intercalate_splitOn c
  constructor
  · intro h
    induction long with
    | nil =>
      have hne : splitChars c short ≠ [] := by
        rw [splitChars_eq_splitOn]
        exact List.splitOn_ne_nil c short
      rw [splitChars] at h
      rcases List.suffix_cons_iff.mp h with h | h
      · exact .inl (hinj h)
      · exact absurd (List.suffix_nil.mp h) hne
    | cons x xs ih =>
      by_cases hx : x = c
      · rw [splitChars, if_pos hx] at h
        rcases List.suffix_cons_iff.mp h with h | h
        · refine .inl (hinj ?_)
          rw [splitChars, if_pos hx, h]
        · rcases ih h with h | h
          · rw [h, hx]
            exact .inr List.suffix_rfl
          · exact .inr (h.trans (List.suffix_cons x xs))
      · have hsplit := h
        rw [splitChars, if_neg hx] at hsplit
        cases hrest : splitChars c xs with
        | nil =>
          rw [splitChars_eq_splitOn] at hrest
          exact absurd hrest (List.splitOn_ne_nil c xs)
        | cons piece pieces =>
          rw [hrest] at hsplit ih
          dsimp only at hsplit
          rcases List.suffix_cons_iff.mp hsplit with heq | hlater
          · refine .inl (hinj ?_)
            rw [splitChars, if_neg hx, hrest, heq]
          · rcases ih (hlater.trans (List.suffix_cons piece pieces)) with hsame | hbehind
            · rw [hsame, hrest] at hlater
              have hlength := hlater.length_le
              rw [List.length_cons] at hlength
              omega
            · exact .inr (hbehind.trans (List.suffix_cons x xs))
  · rintro (rfl | ⟨before, rfl⟩)
    · exact List.suffix_rfl
    · rw [splitChars_eq_splitOn, splitChars_eq_splitOn, List.splitOn_append_cons_self]
      exact List.suffix_append _ _

/-- The same for texts. -/
theorem split_suffix_iff {c : Char} {short long : String} :
    split c short <:+ split c long ↔ short = long ∨ (c :: short.toList) <:+ long.toList := by
  rw [split, split, List.suffix_map_iff_of_injective fun _ _ => String.ofList_inj.mp,
    splitChars_suffix_iff, String.toList_inj]

/-- A text that ends with the separator has an empty last piece. -/
theorem empty_mem_split_of_getLast {c : Char} {s : String} (h : s.toList.getLast? = some c) :
    "" ∈ split c s := by
  obtain ⟨before, hb⟩ := List.getLast?_eq_some_iff.mp h
  rw [split, splitChars_eq_splitOn, hb, List.splitOn_append_cons_self, List.splitOn_nil,
    List.map_append]
  exact List.mem_append_right _ (List.mem_singleton.mpr rfl)

/-- A text that does not end with the character is not changed by trimming it. -/
theorem trimEndMatches_of_getLast_ne {c : Char} {s : String} (h : s.toList.getLast? ≠ some c) :
    trimEndMatches c s = s := by
  rw [trimEndMatches, dropEndWhile]
  have hrev : s.toList.reverse.dropWhile (· == c) = s.toList.reverse := by
    cases hs : s.toList.reverse with
    | nil => rfl
    | cons x xs =>
      rw [List.dropWhile_cons_of_neg]
      intro hx
      apply h
      rw [← List.head?_reverse, hs, List.head?_cons, beq_iff_eq.mp hx]
  rw [hrev, List.reverse_reverse, String.ofList_toList]

/-- Pieces that keep their terminator; nothing follows a final terminator. -/
def splitInclusive (c : Char) : List Char → List (List Char)
  | [] => []
  | x :: xs =>
    if x = c then [x] :: splitInclusive c xs
    else match splitInclusive c xs with
      | [] => [[x]]
      | piece :: pieces => (x :: piece) :: pieces

/-- Remove one line feed and, before it, one carriage return. -/
def stripLineEnding (line : List Char) : List Char :=
  match line.reverse with
  | '\n' :: '\r' :: before => before.reverse
  | '\n' :: before => before.reverse
  | _ => line

/-- The lines of a text without their terminators. -/
def lines (s : String) : List String :=
  (splitInclusive '\n' s.toList).map fun line => String.ofList (stripLineEnding line)

/-- Bytes of an ASCII literal. -/
def ascii (s : String) : List UInt8 := s.toList.map fun c => c.toNat.toUInt8

/-- The bytes of a text. -/
def utf8 (s : String) : List UInt8 := s.toList.flatMap String.utf8EncodeChar

/-- Decode bytes that are well-formed UTF-8. -/
def fromUtf8 (bytes : List UInt8) : Option String := String.fromUTF8? ⟨bytes.toArray⟩

/-- The bytes of a text are those of its array. -/
theorem toByteArray_eq (s : String) : s.toByteArray = ⟨(utf8 s).toArray⟩ := by
  rw [← String.utf8Encode_toList, List.utf8Encode]
  apply ByteArray.ext
  rw [List.data_toByteArray]
  rfl

/-- The bytes of a text are decoded to the text. -/
theorem fromUtf8_utf8 (s : String) : fromUtf8 (utf8 s) = some s := by
  have hvalid : ByteArray.IsValidUTF8 ⟨(utf8 s).toArray⟩ := toByteArray_eq s ▸ s.isValidUTF8
  rw [fromUtf8, String.fromUTF8?, dif_pos hvalid, Option.some_inj, ← String.toByteArray_inj,
    toByteArray_eq s]
  rfl

/-- The bytes of a character behind ASCII are no ASCII bytes. -/
theorem le_toNat_of_mem_utf8EncodeChar {c : Char} (hc : 128 ≤ c.toNat) {b : UInt8}
    (hb : b ∈ String.utf8EncodeChar c) : 128 ≤ b.toNat := by
  have hv : 128 ≤ c.val.toNat := hc
  rw [String.utf8EncodeChar] at hb
  split at hb
  · omega
  · split at hb
    · simp only [List.mem_cons, List.not_mem_nil, or_false] at hb
      rcases hb with rfl | rfl <;> rw [UInt8.toNat_ofNat'] <;> omega
    · split at hb
      · simp only [List.mem_cons, List.not_mem_nil, or_false] at hb
        rcases hb with rfl | rfl | rfl <;> rw [UInt8.toNat_ofNat'] <;> omega
      · simp only [List.mem_cons, List.not_mem_nil, or_false] at hb
        rcases hb with rfl | rfl | rfl | rfl <;> rw [UInt8.toNat_ofNat'] <;> omega

/-- An ASCII character is encoded as its own byte. -/
theorem utf8Encode_of_ascii {cs : List Char} (h : ∀ c ∈ cs, c.toNat < 128) :
    cs.flatMap String.utf8EncodeChar = cs.map fun c => c.toNat.toUInt8 := by
  induction cs with
  | nil => rfl
  | cons c cs ih =>
    have hc : c.utf8Size = 1 := by
      have hlt : c.val.toNat < 128 := h c (List.mem_cons_self ..)
      have hmax : (127 : UInt32).toNat = 127 := rfl
      rw [Char.utf8Size_eq_one_iff, UInt32.le_iff_toNat_le]
      omega
    rw [List.flatMap_cons, String.utf8EncodeChar_eq_singleton hc, List.map_cons,
      ih fun d hd => h d (List.mem_cons_of_mem _ hd)]
    rfl

/-- An ASCII text is its own bytes. -/
theorem utf8_of_ascii {s : String} (h : ∀ c ∈ s.toList, c.toNat < 128) : utf8 s = ascii s :=
  utf8Encode_of_ascii h

/-- The bytes of an ASCII text. -/
theorem toByteArray_of_ascii {s : String} (h : ∀ c ∈ s.toList, c.toNat < 128) :
    s.toByteArray = ⟨(ascii s).toArray⟩ := by
  rw [toByteArray_eq, utf8_of_ascii h]

/-- An ASCII text has as many bytes as characters. -/
theorem utf8ByteSize_of_ascii {s : String} (h : ∀ c ∈ s.toList, c.toNat < 128) :
    s.utf8ByteSize = s.toList.length := by
  have hsize : s.utf8ByteSize = (ascii s).length := by
    rw [← String.size_toByteArray, toByteArray_of_ascii h]
    rfl
  rw [hsize, ascii, List.length_map]

/-- The bytes of an ASCII text are decoded to the text. -/
theorem fromUtf8_ascii {s : String} (h : ∀ c ∈ s.toList, c.toNat < 128) :
    fromUtf8 (ascii s) = some s := by
  rw [← utf8_of_ascii h, fromUtf8_utf8]

/-- Position of the first window equal to the pattern. -/
def position (pattern : List UInt8) : List UInt8 → Option ℕ
  | [] => none
  | b :: bytes =>
    if pattern.isPrefixOf (b :: bytes) then some 0 else (position pattern bytes).map (· + 1)

/-- A found window lies inside the bytes. -/
theorem position_add_length_le {pattern bytes : List UInt8} {i : ℕ}
    (h : position pattern bytes = some i) : i + pattern.length ≤ bytes.length := by
  induction bytes generalizing i with
  | nil => cases h
  | cons b bytes ih =>
    rw [position] at h
    by_cases hp : pattern.isPrefixOf (b :: bytes) = true
    · rw [if_pos hp] at h
      cases h
      have hle := (List.isPrefixOf_iff_prefix.mp hp).length_le
      omega
    · rw [if_neg hp, Option.map_eq_some_iff] at h
      obtain ⟨j, hj, rfl⟩ := h
      have hle := ih hj
      rw [List.length_cons]
      omega

/-- A window found in a beginning is also the first one of the whole. -/
theorem position_append {pattern bytes : List UInt8} {i : ℕ} (h : position pattern bytes = some i)
    (more : List UInt8) : position pattern (bytes ++ more) = some i := by
  induction bytes generalizing i with
  | nil => cases h
  | cons b bytes ih =>
    rw [List.cons_append, position]
    rw [position] at h
    by_cases hp : pattern.isPrefixOf (b :: bytes) = true
    · rw [if_pos hp] at h
      have hmore : pattern.isPrefixOf (b :: (bytes ++ more)) = true := by
        rw [List.isPrefixOf_iff_prefix] at hp ⊢
        exact hp.trans (List.prefix_append (b :: bytes) more)
      rw [if_pos hmore, h]
    · rw [if_neg hp, Option.map_eq_some_iff] at h
      obtain ⟨j, hj, rfl⟩ := h
      by_cases hq : pattern.isPrefixOf (b :: (bytes ++ more)) = true
      · exfalso
        have hle := position_add_length_le hj
        apply hp
        rw [List.isPrefixOf_iff_prefix] at hq ⊢
        apply List.prefix_of_prefix_length_le hq (List.prefix_append (b :: bytes) more)
        rw [List.length_cons]
        omega
      · rw [if_neg hq, ih hj]
        rfl

end LfpPipe.RustText
