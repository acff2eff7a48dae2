import LfpPipe.RustText

/-!
# References of a page as a browser reads them

A browser drops tabs and line ends from a reference, and for an address whose
scheme has a host it reads a backslash as a slash. A reference that then begins
with two slashes names a host; one that begins with a single slash is a path
of the page's own origin.
-/

namespace LfpPipe.UrlReferences

/-- A character that a browser drops before it reads a reference. -/
def isDropped (c : Char) : Bool := c == '\t' || c == '\n' || c == '\x0d'

/-- A character that a browser reads as a slash. -/
def isSlash (c : Char) : Bool := c == '/' || c == '\\'

/-- What a reference is relative to. -/
inductive Reference where
  /-- It names a host. -/
  | network
  /-- It is a path of the origin. -/
  | rooted
  /-- It is relative to the page, or has a scheme of its own. -/
  | other
  deriving DecidableEq, Repr

/-- Tell a text without dropped characters apart by its first two. -/
def classify : List Char → Reference
  | [] => .other
  | [first] => if isSlash first then .rooted else .other
  | first :: second :: _ =>
    if isSlash first then if isSlash second then .network else .rooted else .other

/-- How a browser reads a reference. -/
def browserReads (text : String) : Reference :=
  classify (text.toList.filter fun c => !isDropped c)

/-- A reference that a browser resolves to the origin of the page. -/
def StaysOnOrigin (text : String) : Prop := browserReads text = .rooted

/-- Only slashes are read as slashes. -/
theorem isSlash_iff {c : Char} : isSlash c = true ↔ c = '/' ∨ c = '\\' := by
  rw [isSlash, Bool.or_eq_true, beq_iff_eq, beq_iff_eq]

/-- A text is read as a path when its first character is a slash and its second
one is not. -/
theorem classify_eq_rooted_iff {cs : List Char} :
    classify cs = .rooted ↔
      (∃ first, cs[0]? = some first ∧ isSlash first = true) ∧
        ∀ second, cs[1]? = some second → isSlash second = false := by
  match cs with
  | [] =>
    constructor
    · intro h
      cases h
    · rintro ⟨⟨first, hfirst, -⟩, -⟩
      cases hfirst
  | [first] =>
    rw [classify]
    constructor
    · intro h
      split at h
      · rename_i hslash
        exact ⟨⟨first, rfl, hslash⟩, fun second hsecond => by cases hsecond⟩
      · cases h
    · rintro ⟨⟨other, hother, hslash⟩, -⟩
      cases hother
      rw [if_pos hslash]
  | first :: second :: rest =>
    rw [classify]
    constructor
    · intro h
      split at h
      · rename_i hslash
        split at h
        · cases h
        · rename_i hsecond
          refine ⟨⟨first, rfl, hslash⟩, fun other hother => ?_⟩
          cases hother
          exact Bool.not_eq_true _ ▸ hsecond
      · cases h
    · rintro ⟨⟨other, hother, hslash⟩, hsecond⟩
      cases hother
      rw [if_pos hslash, if_neg (Bool.not_eq_true _ ▸ hsecond second rfl)]

/-- A text without dropped characters that begins with a slash stays on the
origin when no second slash follows. -/
theorem staysOnOrigin_iff {text : String} (hclean : ∀ c ∈ text.toList, isDropped c = false)
    (hrooted : text.toList[0]? = some '/') :
    StaysOnOrigin text ↔ ∀ c, text.toList[1]? = some c → c ≠ '/' ∧ c ≠ '\\' := by
  have hkept : text.toList.filter (fun c => !isDropped c) = text.toList := by
    rw [List.filter_eq_self]
    intro c hc
    rw [hclean c hc, Bool.not_false]
  rw [StaysOnOrigin, browserReads, hkept, classify_eq_rooted_iff]
  have hsecond : ∀ c, isSlash c = false ↔ c ≠ '/' ∧ c ≠ '\\' := by
    intro c
    rw [← Bool.not_eq_true, isSlash_iff, not_or]
  constructor
  · rintro ⟨-, h⟩ c hc
    exact (hsecond c).mp (h c hc)
  · intro h
    exact ⟨⟨'/', hrooted, rfl⟩, fun c hc => (hsecond c).mpr (h c hc)⟩

end LfpPipe.UrlReferences
