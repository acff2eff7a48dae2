import LfpPipe.RustText

/-!
# Paths whose segments may go back

Every segment of a path is a name, or is dropped, or takes the last name away.
Resolving a path keeps a stack of the names that are left. Which name comes
first is told without the stack: it stands behind segments that leave no name,
and the segments behind it never take it away. A text that begins with a slash
is such a path; its dot segments are removed in two ways, one of which drops
empty segments as well.
-/

namespace LfpPipe.SegmentPaths

open RustText

/-- What a segment does. -/
inductive Kind where
  /-- It is kept. -/
  | name
  /-- It is dropped. -/
  | drop
  /-- It takes the last name away. -/
  | up
  deriving DecidableEq, Repr

section

variable {α : Type*} (kind : α → Kind)

/-- The names that are left, given those before, the last one first. -/
def resolve : List α → List α → List α
  | stack, [] => stack.reverse
  | stack, segment :: rest =>
    match kind segment with
    | .name => resolve (segment :: stack) rest
    | .drop => resolve stack rest
    | .up => resolve stack.tail rest

/-- How many names are left, given how many there were before. -/
def depth : ℕ → List α → ℕ
  | n, [] => n
  | n, segment :: rest =>
    match kind segment with
    | .name => depth (n + 1) rest
    | .drop => depth n rest
    | .up => depth (n - 1) rest

variable {kind}

/-- The names that are left are counted. -/
theorem length_resolve (stack segments : List α) :
    (resolve kind stack segments).length = depth kind stack.length segments := by
  induction segments generalizing stack with
  | nil => exact List.length_reverse
  | cons segment rest ih =>
    rw [resolve, depth]
    cases kind segment with
    | name => exact ih (segment :: stack)
    | drop => exact ih stack
    | up =>
      dsimp only
      rw [ih stack.tail, List.length_tail]

/-- The segments of one path after those of another. -/
theorem resolve_append (stack first second : List α) :
    resolve kind stack (first ++ second) =
      resolve kind (resolve kind stack first).reverse second := by
  induction first generalizing stack with
  | nil => rw [List.nil_append, resolve, List.reverse_reverse]
  | cons segment rest ih =>
    rw [List.cons_append, resolve, resolve]
    cases kind segment with
    | name => exact ih (segment :: stack)
    | drop => exact ih stack
    | up => exact ih stack.tail

end

/-- The segments of a text that begins with a slash. -/
def segments (path : List Char) : List (List Char) := splitChars '/' path.tail

/-- A text begins with two slashes. -/
def Network (path : List Char) : Prop := ['/', '/'] <+: path

end LfpPipe.SegmentPaths
