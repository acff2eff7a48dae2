import Mathlib.Data.List.Rotate

/-!
# A cursor that goes round a list

A cursor selects the element at its remainder by the length of a list and moves
on by one, again taken by the length. From any cursor whatsoever, as many turns
as the list is long take every element once.
-/

namespace LfpPipe.RotatingCursor

variable {α : Type*} {xs : List α}

/-- The elements that a cursor takes in successive turns. -/
inductive Takes (xs : List α) : ℕ → List α → Prop where
  /-- No turn. -/
  | nil (cursor : ℕ) : Takes xs cursor []
  /-- A turn, and the turns after it. -/
  | cons {cursor : ℕ} {x : α} {rest : List α} (hx : xs[cursor % xs.length]? = some x)
    (hrest : Takes xs ((cursor + 1) % xs.length) rest) : Takes xs cursor (x :: rest)

/-- A turn takes what is found by counting on from the first cursor. -/
theorem Takes.getElem?_eq {cursor : ℕ} {taken : List α} (h : Takes xs cursor taken) {turn : ℕ}
    (hturn : turn < taken.length) : taken[turn]? = xs[(turn + cursor) % xs.length]? := by
  induction h generalizing turn with
  | nil cursor => exact absurd hturn (Nat.not_lt_zero turn)
  | @cons cursor x rest hx _ ih =>
    cases turn with
    | zero =>
      rw [List.getElem?_cons_zero, Nat.zero_add]
      exact hx.symm
    | succ turn =>
      have hlater : turn < rest.length := by
        rw [List.length_cons] at hturn
        omega
      have hcursor : (turn + (cursor + 1) % xs.length) % xs.length =
          (turn + 1 + cursor) % xs.length := by
        calc (turn + (cursor + 1) % xs.length) % xs.length
            = (turn + (cursor + 1)) % xs.length := Nat.add_mod_mod turn (cursor + 1) xs.length
          _ = (turn + 1 + cursor) % xs.length := by
            have hsum : turn + (cursor + 1) = turn + 1 + cursor := by omega
            rw [hsum]
      rw [List.getElem?_cons_succ, ih hlater, hcursor]

/-- One turn for each element is a rotation of the list. -/
theorem Takes.eq_rotate {cursor : ℕ} {taken : List α} (h : Takes xs cursor taken)
    (hlength : taken.length = xs.length) : taken = xs.rotate cursor := by
  apply List.ext_getElem?
  intro turn
  by_cases hturn : turn < taken.length
  · have hinside : turn < xs.length := by omega
    rw [h.getElem?_eq hturn, List.getElem?_rotate hinside]
  · have houtside : (xs.rotate cursor).length ≤ turn := by
      rw [List.length_rotate]
      omega
    rw [List.getElem?_eq_none (not_lt.mp hturn), List.getElem?_eq_none houtside]

/-- One turn for each element takes each of them once. -/
theorem Takes.perm {cursor : ℕ} {taken : List α} (h : Takes xs cursor taken)
    (hlength : taken.length = xs.length) : taken.Perm xs := by
  rw [h.eq_rotate hlength]
  exact List.rotate_perm xs cursor

end LfpPipe.RotatingCursor
