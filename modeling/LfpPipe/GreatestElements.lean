import Mathlib.Order.Lattice
import Mathlib.Data.List.Basic

/-!
# Greatest elements of a list

A scan that keeps the greater of the best element so far and the next one ends
with a greatest element. Where no two elements have the same key there is only
one, whatever the order of the list and however often an element occurs.
-/

namespace LfpPipe.GreatestElements

variable {α β : Type*} [LinearOrder β]

/-- One of the elements has a key that no other key exceeds. -/
structure Greatest (key : α → β) (xs : List α) (best : α) : Prop where
  /-- It is an element. -/
  mem : best ∈ xs
  /-- No key is greater. -/
  le : ∀ x ∈ xs, key x ≤ key best

/-- A greatest element depends on the members of the list only. -/
theorem Greatest.congr {key : α → β} {xs ys : List α} {best : α} (h : Greatest key xs best)
    (hsame : ∀ x, x ∈ xs ↔ x ∈ ys) : Greatest key ys best where
  mem := (hsame best).mp h.mem
  le x hx := h.le x ((hsame x).mpr hx)

/-- There is one greatest element when keys tell the elements apart. -/
theorem Greatest.unique {key : α → β} {xs : List α} {best other : α} (h : Greatest key xs best)
    (hother : Greatest key xs other)
    (hinjective : ∀ x ∈ xs, ∀ y ∈ xs, key x = key y → x = y) : best = other := by
  have hle : key other ≤ key best := h.le other hother.mem
  have hge : key best ≤ key other := hother.le best h.mem
  exact hinjective best h.mem other hother.mem (le_antisymm hge hle)

/-- The greater of two elements; of equal ones the first. -/
def keepGreater (key : α → β) (best x : α) : α := if key best < key x then x else best

/-- A scan ends with a greatest element of its start and the list. -/
theorem greatest_foldl (key : α → β) (xs : List α) (start : α) :
    Greatest key (start :: xs) (xs.foldl (keepGreater key) start) := by
  induction xs generalizing start with
  | nil =>
    refine ⟨List.mem_singleton.mpr rfl, ?_⟩
    intro x hx
    rw [List.mem_singleton.mp hx]
    exact le_refl _
  | cons y ys ih =>
    have hstep := ih (keepGreater key start y)
    have hkept : keepGreater key start y = start ∨ keepGreater key start y = y := by
      rw [keepGreater]
      split
      · exact .inr rfl
      · exact .inl rfl
    have hstart : key start ≤ key (keepGreater key start y) := by
      rw [keepGreater]
      split
      · rename_i hlt
        exact le_of_lt hlt
      · exact le_refl _
    have hy : key y ≤ key (keepGreater key start y) := by
      rw [keepGreater]
      split
      · exact le_refl _
      · rename_i hlt
        exact not_lt.mp hlt
    have hbest := hstep.le _ List.mem_cons_self
    refine ⟨?_, ?_⟩
    · rw [List.foldl_cons]
      rcases List.mem_cons.mp hstep.mem with hkeep | hlater
      · rw [hkeep]
        rcases hkept with hold | hnew
        · rw [hold]
          exact List.mem_cons_self
        · rw [hnew]
          exact List.mem_cons_of_mem start List.mem_cons_self
      · exact List.mem_cons_of_mem start (List.mem_cons_of_mem y hlater)
    · intro x hx
      rw [List.foldl_cons]
      rcases List.mem_cons.mp hx with rfl | hx
      · exact le_trans hstart hbest
      · rcases List.mem_cons.mp hx with rfl | hx
        · exact le_trans hy hbest
        · exact hstep.le x (List.mem_cons_of_mem _ hx)

end LfpPipe.GreatestElements
