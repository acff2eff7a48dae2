import Mathlib.Data.List.Basic

/-!
# Edits of tables

A table is a list of entries, and the first entry of a key counts. Assigning
a key keeps its place when it is there and comes last otherwise; assigning
many keys goes from left to right. What is read after an edit depends on the
edited keys only.
-/

namespace LfpPipe.TableEdits

variable {Key Value : Type*} [DecidableEq Key]

/-- Assign one key. -/
def assign (key : Key) (value : Value) : List (Key × Value) → List (Key × Value)
  | [] => [(key, value)]
  | (found, old) :: rest =>
    if found = key then (found, value) :: rest else (found, old) :: assign key value rest

/-- Remove one key. -/
def remove (key : Key) (table : List (Key × Value)) : List (Key × Value) :=
  table.filter fun entry => entry.1 ≠ key

/-- Assign many keys, one after the other. -/
def assignAll (values table : List (Key × Value)) : List (Key × Value) :=
  values.foldl (fun table entry => assign entry.1 entry.2 table) table

/-- An assigned key has its value, and the others are as they were. -/
theorem lookup_assign (key other : Key) (value : Value) (table : List (Key × Value)) :
    (assign key value table).lookup other =
      if other = key then some value else table.lookup other := by
  induction table with
  | nil =>
    by_cases hother : other = key
    · rw [assign, List.lookup_cons, if_pos hother, hother, beq_self_eq_true]
    · rw [assign, List.lookup_cons, if_neg hother, beq_eq_false_iff_ne.mpr hother]
  | cons entry rest ih =>
    obtain ⟨found, old⟩ := entry
    rw [assign]
    by_cases hfound : found = key
    · rw [if_pos hfound, List.lookup_cons, List.lookup_cons, hfound]
      by_cases hother : other = key
      · rw [if_pos hother, hother, beq_self_eq_true]
      · rw [if_neg hother, beq_eq_false_iff_ne.mpr hother]
    · rw [if_neg hfound, List.lookup_cons, List.lookup_cons, ih]
      by_cases hother : other = found
      · rw [hother, beq_self_eq_true, if_neg hfound, if_neg hfound]
      · rw [beq_eq_false_iff_ne.mpr hother]

/-- A removed key is gone, and the others are as they were. -/
theorem lookup_remove (key other : Key) (table : List (Key × Value)) :
    (remove key table).lookup other = if other = key then none else table.lookup other := by
  induction table with
  | nil =>
    by_cases hother : other = key
    · rw [if_pos hother]
      rfl
    · rw [if_neg hother]
      rfl
  | cons entry rest ih =>
    rw [remove] at ih ⊢
    by_cases hfound : entry.1 = key
    · rw [List.filter_cons_of_neg (by simpa using hfound), ih, List.lookup_cons]
      by_cases hother : other = key
      · rw [if_pos hother, if_pos hother]
      · have hentry : other ≠ entry.1 := fun h => hother (h.trans hfound)
        rw [if_neg hother, if_neg hother, beq_eq_false_iff_ne.mpr hentry]
    · rw [List.filter_cons_of_pos (by simpa using hfound), List.lookup_cons, List.lookup_cons, ih]
      by_cases hother : other = entry.1
      · rw [hother, beq_self_eq_true, if_neg hfound, if_neg hfound]
      · rw [beq_eq_false_iff_ne.mpr hother]

/-- Of many assignments the last one of a key counts. -/
theorem lookup_assignAll (other : Key) (values table : List (Key × Value)) :
    (assignAll values table).lookup other =
      (values.reverse.lookup other).or (table.lookup other) := by
  induction values generalizing table with
  | nil => rfl
  | cons entry rest ih =>
    have hstep : assignAll (entry :: rest) table =
        assignAll rest (assign entry.1 entry.2 table) := rfl
    rw [hstep, ih, lookup_assign, List.reverse_cons, List.lookup_append, Option.or_assoc]
    refine congrArg (Option.or _) ?_
    rw [List.lookup_cons, List.lookup_nil]
    by_cases hother : other = entry.1
    · rw [if_pos hother, hother, beq_self_eq_true]
      rfl
    · rw [if_neg hother, beq_eq_false_iff_ne.mpr hother]
      rfl

end LfpPipe.TableEdits
