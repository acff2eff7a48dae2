import Mathlib.Logic.Basic

/-!
# Two runs of one fallible computation

Two runs are coupled by a relation when both fail with the same error, or both
succeed with related results. Coupled parts make a coupled sequence, so two runs
that start from related data are compared step by step; results that are related
by equality make the runs equal.
-/

namespace LfpPipe.CoupledRuns

universe u

variable {ε : Type*} {α β γ δ : Type u}

/-- Both runs fail alike, or both succeed with related results. -/
def Coupled (related : α → β → Prop) : Except ε α → Except ε β → Prop
  | .ok a, .ok b => related a b
  | .error left, .error right => left = right
  | _, _ => False

/-- A sequence is coupled when its parts are. -/
theorem Coupled.bind {first : α → β → Prop} {second : γ → δ → Prop} {x : Except ε α}
    {y : Except ε β} {f : α → Except ε γ} {g : β → Except ε δ} (h : Coupled first x y)
    (hnext : ∀ a b, first a b → Coupled second (f a) (g b)) :
    Coupled second (x >>= f) (y >>= g) := by
  cases x with
  | error left =>
    cases y with
    | error right => exact h
    | ok b => exact h.elim
  | ok a =>
    cases y with
    | error right => exact h.elim
    | ok b => exact hnext a b h

/-- Runs that are the same up to their end are coupled when the ends are. -/
theorem coupled_bind_same {related : γ → δ → Prop} (x : Except ε α) {f : α → Except ε γ}
    {g : α → Except ε δ} (hnext : ∀ a, Coupled related (f a) (g a)) :
    Coupled related (x >>= f) (x >>= g) := by
  cases x with
  | error error => exact rfl
  | ok a => exact hnext a

/-- Runs that are coupled by equality are the same. -/
theorem Coupled.eq {x y : Except ε α} (h : Coupled Eq x y) : x = y := by
  cases x with
  | error left =>
    cases y with
    | error right => exact congrArg Except.error h
    | ok b => exact h.elim
  | ok a =>
    cases y with
    | error right => exact h.elim
    | ok b => exact congrArg Except.ok h

end LfpPipe.CoupledRuns
