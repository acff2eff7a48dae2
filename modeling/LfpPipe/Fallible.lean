import Mathlib.Logic.Basic
import Mathlib.Data.List.Forall2
import Mathlib.Data.List.Perm.Basic

/-!
# Fallible computations with a chain of error contexts

An error is its list of messages, outermost context first and the cause
last. Checks, missing values and added contexts are the only constructions;
each has one lemma that says when it succeeds.
-/

namespace LfpPipe.Fallible

/-- Messages of an error from its outermost context to its cause. -/
abbrev AnyError := List String

universe u

variable {α β : Type u}

/-- Fail with the message unless the condition holds. -/
def ensure (condition : Bool) (message : String) : Except AnyError Unit :=
  if condition then .ok () else .error [message]

/-- A missing value is an error with the message. -/
def orMissing (message : String) : Option α → Except AnyError α
  | some value => .ok value
  | none => .error [message]

/-- Put one more context in front of an error. -/
def withContext (message : String) : Except AnyError α → Except AnyError α
  | .ok value => .ok value
  | .error error => .error (message :: error)

/-- Run a check only when it is active. -/
def checkWhen (active : Bool) (check : Except AnyError Unit) : Except AnyError Unit :=
  if active then check else .ok ()

/-- Check a value that is present. -/
def checkSome (check : α → Except AnyError Unit) : Option α → Except AnyError Unit
  | some value => check value
  | none => .ok ()

/-- Run a fallible check on every element, stopping at the first failure. -/
def checkAll (check : α → Except AnyError Unit) : List α → Except AnyError Unit
  | [] => .ok ()
  | x :: xs => check x >>= fun _ => checkAll check xs

/-- Transform every element, stopping at the first failure. -/
def collect (f : α → Except AnyError β) : List α → Except AnyError (List β)
  | [] => .ok []
  | x :: xs => f x >>= fun y => collect f xs >>= fun ys => .ok (y :: ys)

/-- A sequence succeeds exactly when both parts do. -/
@[simp] theorem bind_eq_ok {ε : Type*} {x : Except ε α} {f : α → Except ε β} {b : β} :
    (x >>= f) = .ok b ↔ ∃ a, x = .ok a ∧ f a = .ok b := by
  cases x <;> simp [bind, Except.bind]

/-- A check succeeds exactly when its condition holds. -/
@[simp] theorem ensure_eq_ok {condition : Bool} {message : String} {u : Unit} :
    ensure condition message = .ok u ↔ condition = true := by
  cases condition <;> simp [ensure]

/-- A required value is there exactly when it is present. -/
@[simp] theorem orMissing_eq_ok {message : String} {value : Option α} {a : α} :
    orMissing message value = .ok a ↔ value = some a := by
  cases value <;> simp [orMissing]

/-- A context changes no success. -/
@[simp] theorem withContext_eq_ok {message : String} {x : Except AnyError α} {a : α} :
    withContext message x = .ok a ↔ x = .ok a := by
  cases x <;> simp [withContext]

/-- An inactive check always passes. -/
@[simp] theorem checkWhen_eq_ok {active : Bool} {check : Except AnyError Unit} {u : Unit} :
    checkWhen active check = .ok u ↔ (active = true → check = .ok ()) := by
  cases active <;> simp [checkWhen]

/-- A missing value always passes. -/
@[simp] theorem checkSome_eq_ok {check : α → Except AnyError Unit} {value : Option α} {u : Unit} :
    checkSome check value = .ok u ↔ ∀ a, value = some a → check a = .ok () := by
  cases value <;> simp [checkSome]

/-- All checks pass exactly when each of them does. -/
theorem checkAll_eq_ok {check : α → Except AnyError Unit} {xs : List α} {u : Unit} :
    checkAll check xs = .ok u ↔ ∀ x ∈ xs, check x = .ok () := by
  induction xs with
  | nil => simp [checkAll]
  | cons x xs ih =>
    simp only [checkAll, bind_eq_ok, ih, List.mem_cons, forall_eq_or_imp]
    constructor
    · rintro ⟨_, hx, hxs⟩
      exact ⟨hx, hxs⟩
    · rintro ⟨hx, hxs⟩
      exact ⟨(), hx, hxs⟩

/-- A collected list pairs every input with its result. -/
theorem collect_eq_ok {f : α → Except AnyError β} {xs : List α} {ys : List β} :
    collect f xs = .ok ys ↔ List.Forall₂ (fun x y => f x = .ok y) xs ys := by
  induction xs generalizing ys with
  | nil =>
    simp only [collect, Except.ok.injEq, List.forall₂_nil_left_iff]
    exact eq_comm
  | cons x xs ih =>
    simp only [collect, bind_eq_ok, List.forall₂_cons_left_iff]
    constructor
    · rintro ⟨y, hy, ys', hys, hc⟩
      cases hc
      exact ⟨y, ys', hy, ih.mp hys, rfl⟩
    · rintro ⟨y, ys', hy, hys, rfl⟩
      exact ⟨y, hy, ys', ih.mpr hys, rfl⟩

/-- The same elements in another order have the same results in another order. -/
theorem collect_perm {f : α → Except AnyError β} {xs others : List α} {ys : List β}
    (hperm : xs.Perm others) (h : collect f xs = .ok ys) :
    ∃ zs, collect f others = .ok zs ∧ ys.Perm zs := by
  obtain ⟨zs, hzs, hback⟩ := List.perm_comp_forall₂ hperm.symm (collect_eq_ok.mp h)
  exact ⟨zs, collect_eq_ok.mpr hzs, hback.symm⟩

/-- Related lists are related position by position. -/
theorem exists_getElem?_of_forall₂ {R : α → β → Prop} {xs : List α} {ys : List β}
    (h : List.Forall₂ R xs ys) {index : ℕ} {y : β} (hy : ys[index]? = some y) :
    ∃ x, xs[index]? = some x ∧ R x y := by
  induction h generalizing index with
  | nil => simp at hy
  | cons hr _ ih =>
    cases index with
    | zero =>
      cases hy
      exact ⟨_, rfl, hr⟩
    | succ index => exact ih hy

/-- Every member of a related list has a partner. -/
theorem exists_mem_of_forall₂ {R : α → β → Prop} {xs : List α} {ys : List β}
    (h : List.Forall₂ R xs ys) {y : β} (hy : y ∈ ys) : ∃ x ∈ xs, R x y := by
  obtain ⟨index, hi⟩ := List.getElem?_of_mem hy
  obtain ⟨x, hx, hr⟩ := exists_getElem?_of_forall₂ h hi
  exact ⟨x, List.mem_of_getElem? hx, hr⟩

/-- A computation has a result. -/
def Succeeds (x : Except AnyError α) : Prop := ∃ a, x = .ok a

/-- A sequence has a result exactly when both parts do. -/
theorem succeeds_bind {x : Except AnyError α} {f : α → Except AnyError β} :
    Succeeds (x >>= f) ↔ ∃ a, x = .ok a ∧ Succeeds (f a) := by
  simp only [Succeeds, bind_eq_ok]
  constructor
  · rintro ⟨b, a, ha, hb⟩
    exact ⟨a, ha, b, hb⟩
  · rintro ⟨a, ha, b, hb⟩
    exact ⟨b, a, ha, hb⟩

/-- Values always have a result. -/
theorem succeeds_ok (a : α) : Succeeds (.ok a) := ⟨a, rfl⟩

/-- A transformed list exists exactly when every element can be transformed. -/
theorem succeeds_collect {f : α → Except AnyError β} {xs : List α} :
    Succeeds (collect f xs) ↔ ∀ x ∈ xs, Succeeds (f x) := by
  induction xs with
  | nil => simp [collect, succeeds_ok]
  | cons x xs ih =>
    simp only [collect, succeeds_bind, List.forall_mem_cons, ←ih]
    constructor
    · rintro ⟨y, hy, ys, hys, -⟩
      exact ⟨⟨y, hy⟩, ys, hys⟩
    · rintro ⟨⟨y, hy⟩, ys, hys⟩
      exact ⟨y, hy, ys, hys, succeeds_ok _⟩

end LfpPipe.Fallible
