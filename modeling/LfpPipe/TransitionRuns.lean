import Mathlib.Logic.Basic
import Mathlib.Data.List.Basic

/-!
# Runs of a guarded transition function

A system is a function that answers an event with a next state, or refuses
it. Scheduling, message contents and failures are all carried by the event,
so a list of events is one interleaving. The rules below turn facts about
one step into facts about every state of every run.
-/

namespace LfpPipe.TransitionRuns

variable {State Event : Type*}

/-- Follow the events in order; a refused event leaves no resulting state. -/
def run (step : State → Event → Option State) : State → List Event → Option State
  | state, [] => some state
  | state, event :: rest => (step state event).bind fun next => run step next rest

/-- Some list of events leads from the start to the state. -/
def Reachable (step : State → Event → Option State) (start state : State) : Prop :=
  ∃ events, run step start events = some state

/-- A nonempty run takes its first step and then runs the rest. -/
theorem run_cons_iff {step : State → Event → Option State} {start last : State}
    {event : Event} {rest : List Event} :
    run step start (event :: rest) = some last ↔
      ∃ next, step start event = some next ∧ run step next rest = some last := by
  rw [run, Option.bind_eq_some_iff]

/-- What every step preserves holds at the end of every run. -/
theorem run_invariant {step : State → Event → Option State} {Inv : State → Prop}
    (hstep : ∀ state event next, Inv state → step state event = some next → Inv next)
    {start last : State} {events : List Event} (h : Inv start)
    (hrun : run step start events = some last) : Inv last := by
  induction events generalizing start with
  | nil =>
    cases hrun
    exact h
  | cons event events ih =>
    obtain ⟨next, hnext, hrest⟩ := run_cons_iff.mp hrun
    exact ih (hstep start event next h hnext) hrest

/-- Reachable states satisfy every invariant of the step. -/
theorem Reachable.invariant {step : State → Event → Option State} {Inv : State → Prop}
    {start state : State}
    (hstep : ∀ state event next, Inv state → step state event = some next → Inv next)
    (h : Inv start) (hr : Reachable step start state) : Inv state := by
  obtain ⟨events, hrun⟩ := hr
  exact run_invariant hstep h hrun

/-- A run can be followed by another one. -/
theorem run_append {step : State → Event → Option State} {start middle last : State}
    {earlier later : List Event} (hearlier : run step start earlier = some middle)
    (hlater : run step middle later = some last) :
    run step start (earlier ++ later) = some last := by
  induction earlier generalizing start with
  | nil =>
    cases hearlier
    exact hlater
  | cons event earlier ih =>
    obtain ⟨next, hnext, hrest⟩ := run_cons_iff.mp hearlier
    exact run_cons_iff.mpr ⟨next, hnext, ih hrest⟩

/-- What a step leads to from a reachable state is reachable. -/
theorem Reachable.next {step : State → Event → Option State} {start state next : State}
    {event : Event} (hr : Reachable step start state) (hstep : step state event = some next) :
    Reachable step start next := by
  obtain ⟨events, hrun⟩ := hr
  exact ⟨events ++ [event], run_append hrun (run_cons_iff.mpr ⟨next, hstep, rfl⟩)⟩

/-- Every step of the run meets a condition on the state before it and the
event that it answers. -/
def Guarded (step : State → Event → Option State) (guard : State → Event → Prop) :
    State → List Event → Prop
  | _, [] => True
  | state, event :: rest =>
    guard state event ∧ ∀ next, step state event = some next → Guarded step guard next rest

/-- A step that meets the condition, before a run whose steps meet it. -/
theorem Guarded.cons {step : State → Event → Option State} {guard : State → Event → Prop}
    {start next : State} {event : Event} {rest : List Event} (hguard : guard start event)
    (hstep : step start event = some next) (hrest : Guarded step guard next rest) :
    Guarded step guard start (event :: rest) := by
  refine ⟨hguard, fun other hother => ?_⟩
  rw [hstep] at hother
  cases hother
  exact hrest

/-- A run whose events all meet a condition is guarded by it. -/
theorem guarded_of_forall {step : State → Event → Option State} {condition : Event → Prop}
    {events : List Event} (h : ∀ event ∈ events, condition event) (start : State) :
    Guarded step (fun _ => condition) start events := by
  induction events generalizing start with
  | nil => trivial
  | cons event events ih =>
    refine ⟨h event (List.mem_cons_self ..), fun next _ => ?_⟩
    exact ih (fun later hl => h later (List.mem_cons_of_mem _ hl)) next

/-- The run passes through the state, at its end or earlier. -/
def Visits (step : State → Event → Option State) (start : State) (events : List Event)
    (state : State) : Prop :=
  ∃ earlier later, events = earlier ++ later ∧ run step start earlier = some state

/-- What every guarded step preserves holds at the end of every guarded run. -/
theorem run_invariant_guarded {step : State → Event → Option State}
    {guard : State → Event → Prop} {Inv : State → Prop}
    (hstep : ∀ state event next, Inv state → guard state event →
      step state event = some next → Inv next)
    {start last : State} {events : List Event} (h : Inv start)
    (hguard : Guarded step guard start events)
    (hrun : run step start events = some last) : Inv last := by
  induction events generalizing start with
  | nil =>
    cases hrun
    exact h
  | cons event events ih =>
    obtain ⟨next, hnext, hrest⟩ := run_cons_iff.mp hrun
    exact ih (hstep start event next h hguard.1 hnext) (hguard.2 next hnext) hrest

/-- A run of no events visits its start only. -/
theorem visits_nil {step : State → Event → Option State} {start state : State} :
    Visits step start [] state ↔ state = start := by
  constructor
  · rintro ⟨earlier, later, hsplit, hrun⟩
    obtain ⟨rfl, -⟩ := List.append_eq_nil_iff.mp hsplit.symm
    cases hrun
    rfl
  · rintro rfl
    exact ⟨[], [], rfl, rfl⟩

/-- A run visits its start and what the rest of it visits. -/
theorem visits_cons {step : State → Event → Option State} {start state : State}
    {event : Event} {rest : List Event} :
    Visits step start (event :: rest) state ↔
      state = start ∨ ∃ next, step start event = some next ∧ Visits step next rest state := by
  constructor
  · rintro ⟨earlier, later, hsplit, hrun⟩
    cases earlier with
    | nil =>
      cases hrun
      exact .inl rfl
    | cons first earlier =>
      obtain ⟨rfl, rfl⟩ := List.cons.inj hsplit
      obtain ⟨next, hnext, hearlier⟩ := run_cons_iff.mp hrun
      exact .inr ⟨next, hnext, earlier, later, rfl, hearlier⟩
  · rintro (rfl | ⟨next, hnext, earlier, later, rfl, hearlier⟩)
    · exact ⟨[], event :: rest, rfl, rfl⟩
    · exact ⟨event :: earlier, later, rfl, run_cons_iff.mpr ⟨next, hnext, hearlier⟩⟩

/-- When guarded steps keep a property and unguarded steps break it at once,
the guard is the exact condition for the property to hold along a run. -/
theorem guarded_iff_visits {step : State → Event → Option State}
    {guard : State → Event → Prop} {Known Inv : State → Prop}
    (hknown : ∀ state event next, Known state → step state event = some next → Known next)
    (hkeep : ∀ state event next, Known state → Inv state → guard state event →
      step state event = some next → Inv next)
    (hbreak : ∀ state event, Known state → ¬ guard state event →
      ∃ next, step state event = some next ∧ ¬ Inv next)
    {start : State} {events : List Event} (hk : Known start) (hi : Inv start) :
    (∀ state, Visits step start events state → Inv state) ↔
      Guarded step guard start events := by
  induction events generalizing start with
  | nil =>
    refine ⟨fun _ => trivial, fun _ state hvisit => ?_⟩
    rw [visits_nil.mp hvisit]
    exact hi
  | cons event rest ih =>
    constructor
    · intro hall
      have hafter : ∀ next, step start event = some next → Inv next := by
        intro next hnext
        refine hall next (visits_cons.mpr (.inr ⟨next, hnext, [], rest, rfl, rfl⟩))
      refine ⟨?_, ?_⟩
      · by_contra hguard
        obtain ⟨next, hnext, hbad⟩ := hbreak start event hk hguard
        exact hbad (hafter next hnext)
      · intro next hnext
        refine (ih (hknown start event next hk hnext) (hafter next hnext)).mp ?_
        intro state hvisit
        exact hall state (visits_cons.mpr (.inr ⟨next, hnext, hvisit⟩))
    · rintro ⟨hguard, hrest⟩ state hvisit
      rcases visits_cons.mp hvisit with rfl | ⟨next, hnext, hlater⟩
      · exact hi
      · have hafter := hkeep start event next hk hi hguard hnext
        exact (ih (hknown start event next hk hnext) hafter).mpr (hrest next hnext) state hlater

end LfpPipe.TransitionRuns
