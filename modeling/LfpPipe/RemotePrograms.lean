import Mathlib.Logic.Function.Basic
import LfpPipe.TransitionRuns

/-!
# Programs that call a remote service

A program ends with a result, or sends a request and goes on with the answer
to it. The service is a function from its state and a request to its next
state and an answer, so that one program can be run to its end, cut off
after any of its calls, or interleaved call by call with other programs. A
call may fail before the service has seen it, or after the service has acted
on it.
-/

namespace LfpPipe.RemotePrograms

open TransitionRuns

variable {Request : Type} {Answer : Request → Type} {State Result Next Name : Type}

/-- A program over typed requests. -/
inductive Program (Request : Type) (Answer : Request → Type) (Result : Type) where
  /-- The program has ended. -/
  | done (result : Result)
  /-- The program waits for the answer to a request. -/
  | call (request : Request) (next : Answer request → Program Request Answer Result)

namespace Program

/-- Go on with another program. -/
def bind : Program Request Answer Result → (Result → Program Request Answer Next) →
    Program Request Answer Next
  | done result, rest => rest result
  | call request next, rest => call request fun answer => (next answer).bind rest

/-- Send one request. -/
def send (request : Request) : Program Request Answer (Answer request) := call request done

instance : Monad (Program Request Answer) where
  pure := done
  bind := bind

/-- A pure step goes on at once. -/
@[simp] theorem pure_bind (result : Result) (rest : Result → Program Request Answer Next) :
    (pure result >>= rest) = rest result := rfl

/-- A call goes on after its answer. -/
@[simp] theorem send_bind (request : Request)
    (rest : Answer request → Program Request Answer Next) :
    (send request >>= rest) = call request rest := rfl

/-- A sequence waits where its first part waits. -/
@[simp] theorem call_bind (request : Request)
    (next : Answer request → Program Request Answer Result)
    (rest : Result → Program Request Answer Next) :
    (call request next >>= rest) = call request fun answer => next answer >>= rest := rfl

/-- A program that has ended goes on at once. -/
@[simp] theorem done_bind (result : Result) (rest : Result → Program Request Answer Next) :
    (done result >>= rest) = rest result := rfl

/-- Going on with nothing changes nothing. -/
@[simp] theorem bind_pure (program : Program Request Answer Result) :
    (program >>= pure) = program := by
  induction program with
  | done result => rfl
  | call request next ih => exact congrArg (call request) (funext ih)

/-- A sequence of three programs is one of two. -/
theorem bind_assoc {Last : Type} (program : Program Request Answer Result)
    (rest : Result → Program Request Answer Next) (last : Next → Program Request Answer Last) :
    ((program >>= rest) >>= last) = program >>= fun result => rest result >>= last := by
  induction program with
  | done result => rfl
  | call request next ih => exact congrArg (call request) (funext ih)

/-- Every request that the program can send is allowed, whatever the answers are. -/
def SendsOnly (allowed : Request → Prop) : Program Request Answer Result → Prop
  | done _ => True
  | call request next => allowed request ∧ ∀ answer, (next answer).SendsOnly allowed

/-- A sequence sends only what its parts send. -/
theorem sendsOnly_bind {allowed : Request → Prop} {program : Program Request Answer Result}
    {rest : Result → Program Request Answer Next} (hfirst : program.SendsOnly allowed)
    (hrest : ∀ result, (rest result).SendsOnly allowed) : (program >>= rest).SendsOnly allowed := by
  induction program with
  | done result => exact hrest result
  | call request next ih => exact ⟨hfirst.1, fun answer => ih answer (hfirst.2 answer)⟩

/-- What is allowed may be more. -/
theorem SendsOnly.mono {allowed wider : Request → Prop} {program : Program Request Answer Result}
    (hwider : ∀ request, allowed request → wider request) (h : program.SendsOnly allowed) :
    program.SendsOnly wider := by
  induction program with
  | done result => trivial
  | call request next ih => exact ⟨hwider request h.1, fun answer => ih answer (h.2 answer)⟩

/-- Every result that the program can have is allowed, whatever the answers are. -/
def Returns (post : Result → Prop) : Program Request Answer Result → Prop
  | done result => post result
  | call _ next => ∀ answer, (next answer).Returns post

/-- A program has some result. -/
theorem returns_true (program : Program Request Answer Result) :
    program.Returns fun _ => True := by
  induction program with
  | done result => trivial
  | call request next ih => exact ih

/-- The results of a sequence are those of its second part. -/
theorem returns_bind {mid : Result → Prop} {post : Next → Prop}
    {program : Program Request Answer Result} {rest : Result → Program Request Answer Next}
    (hfirst : program.Returns mid) (hrest : ∀ result, mid result → (rest result).Returns post) :
    (program >>= rest).Returns post := by
  induction program with
  | done result => exact hrest result hfirst
  | call request next ih => exact fun answer => ih answer (hfirst answer)

end Program

open Program

/-- How a service changes and answers. -/
abbrev Service (State Request : Type) (Answer : Request → Type) :=
  State → (request : Request) → State × Answer request

/-- Run a program to its end. -/
def exec (serve : Service State Request Answer) : State → Program Request Answer Result →
    State × Result
  | state, done result => (state, result)
  | state, call request next => exec serve (serve state request).1 (next (serve state request).2)

/-- A sequence runs its first part and then the rest. -/
theorem exec_bind (serve : Service State Request Answer) (state : State)
    (program : Program Request Answer Result) (rest : Result → Program Request Answer Next) :
    exec serve state (program >>= rest) =
      exec serve (exec serve state program).1 (rest (exec serve state program).2) := by
  induction program generalizing state with
  | done result => rfl
  | call request next ih => exact ih (serve state request).2 (serve state request).1

/-- What every allowed request preserves holds after a program that sends
only such requests. -/
theorem exec_invariant {serve : Service State Request Answer} {allowed : Request → Prop}
    {Inv : State → Prop}
    (hstep : ∀ state request, allowed request → Inv state → Inv (serve state request).1)
    {program : Program Request Answer Result} (hsends : program.SendsOnly allowed) {state : State}
    (h : Inv state) : Inv (exec serve state program).1 := by
  induction program generalizing state with
  | done result => exact h
  | call request next ih =>
    exact ih (serve state request).2 (hsends.2 _) (hstep state request hsends.1 h)

/-- What becomes of one call. -/
inductive Outcome (Failure : Type) where
  /-- The service acts on it and its answer arrives. -/
  | answered
  /-- The service never acts on it. -/
  | refused (failure : Failure)
  /-- The service acts on it, and its answer does not arrive. -/
  | lost (failure : Failure)
  deriving DecidableEq, Repr

/-- Whether the service acts on the call. -/
def Outcome.takesEffect {Failure : Type} : Outcome Failure → Bool
  | answered => true
  | refused _ => false
  | lost _ => true

/-- One call with a given outcome. -/
def deliver {Failure : Type} {Reply : Request → Type}
    (apply : Service State Request fun request => Except Failure (Reply request)) :
    Outcome Failure → Service State Request fun request => Except Failure (Reply request)
  | .answered, state, request => apply state request
  | .refused failure, state, _ => (state, .error failure)
  | .lost failure, state, request => ((apply state request).1, .error failure)

section

variable {Event : Type} (serve : Event → Service State Request Answer)

/-- Perform as many calls of a program as there are events; the result is the
state and what is left of the program. -/
def perform : List Event → State → Program Request Answer Result →
    State × Program Request Answer Result
  | [], state, program => (state, program)
  | _ :: _, state, done result => (state, done result)
  | event :: events, state, call request next =>
    perform events (serve event state request).1 (next (serve event state request).2)

/-- A program that has ended stays where it is. -/
@[simp] theorem perform_done (events : List Event) (state : State) (result : Result) :
    perform serve events state (done result : Program Request Answer Result) =
      (state, done result) := by
  cases events <;> rfl

/-- A program that was performed to its end has an allowed result. -/
theorem returns_perform {post : Result → Prop} {events : List Event} {state : State}
    {program : Program Request Answer Result} {result : Result} (h : program.Returns post)
    (hend : (perform serve events state program).2 = done result) : post result := by
  induction program generalizing events state with
  | done found =>
    rw [perform_done] at hend
    cases hend
    exact h
  | call request next ih =>
    cases events with
    | nil => cases hend
    | cons event events => exact ih _ (h _) hend

/-- A program that was performed to its end has made its first call. -/
theorem exists_cons_of_perform {events : List Event} {state last : State} {request : Request}
    {next : Answer request → Program Request Answer Result} {result : Result}
    (h : perform serve events state (call request next) = (last, done result)) :
    ∃ event rest, events = event :: rest ∧
      perform serve rest (serve event state request).1 (next (serve event state request).2) =
        (last, done result) := by
  cases events with
  | nil => cases h
  | cons event rest => exact ⟨event, rest, rfl, h⟩

/-- Some call that is performed meets a condition. -/
def Encounters (condition : Event → State → Request → Prop) :
    List Event → State → Program Request Answer Result → Prop
  | [], _, _ => False
  | _ :: _, _, done _ => False
  | event :: events, state, call request next =>
    condition event state request ∨
      Encounters condition events (serve event state request).1 (next (serve event state request).2)

/-- A call that does not meet the condition can be passed over. -/
theorem encounters_call {condition : Event → State → Request → Prop} {event : Event}
    {events : List Event} {state : State} {request : Request}
    {next : Answer request → Program Request Answer Result} (h : ¬ condition event state request) :
    Encounters serve condition (event :: events) state (call request next) ↔
      Encounters serve condition events (serve event state request).1
        (next (serve event state request).2) :=
  or_iff_right h

/-- A program that has ended makes no call. -/
@[simp] theorem encounters_done (condition : Event → State → Request → Prop)
    (events : List Event) (state : State) (result : Result) :
    Encounters serve condition events state (done result : Program Request Answer Result) ↔
      False := by
  cases events <;> rfl

/-- A call that meets a condition is one that the program may send. -/
theorem allowed_of_encounters {condition : Event → State → Request → Prop}
    {allowed : Request → Prop} {events : List Event} {state : State}
    {program : Program Request Answer Result} (hsends : program.SendsOnly allowed)
    (h : Encounters serve condition events state program) :
    ∃ event state request, allowed request ∧ condition event state request := by
  induction program generalizing events state with
  | done result => exact ((encounters_done serve condition events state result).mp h).elim
  | call request next ih =>
    cases events with
    | nil => exact h.elim
    | cons event events =>
      rcases h with hnow | hlater
      · exact ⟨event, state, request, hsends.1, hnow⟩
      · exact ih _ (hsends.2 _) hlater

/-- A sequence that was performed to its end has performed its first part to
its end, and its calls are those of both parts. -/
theorem exists_of_perform_bind {events : List Event} {state last : State}
    {program : Program Request Answer Result} {rest : Result → Program Request Answer Next}
    {final : Next} (h : perform serve events state (program >>= rest) = (last, done final)) :
    ∃ middle result later, perform serve events state program = (middle, done result) ∧
      perform serve later middle (rest result) = (last, done final) ∧
      ∀ condition, Encounters serve condition events state (program >>= rest) ↔
        Encounters serve condition events state program ∨
          Encounters serve condition later middle (rest result) := by
  induction program generalizing events state with
  | done result =>
    refine ⟨state, result, events, perform_done serve events state result, h, fun condition => ?_⟩
    rw [encounters_done, false_or]
    rfl
  | call request next ih =>
    obtain ⟨event, events, rfl, hrest⟩ := exists_cons_of_perform serve h
    obtain ⟨middle, result, later, hfirst, hsecond, hcalls⟩ := ih _ hrest
    refine ⟨middle, result, later, hfirst, hsecond, fun condition => ?_⟩
    exact (or_congr_right (hcalls condition)).trans or_assoc.symm

/-- One more call of one of several programs. -/
def interleave [DecidableEq Name] (system : State × (Name → Program Request Answer Result))
    (event : Name × Event) : Option (State × (Name → Program Request Answer Result)) :=
  match system.2 event.1 with
  | done _ => none
  | call request next =>
    some ((serve event.2 system.1 request).1,
      Function.update system.2 event.1 (next (serve event.2 system.1 request).2))

end

/-- What every call preserves, of the state and what is left of the program,
holds wherever the program is cut off. -/
theorem perform_invariant {Event : Type} {serve : Event → Service State Request Answer}
    {Inv : State → Program Request Answer Result → Prop}
    (hstep : ∀ event state request next, Inv state (call request next) →
      Inv (serve event state request).1 (next (serve event state request).2))
    {events : List Event} {state : State} {program : Program Request Answer Result}
    (h : Inv state program) :
    Inv (perform serve events state program).1 (perform serve events state program).2 := by
  induction events generalizing state program with
  | nil => exact h
  | cons event events ih =>
    cases program with
    | done result => exact h
    | call request next => exact ih (hstep event state request next h)

/-- A fact of the state that every allowed request preserves holds wherever a
program that sends only such requests is cut off. -/
theorem perform_state_invariant {Event : Type} {serve : Event → Service State Request Answer}
    {allowed : Request → Prop} {Inv : State → Prop}
    (hstep : ∀ event state request, allowed request → Inv state →
      Inv (serve event state request).1)
    {program : Program Request Answer Result} (hsends : program.SendsOnly allowed)
    (events : List Event) {state : State} (h : Inv state) :
    Inv (perform serve events state program).1 := by
  have hboth := @perform_invariant Request Answer State Result Event serve
    (fun state program => Inv state ∧ program.SendsOnly allowed)
    (fun event state request _ hcall =>
      ⟨hstep event state request hcall.2.1 hcall.1, hcall.2.2 _⟩) events state program ⟨h, hsends⟩
  exact hboth.1

section

variable {Event : Type} (serve : Event → Service State Request Answer) (Inv : State → Prop)

/-- Whatever becomes of its calls, a fact of the state holds all the time, and
the program ends with a result and a state as they should be. -/
def Ensures (post : Result → State → Prop) : Program Request Answer Result → State → Prop
  | done result, state => Inv state ∧ post result state
  | call request next, state =>
    Inv state ∧
      ∀ event, Ensures post (next (serve event state request).2) (serve event state request).1

variable {serve Inv}

/-- The fact holds at the start. -/
theorem Ensures.holds {post : Result → State → Prop} {program : Program Request Answer Result}
    {state : State} (h : Ensures serve Inv post program state) : Inv state := by
  cases program with
  | done result => exact h.1
  | call request next => exact h.1

/-- It holds wherever the program is cut off, and a program that was not cut off
has ended as it should. -/
theorem Ensures.perform {post : Result → State → Prop} {program : Program Request Answer Result}
    {state : State} (h : Ensures serve Inv post program state) (events : List Event) :
    Inv (perform serve events state program).1 ∧
      ∀ result, (perform serve events state program).2 = done result →
        post result (perform serve events state program).1 := by
  have hleft := @perform_invariant Request Answer State Result Event serve
    (fun state program => Ensures serve Inv post program state)
    (fun event _ _ _ hcall => hcall.2 event) events state program h
  refine ⟨hleft.holds, ?_⟩
  intro result hdone
  rw [hdone] at hleft
  exact hleft.2

/-- A sequence ensures what its rest ensures from wherever its first part ends. -/
theorem Ensures.bind {mid : Result → State → Prop} {post : Next → State → Prop}
    {program : Program Request Answer Result} {rest : Result → Program Request Answer Next}
    {state : State} (h : Ensures serve Inv mid program state)
    (hrest : ∀ result state, Inv state → mid result state →
      Ensures serve Inv post (rest result) state) :
    Ensures serve Inv post (program >>= rest) state := by
  induction program generalizing state with
  | done result => exact hrest result state h.1 h.2
  | call request next ih => exact ⟨h.1, fun event => ih _ (h.2 event)⟩

/-- What is ensured may be less. -/
theorem Ensures.weaken {post weaker : Result → State → Prop}
    {program : Program Request Answer Result} {state : State}
    (h : Ensures serve Inv post program state)
    (hweaker : ∀ result state, post result state → weaker result state) :
    Ensures serve Inv weaker program state := by
  induction program generalizing state with
  | done result => exact ⟨h.1, hweaker result state h.2⟩
  | call request next ih => exact ⟨h.1, fun event => ih _ (h.2 event)⟩

end

/-!
## Two runs

Two runs are compared call by call: both send the same request, and the same
becomes of it. The states, and so the answers, may differ.
-/

section

variable {Event : Type} (serve : Event → Service State Request Answer)

/-- Both programs send the same requests, whatever becomes of them, and end with
results and states as they should be. -/
inductive Agree (post : Result → Next → State → State → Prop) :
    State → State → Program Request Answer Result → Program Request Answer Next → Prop where
  /-- Both programs have ended. -/
  | ended {state other : State} {result : Result} {another : Next}
      (h : post result another state other) : Agree post state other (done result) (done another)
  /-- Both programs wait for the answer to one request. -/
  | waits {state other : State} {request : Request}
      {next : Answer request → Program Request Answer Result}
      {following : Answer request → Program Request Answer Next}
      (h : ∀ event, Agree post (serve event state request).1 (serve event other request).1
        (next (serve event state request).2) (following (serve event other request).2)) :
      Agree post state other (call request next) (call request following)

variable {serve}

/-- When one of two agreeing programs is performed to its end, so is the other one. -/
theorem Agree.perform {post : Result → Next → State → State → Prop} {state other : State}
    {program : Program Request Answer Result} {another : Program Request Answer Next}
    (h : Agree serve post state other program another) (events : List Event) {result : Result}
    (hend : (perform serve events state program).2 = done result) :
    ∃ last, (perform serve events other another).2 = done last ∧
      post result last (perform serve events state program).1
        (perform serve events other another).1 := by
  induction h generalizing events with
  | ended hpost =>
    rw [perform_done] at hend
    cases hend
    rw [perform_done, perform_done]
    exact ⟨_, rfl, hpost⟩
  | waits _ ih =>
    cases events with
    | nil => cases hend
    | cons event events => exact ih event events hend

/-- Programs that agree also agree on what is weaker. -/
theorem Agree.mono {post weaker : Result → Next → State → State → Prop} {state other : State}
    {program : Program Request Answer Result} {another : Program Request Answer Next}
    (h : Agree serve post state other program another)
    (hweaker : ∀ result last state other, post result last state other →
      weaker result last state other) : Agree serve weaker state other program another := by
  induction h with
  | ended hpost => exact .ended (hweaker _ _ _ _ hpost)
  | waits _ ih => exact .waits ih

/-- Sequences agree when their parts do. -/
theorem Agree.bind {Last Final : Type} {mid : Result → Next → State → State → Prop}
    {post : Last → Final → State → State → Prop} {state other : State}
    {program : Program Request Answer Result} {another : Program Request Answer Next}
    {rest : Result → Program Request Answer Last} {following : Next → Program Request Answer Final}
    (h : Agree serve mid state other program another)
    (hrest : ∀ result last state other, mid result last state other →
      Agree serve post state other (rest result) (following last)) :
    Agree serve post state other (program >>= rest) (another >>= following) := by
  induction h with
  | ended hmid => exact hrest _ _ _ _ hmid
  | waits _ ih => exact .waits ih

end

/-- The requests that a program sends on its way to its end. -/
def sent (serve : Service State Request Answer) : State → Program Request Answer Result →
    List Request
  | _, done _ => []
  | state, call request next =>
    request :: sent serve (serve state request).1 (next (serve state request).2)

/-- A sequence sends what its first part sends and then what the rest sends. -/
theorem sent_bind (serve : Service State Request Answer) (state : State)
    (program : Program Request Answer Result) (rest : Result → Program Request Answer Next) :
    sent serve state (program >>= rest) =
      sent serve state program ++
        sent serve (exec serve state program).1 (rest (exec serve state program).2) := by
  induction program generalizing state with
  | done result => rfl
  | call request next ih =>
    exact congrArg (request :: ·) (ih (serve state request).2 (serve state request).1)

/-- A program that sends only allowed requests sends no other on its way. -/
theorem allowed_of_mem_sent {serve : Service State Request Answer} {allowed : Request → Prop}
    {program : Program Request Answer Result} (h : program.SendsOnly allowed) {state : State}
    {request : Request} (hsent : request ∈ sent serve state program) : allowed request := by
  induction program generalizing state with
  | done result => cases hsent
  | call first next ih =>
    rcases List.mem_cons.mp hsent with rfl | hlater
    · exact h.1
    · exact ih _ (h.2 _) hlater

/-!
## Programs among others

A program is proved against everything that the other programs may do to the
state in the meantime: a relation that all of them keep with each of their
calls. The same relation is what the program itself has to keep.
-/

section

variable {Event : Type} (serve : Event → Service State Request Answer)
  (allowed : Event → State → Request → Prop) (Rely : State → State → Prop)

/-- However the state changes between its calls, each allowed call keeps the
relation, and the program ends with a result and a state as they should be. -/
def Meets (post : Result → State → Prop) : Program Request Answer Result → State → Prop
  | done result, state => post result state
  | call request next, state =>
    ∀ later, Rely state later → ∀ event, allowed event later request →
      Rely later (serve event later request).1 ∧
        Meets post (next (serve event later request).2) (serve event later request).1

variable {serve allowed Rely}

/-- What a program meets now it also meets after others have changed the state. -/
theorem Meets.mono {post : Result → State → Prop} {program : Program Request Answer Result}
    {state later : State} (htrans : ∀ {a b c}, Rely a b → Rely b c → Rely a c)
    (hstable : ∀ result {a b}, Rely a b → post result a → post result b)
    (h : Meets serve allowed Rely post program state) (hrely : Rely state later) :
    Meets serve allowed Rely post program later := by
  cases program with
  | done result => exact hstable result hrely h
  | call request next =>
    intro last hlast event hallowed
    exact h last (htrans hrely hlast) event hallowed

/-- A sequence meets what its rest meets from wherever its first part ends. -/
theorem Meets.bind {mid : Result → State → Prop} {post : Next → State → Prop}
    {program : Program Request Answer Result} {rest : Result → Program Request Answer Next}
    {state : State} (h : Meets serve allowed Rely mid program state)
    (hrest : ∀ result state, mid result state → Meets serve allowed Rely post (rest result) state) :
    Meets serve allowed Rely post (program >>= rest) state := by
  induction program generalizing state with
  | done result => exact hrest result state h
  | call request next ih =>
    intro later hlater event hallowed
    have hcall := h later hlater event hallowed
    exact ⟨hcall.1, ih _ hcall.2⟩

/-- A fact that everything keeps still holds at the end of a program. -/
theorem Meets.frame (fact : State → Prop) {post : Result → State → Prop}
    {program : Program Request Answer Result} {state : State}
    (hfact : ∀ {a b}, Rely a b → fact a → fact b)
    (h : Meets serve allowed Rely post program state) (hstate : fact state) :
    Meets serve allowed Rely (fun result state => post result state ∧ fact state) program
      state := by
  induction program generalizing state with
  | done result => exact ⟨h, hstate⟩
  | call request next ih =>
    intro later hlater event hallowed
    obtain ⟨hkept, hrest⟩ := h later hlater event hallowed
    exact ⟨hkept, ih _ hrest (hfact hkept (hfact hlater hstate))⟩

/-- A program that meets something also meets what is weaker. -/
theorem Meets.weaken {post weaker : Result → State → Prop}
    {program : Program Request Answer Result} {state : State}
    (h : Meets serve allowed Rely post program state)
    (hweaker : ∀ result state, post result state → weaker result state) :
    Meets serve allowed Rely weaker program state := by
  induction program generalizing state with
  | done result => exact hweaker result state h
  | call request next ih =>
    intro later hlater event hallowed
    obtain ⟨hkept, hrest⟩ := h later hlater event hallowed
    exact ⟨hkept, ih _ hrest⟩

/-- The next call of the chosen program is allowed. -/
def CallAllowed (allowed : Event → State → Request → Prop)
    (system : State × (Name → Program Request Answer Result)) (event : Name × Event) : Prop :=
  ∀ request next, system.2 event.1 = call request next → allowed event.2 system.1 request

/-- It is enough to look at where the program waits. -/
theorem callAllowed_of_waits {allowed : Event → State → Request → Prop}
    {system : State × (Name → Program Request Answer Result)} {event : Name × Event}
    (h : match system.2 event.1 with
      | done _ => True
      | call request _ => allowed event.2 system.1 request) : CallAllowed allowed system event := by
  intro request next hcall
  rw [hcall] at h
  exact h

/-- Programs that meet their ends alone, against what all of them may do, meet
them in every interleaving of their calls. -/
theorem interleave_meets [DecidableEq Name] {post : Name → Result → State → Prop}
    (hrefl : ∀ state, Rely state state)
    (htrans : ∀ {a b c}, Rely a b → Rely b c → Rely a c)
    (hstable : ∀ name result {a b}, Rely a b → post name result a → post name result b)
    {start last : State × (Name → Program Request Answer Result)} {events : List (Name × Event)}
    (h : ∀ name, Meets serve allowed Rely (post name) (start.2 name) start.1)
    (hguard : Guarded (interleave serve) (CallAllowed allowed) start events)
    (hrun : run (interleave serve) start events = some last) :
    Rely start.1 last.1 ∧ ∀ name, Meets serve allowed Rely (post name) (last.2 name) last.1 := by
  refine @run_invariant_guarded _ _ (interleave serve) (CallAllowed allowed)
    (fun system => Rely start.1 system.1 ∧
      ∀ name, Meets serve allowed Rely (post name) (system.2 name) system.1)
    ?_ start last events ⟨hrefl start.1, h⟩ hguard hrun
  intro system event next hinv hallowed hstep
  rw [interleave] at hstep
  cases hprogram : system.2 event.1 with
  | done result =>
    rw [hprogram] at hstep
    cases hstep
  | call request rest =>
    rw [hprogram] at hstep
    cases hstep
    have hmeets := hinv.2 event.1
    rw [hprogram] at hmeets
    have hcall := hmeets system.1 (hrefl system.1) event.2 (hallowed request rest hprogram)
    refine ⟨htrans hinv.1 hcall.1, ?_⟩
    intro name
    dsimp only
    by_cases hname : name = event.1
    · rw [hname, Function.update_self]
      exact hcall.2
    · rw [Function.update_of_ne hname]
      exact (hinv.2 name).mono htrans (hstable name) hcall.1

end

end LfpPipe.RemotePrograms
