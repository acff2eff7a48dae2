import LfpPipe.RemotePrograms

/-!
# Programs that follow a protocol

A protocol says which request may be sent in which phase, and to which phase
its answer leads. A program follows the protocol when each of its requests is
allowed in the phase that it has reached, whatever the answers were, and when
it ends only in phases that justify its result. When such programs are
interleaved call by call, every call advances the phase of one of them.
-/

namespace LfpPipe.ProgramProtocols

open RemotePrograms Program

variable {Request : Type} {Answer : Request → Type} {State Result Next Name Phase Event : Type}
  {advances : Phase → (request : Request) → Answer request → Phase → Prop}

/-- The program follows the protocol from a phase on, and ends in phases that
justify its result. -/
def Follows (advances : Phase → (request : Request) → Answer request → Phase → Prop)
    (final : Phase → Result → Prop) : Program Request Answer Result → Phase → Prop
  | done result, phase => final phase result
  | call request next, phase =>
    ∀ answer, ∃ later, advances phase request answer later ∧
      Follows advances final (next answer) later

/-- A sequence follows the protocol when its rest does from wherever its
first part ends. -/
theorem Follows.bind {mid : Phase → Result → Prop} {final : Phase → Next → Prop}
    {program : Program Request Answer Result} {rest : Result → Program Request Answer Next}
    {phase : Phase} (h : Follows advances mid program phase)
    (hrest : ∀ phase result, mid phase result → Follows advances final (rest result) phase) :
    Follows advances final (program >>= rest) phase := by
  induction program generalizing phase with
  | done result => exact hrest phase result h
  | call request next ih =>
    intro answer
    obtain ⟨later, hadvances, hnext⟩ := h answer
    exact ⟨later, hadvances, ih answer hnext⟩

/-- What one more call of one of several such programs does: the state
changes and answers, the phase of the program advances, and all programs
still follow the protocol. -/
theorem Follows.interleave [DecidableEq Name] {serve : Event → Service State Request Answer}
    {final : Name → Phase → Result → Prop}
    {system next : State × (Name → Program Request Answer Result)} {phases : Name → Phase}
    {event : Name × Event}
    (h : ∀ name, Follows advances (final name) (system.2 name) (phases name))
    (hstep : interleave serve system event = some next) :
    ∃ request rest later, system.2 event.1 = call request rest ∧
      advances (phases event.1) request (serve event.2 system.1 request).2 later ∧
      next.1 = (serve event.2 system.1 request).1 ∧
      next.2 = Function.update system.2 event.1 (rest (serve event.2 system.1 request).2) ∧
      ∀ name, Follows advances (final name) (next.2 name)
        (Function.update phases event.1 later name) := by
  rw [RemotePrograms.interleave] at hstep
  cases hprogram : system.2 event.1 with
  | done result =>
    rw [hprogram] at hstep
    cases hstep
  | call request rest =>
    rw [hprogram] at hstep
    cases hstep
    have hfollows := h event.1
    rw [hprogram] at hfollows
    obtain ⟨later, hadvances, hrest⟩ := hfollows (serve event.2 system.1 request).2
    refine ⟨request, rest, later, rfl, hadvances, rfl, rfl, ?_⟩
    intro name
    dsimp only
    by_cases hname : name = event.1
    · subst hname
      rw [Function.update_self, Function.update_self]
      exact hrest
    · rw [Function.update_of_ne hname, Function.update_of_ne hname]
      exact h name

end LfpPipe.ProgramProtocols
