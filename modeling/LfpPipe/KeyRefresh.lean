import LfpPipe.ConfigExpansion
import LfpPipe.ProgramProtocols
import LfpPipe.VerificationKeys

/-!
# Refreshing the verification keys

A request either stands outside the lock of the last attempt or holds it and
goes through the stages of one refresh. Each call advances one request along
these stages, whatever tokens the requests carry, whatever the outside world
answers, and wherever a connection drops its request. The age of the keys
behind an accepted token, the effect of a failed fetch and the distance of
two attempts follow from where each request is.
-/

namespace LfpPipe.KeyRefresh

open Fallible SharedConfig ClientIdentity VerificationKeys
open ClientAuthorizer (Externals JwtAuthorizer)
open RemotePrograms Program ProgramProtocols TransitionRuns

variable {Material DecodingKey Key : Type}

/-- The stage of a request. -/
inductive Phase (Material : Type) where
  /-- Without the lock, with the keys and the time that it has just read. -/
  | outside (read : Option (KeyState Material × ℕ))
  /-- With the lock, and free to give it back. -/
  | entered
  /-- The last attempt is long enough ago. -/
  | due
  /-- An attempt has started. -/
  | attempted
  /-- Keys were fetched. -/
  | obtained (set : JwkSet Material)
  /-- They are in the cache file. -/
  | stored (set : JwkSet Material)
  /-- The fetch failed. -/
  | failed

/-- Whether the request is without the lock. -/
def Phase.isOutside : Phase Material → Bool
  | outside _ => true
  | _ => false

/-- The shortest time between two attempts. -/
def refreshGap (config : ClientAuthorizationConfig) : ℕ :=
  min (fromSecs 10) (fromSecs config.jwksRefreshSeconds)

/-- Which call may happen at which stage, and to which stage its answer leads. -/
def Advances (config : ClientAuthorizationConfig) : Phase Material →
    (request : Request Material) → Answer Material request → Phase Material → Prop
  | .outside _, .lock, _, later => later = .entered
  | .outside _, .readKeys, read, later => later = .outside (some read)
  | .entered, .elapsed, elapsed, later =>
    later = if refreshGap config ≤ elapsed then .due else .entered
  | .entered, .unlock, _, later => later = .outside none
  | .due, .unlock, _, later => later = .outside none
  | .due, .recordAttempt, _, later => later = .attempted
  | .attempted, .fetch, .ok set, later => later = .obtained set
  | .attempted, .fetch, .error _, later => later = .failed
  | .obtained set, .persist written, .ok _, later => written = set ∧ later = .stored set
  | .obtained set, .persist written, .error _, later => written = set ∧ later = .entered
  | .stored set, .writeKeys written, _, later => written = set ∧ later = .entered
  | .failed, .readKeys, _, later => later = .failed
  | .failed, .unlock, _, later => later = .outside none
  | _, _, _, _ => False

/-- The token is accepted with a key of the given state at the given time. -/
def Accepts (crate : TokenCrate Material DecodingKey) (config : ClientAuthorizationConfig)
    (token : String) (read : KeyState Material × ℕ) (claims : Value) : Prop :=
  ∃ algorithm kid key, keyFor crate config read.1 read.2 kid algorithm = .ok key ∧
    decodeToken crate config token algorithm key read.2 = .ok claims

/-- A request ends without the lock, and accepts only with the keys that it
has just read. -/
def Justified (crate : TokenCrate Material DecodingKey) (config : ClientAuthorizationConfig)
    (token : String) : Phase Material → Except Denial Value → Prop
  | .outside (some read), .ok claims => Accepts crate config token read claims
  | .outside _, .error _ => True
  | _, _ => False

/-!
## One request
-/

/-- No interval between attempts is shorter than the gap. -/
theorem refreshGap_le (config : ClientAuthorizationConfig) (force : Bool) :
    refreshGap config ≤ minimumInterval config force := by
  rw [refreshGap, minimumInterval]
  split
  · exact Nat.min_le_left _ _
  · exact Nat.min_le_right _ _

/-- A call that is allowed at its stage, and after which the rest follows. -/
theorem follows_ask {Result : Type} {config : ClientAuthorizationConfig}
    {final : Phase Material → Result → Prop} {phase : Phase Material} {request : Request Material}
    {rest : Answer Material request → Task Material Result}
    (h : ∀ answer, ∃ later, Advances config phase request answer later ∧
      Follows (Advances config) final (rest answer) later) :
    Follows (Advances config) final (ask request >>= rest) phase := h

/-- A refresh goes through its stages and can give the lock back. -/
theorem refreshKeys_follows (config : ClientAuthorizationConfig) :
    Follows (Advances config) (fun phase _ => phase = .entered ∨ phase = .failed)
      (refreshKeys config : Task Material (Except AnyError Unit)) .due := by
  refine follows_ask fun _ => ⟨.attempted, rfl, ?_⟩
  refine follows_ask fun fetched => ?_
  cases fetched with
  | ok set =>
    refine ⟨.obtained set, rfl, ?_⟩
    refine follows_ask fun persisted => ?_
    cases persisted with
    | ok _ =>
      refine ⟨.stored set, ⟨rfl, rfl⟩, ?_⟩
      exact follows_ask fun _ => ⟨.entered, ⟨rfl, rfl⟩, .inl rfl⟩
    | error error => exact ⟨.entered, ⟨rfl, rfl⟩, .inl rfl⟩
  | error error =>
    refine ⟨.failed, rfl, ?_⟩
    exact follows_ask fun read => ⟨.failed, rfl, .inr rfl⟩

/-- A refresh that may not be due begins and ends without the lock. -/
theorem refreshIfDue_follows (config : ClientAuthorizationConfig) (force : Bool)
    (read : Option (KeyState Material × ℕ)) :
    Follows (Advances config) (fun phase _ => phase = .outside none)
      (refreshIfDue config force : Task Material (Except AnyError Unit)) (.outside read) := by
  refine follows_ask fun _ => ⟨.entered, rfl, ?_⟩
  refine follows_ask fun elapsed => ?_
  by_cases hdue : elapsed < minimumInterval config force
  · refine ⟨if refreshGap config ≤ elapsed then .due else .entered, rfl, ?_⟩
    rw [if_pos hdue, Program.pure_bind]
    refine follows_ask fun _ => ⟨.outside none, ?_, rfl⟩
    by_cases hgap : refreshGap config ≤ elapsed
    · rw [if_pos hgap]
      rfl
    · rw [if_neg hgap]
      rfl
  · have hgap : refreshGap config ≤ elapsed :=
      (refreshGap_le config force).trans (Nat.le_of_not_lt hdue)
    refine ⟨.due, (if_pos hgap).symm, ?_⟩
    rw [if_neg hdue]
    refine (refreshKeys_follows config).bind ?_
    intro phase result hphase
    refine follows_ask fun _ => ⟨.outside none, ?_, rfl⟩
    rcases hphase with rfl | rfl
    · rfl
    · rfl

/-- A token is verified with the keys that were read last. -/
theorem verifyToken_follows (crate : TokenCrate Material DecodingKey) (bearer : JwtAuthorizer)
    (token : String) :
    Follows (Advances bearer.config) (fun phase result =>
        ∃ read, phase = .outside read ∧ ∀ claims, result = .ok claims →
          ∃ present, read = some present ∧ Accepts crate bearer.config token present claims)
      (verifyToken crate bearer token) (.outside none) := by
  refine (refreshIfDue_follows bearer.config false none).bind ?_
  rintro phase refreshed rfl
  cases hheader : refreshed >>= fun _ => tokenHeader crate bearer token with
  | error error =>
    dsimp only
    exact ⟨none, rfl, fun claims hclaims => nomatch hclaims⟩
  | ok header =>
    refine follows_ask fun read => ⟨.outside (some read), rfl, ?_⟩
    cases hkey : keyFor crate bearer.config read.1 read.2 header.2 header.1 with
    | ok key =>
      exact ⟨some read, rfl, fun claims hclaims =>
        ⟨read, rfl, header.1, header.2, key, hkey, hclaims⟩⟩
    | error error =>
      refine (refreshIfDue_follows bearer.config true (some read)).bind ?_
      rintro phase forced rfl
      cases forced with
      | error error => exact ⟨none, rfl, fun claims hclaims => nomatch hclaims⟩
      | ok due =>
        refine follows_ask fun again => ⟨.outside (some again), rfl, some again, rfl, ?_⟩
        intro claims hclaims
        obtain ⟨key, hagain, hdecode⟩ := bind_eq_ok.mp hclaims
        exact ⟨again, rfl, header.1, header.2, key, hagain, hdecode⟩

/-- A request follows the stages from its start to its end. -/
theorem authorizeToken_follows (crate : TokenCrate Material DecodingKey) (bearer : JwtAuthorizer)
    (token : String) :
    Follows (Advances bearer.config) (Justified crate bearer.config token)
      (authorizeToken crate bearer token) (.outside none) := by
  refine (verifyToken_follows crate bearer token).bind ?_
  rintro phase verified ⟨read, rfl, haccepts⟩
  cases verified with
  | error error => cases read <;> trivial
  | ok claims =>
    obtain ⟨present, rfl, haccept⟩ := haccepts claims rfl
    dsimp only
    cases validateRoles claims bearer.config with
    | error denial => trivial
    | ok _ => exact haccept

/-!
## All requests together
-/

/-- Every request is at a stage, and what they share fits the stages: the
holder of the lock is the request that is inside, and a due attempt is far
enough from the last one. -/
structure Consistent (crate : TokenCrate Material DecodingKey)
    (config : ClientAuthorizationConfig) (token : ℕ → String) (system : System Material)
    (phases : ℕ → Phase Material) : Prop where
  /-- Every request follows the stages. -/
  follows : ∀ task, Follows (Advances config) (Justified crate config (token task))
    (system.2 task) (phases task)
  /-- The lock is held by the request inside. -/
  holder : ∀ task, system.1.holder = some task ↔ (phases task).isOutside = false
  /-- The last attempt is not in the future. -/
  clock : system.1.lastAttempt ≤ system.1.instant
  /-- A due attempt is far enough from the last one. -/
  due : ∀ task, phases task = .due →
    system.1.lastAttempt + refreshGap config ≤ system.1.instant

section

variable {crate : TokenCrate Material DecodingKey} {config : ClientAuthorizationConfig}
  {task : ℕ} {world : World Material} {shared : Shared Material} {phase later : Phase Material}
  {request : Request Material}

/-- Calls take no time on the monotonic clock. -/
theorem serve_instant : (serve crate config task world shared request).1.instant =
    shared.instant := by
  cases request <;> rfl

/-- Only an attempt changes the time of the last attempt. -/
theorem serve_lastAttempt (h : request ≠ .recordAttempt) :
    (serve crate config task world shared request).1.lastAttempt = shared.lastAttempt := by
  cases request with
  | recordAttempt => exact absurd rfl h
  | _ => rfl

/-- Only taking and giving back the lock changes its holder. -/
theorem serve_holder (hlock : request ≠ .lock) (hunlock : request ≠ .unlock) :
    (serve crate config task world shared request).1.holder = shared.holder := by
  cases request with
  | lock => exact absurd rfl hlock
  | unlock => exact absurd rfl hunlock
  | _ => rfl

/-- What a call does to the stage of its request, on what is shared. -/
inductive Moves (config : ClientAuthorizationConfig) (world : World Material)
    (shared : Shared Material) : Phase Material → Request Material → Phase Material → Prop where
  | enters (read : Option (KeyState Material × ℕ)) :
    Moves config world shared (.outside read) .lock .entered
  | isDue (h : shared.lastAttempt + refreshGap config ≤ shared.instant) :
    Moves config world shared .entered .elapsed .due
  | isEarly : Moves config world shared .entered .elapsed .entered
  | attempts : Moves config world shared .due .recordAttempt .attempted
  | obtains {set : JwkSet Material} (h : fetchJwks config world.network = .ok set) :
    Moves config world shared .attempted .fetch (.obtained set)
  | fails {error : AnyError} (h : fetchJwks config world.network = .error error) :
    Moves config world shared .attempted .fetch .failed
  | stores (set : JwkSet Material) :
    Moves config world shared (.obtained set) (.persist set) (.stored set)
  | discards (set : JwkSet Material) :
    Moves config world shared (.obtained set) (.persist set) .entered
  | installs (set : JwkSet Material) :
    Moves config world shared (.stored set) (.writeKeys set) .entered
  | reads (read : Option (KeyState Material × ℕ)) :
    Moves config world shared (.outside read) .readKeys
      (.outside (some (shared.keys, shared.systemTime)))
  | retains : Moves config world shared .failed .readKeys .failed
  | leaves {phase : Phase Material} (h : phase.isOutside = false) :
    Moves config world shared phase .unlock (.outside none)

/-- A call that is allowed at its stage moves its request as listed. -/
theorem moves_of_advances (hclock : shared.lastAttempt ≤ shared.instant)
    (h : Advances config phase request (serve crate config task world shared request).2 later) :
    Moves config world shared phase request later := by
  cases request with
  | lock =>
    cases phase with
    | outside read =>
      cases h
      exact .enters read
    | _ => exact h.elim
  | elapsed =>
    cases phase with
    | entered =>
      have hlater : later = if refreshGap config ≤ shared.instant - shared.lastAttempt
        then .due else .entered := h
      rw [hlater]
      split
      · exact .isDue (by omega)
      · exact .isEarly
    | _ => exact h.elim
  | recordAttempt =>
    cases phase with
    | due =>
      cases h
      exact .attempts
    | _ => exact h.elim
  | fetch =>
    cases phase with
    | attempted =>
      cases hfetched : fetchJwks config world.network with
      | ok set =>
        dsimp only [serve] at h
        rw [hfetched] at h
        cases h
        exact .obtains hfetched
      | error error =>
        dsimp only [serve] at h
        rw [hfetched] at h
        cases h
        exact .fails hfetched
    | _ => exact h.elim
  | persist written =>
    generalize (serve crate config task world shared (.persist written)).2 = answer at h
    cases phase with
    | obtained set =>
      cases answer with
      | ok _ =>
        obtain ⟨rfl, rfl⟩ := h
        exact .stores written
      | error error =>
        obtain ⟨rfl, rfl⟩ := h
        exact .discards written
    | _ => exact h.elim
  | writeKeys written =>
    cases phase with
    | stored set =>
      obtain ⟨rfl, rfl⟩ := h
      exact .installs written
    | _ => exact h.elim
  | readKeys =>
    cases phase with
    | outside read =>
      cases h
      exact .reads read
    | failed =>
      cases h
      exact .retains
    | _ => exact h.elim
  | unlock =>
    cases phase with
    | entered | due | failed =>
      cases h
      exact .leaves rfl
    | _ => exact h.elim

/-- Only taking and giving back the lock enters and leaves. -/
theorem Moves.isOutside_eq (h : Moves config world shared phase request later)
    (hlock : request ≠ .lock) (hunlock : request ≠ .unlock) :
    later.isOutside = phase.isOutside := by
  cases h with
  | enters => exact absurd rfl hlock
  | leaves => exact absurd rfl hunlock
  | _ => rfl

/-- The lock is taken from outside. -/
theorem Moves.of_lock (h : Moves config world shared phase .lock later) : later = .entered := by
  cases h with
  | enters read => rfl

/-- The lock is given back from inside. -/
theorem Moves.of_unlock (h : Moves config world shared phase .unlock later) :
    phase.isOutside = false ∧ later = .outside none := by
  cases h with
  | leaves hinside => exact ⟨hinside, rfl⟩

/-- An attempt starts when it is due. -/
theorem Moves.of_recordAttempt (h : Moves config world shared phase .recordAttempt later) :
    phase = .due := by
  cases h with
  | attempts => rfl

/-- An attempt becomes due when the last one is far enough away. -/
theorem Moves.of_due (h : Moves config world shared phase request .due) :
    request = .elapsed ∧ shared.lastAttempt + refreshGap config ≤ shared.instant := by
  cases h with
  | isDue hgap => exact ⟨rfl, hgap⟩

/-- A result that accepts a token comes from the call that reads the keys. -/
theorem Moves.of_justified {token : String} {claims : Value}
    (h : Moves config world shared phase request later)
    (hend : Justified crate config token later (.ok claims)) :
    request = .readKeys ∧ Accepts crate config token (shared.keys, shared.systemTime) claims := by
  cases h with
  | reads read => exact ⟨rfl, hend⟩
  | _ => exact hend.elim

end

section

variable {crate : TokenCrate Material DecodingKey} {config : ClientAuthorizationConfig}
  {token : ℕ → String} {system next : System Material} {phases : ℕ → Phase Material}

/-- At most one request is inside. -/
theorem Consistent.eq_of_inside (h : Consistent crate config token system phases) {task other : ℕ}
    (htask : (phases task).isOutside = false) (hother : (phases other).isOutside = false) :
    task = other := by
  have hholder := (h.holder task).mpr htask
  rw [(h.holder other).mpr hother] at hholder
  exact (Option.some.inj hholder).symm

/-- What a request does that goes on: its call is allowed at its stage and
advances it, and nothing else changes. -/
theorem Consistent.proceed (h : Consistent crate config token system phases) {task : ℕ}
    {world : World Material} (hstep : step crate config system (.proceed task world) = some next) :
    ∃ request rest later, system.2 task = call request rest ∧
      (request = .lock → system.1.holder = none) ∧
      Moves config world system.1 (phases task) request later ∧
      next.1 = (serve crate config task world system.1 request).1 ∧
      next.2 = Function.update system.2 task
        (rest (serve crate config task world system.1 request).2) ∧
      ∀ name, Follows (Advances config) (Justified crate config (token name)) (next.2 name)
        (Function.update phases task later name) := by
  rw [step] at hstep
  split at hstep
  · cases hstep
  · rename_i hfree
    obtain ⟨request, rest, later, hprogram, hadvances, hshared, htasks, hfollows⟩ :=
      Follows.interleave h.follows hstep
    have hmoves := moves_of_advances h.clock hadvances
    refine ⟨request, rest, later, hprogram, ?_, hmoves, hshared, htasks, hfollows⟩
    rintro rfl
    have hprogram : system.2 task = call .lock rest := hprogram
    rw [hprogram, waitsForLock, Bool.and_true, Bool.not_eq_true, Option.isSome_eq_false_iff,
      Option.isNone_iff_eq_none] at hfree
    exact hfree

/-- After a request went on, the lock is held by the request inside. -/
theorem Consistent.holder_of_proceed (h : Consistent crate config token system phases) {task : ℕ}
    {world : World Material} {request : Request Material} {later : Phase Material}
    (hfree : request = .lock → system.1.holder = none)
    (hmoves : Moves config world system.1 (phases task) request later) (name : ℕ) :
    (serve crate config task world system.1 request).1.holder = some name ↔
      (Function.update phases task later name).isOutside = false := by
  by_cases hlock : request = .lock
  · subst hlock
    have hnone : ∀ other, (phases other).isOutside = true := by
      intro other
      by_contra hinside
      have hholder := (h.holder other).mpr ((Bool.not_eq_true _).mp hinside)
      rw [hfree rfl] at hholder
      cases hholder
    by_cases hname : name = task
    · subst hname
      rw [Function.update_self, hmoves.of_lock]
      exact ⟨fun _ => rfl, fun _ => rfl⟩
    · rw [Function.update_of_ne hname, hnone name]
      exact ⟨fun hholder => absurd (Option.some.inj hholder).symm hname,
        fun hfalse => (nomatch hfalse)⟩
  · by_cases hunlock : request = .unlock
    · subst hunlock
      obtain ⟨hinside, rfl⟩ := hmoves.of_unlock
      by_cases hname : name = task
      · subst hname
        rw [Function.update_self]
        exact ⟨fun hholder => (nomatch hholder), fun hfalse => (nomatch hfalse)⟩
      · rw [Function.update_of_ne hname]
        exact ⟨fun hholder => (nomatch hholder),
          fun hother => absurd (h.eq_of_inside hother hinside) hname⟩
    · rw [serve_holder hlock hunlock, h.holder name]
      by_cases hname : name = task
      · subst hname
        rw [Function.update_self, hmoves.isOutside_eq hlock hunlock]
      · rw [Function.update_of_ne hname]

/-- After a request went on, a due attempt is far enough from the last one. -/
theorem Consistent.due_of_proceed (h : Consistent crate config token system phases) {task : ℕ}
    {world : World Material} {request : Request Material} {later : Phase Material}
    (hmoves : Moves config world system.1 (phases task) request later) (name : ℕ)
    (hdue : Function.update phases task later name = .due) :
    (serve crate config task world system.1 request).1.lastAttempt + refreshGap config ≤
      system.1.instant := by
  by_cases hname : name = task
  · subst hname
    rw [Function.update_self] at hdue
    subst hdue
    obtain ⟨rfl, hgap⟩ := hmoves.of_due
    exact hgap
  · rw [Function.update_of_ne hname] at hdue
    by_cases hrecord : request = .recordAttempt
    · subst hrecord
      exact absurd (h.eq_of_inside (congrArg Phase.isOutside hdue)
        (congrArg Phase.isOutside hmoves.of_recordAttempt)) hname
    · rw [serve_lastAttempt hrecord]
      exact h.due name hdue

/-- A request that goes on keeps the stages consistent. -/
theorem Consistent.of_proceed (h : Consistent crate config token system phases) {task : ℕ}
    {world : World Material} {request : Request Material} {later : Phase Material}
    (hfree : request = .lock → system.1.holder = none)
    (hmoves : Moves config world system.1 (phases task) request later)
    (hshared : next.1 = (serve crate config task world system.1 request).1)
    (hfollows : ∀ name, Follows (Advances config) (Justified crate config (token name))
      (next.2 name) (Function.update phases task later name)) :
    Consistent crate config token next (Function.update phases task later) := by
  refine ⟨hfollows, ?_, ?_, ?_⟩
  · intro name
    rw [hshared]
    exact h.holder_of_proceed hfree hmoves name
  · rw [hshared, serve_instant]
    by_cases hrecord : request = .recordAttempt
    · subst hrecord
      exact le_refl system.1.instant
    · rw [serve_lastAttempt hrecord]
      exact h.clock
  · intro name hdue
    rw [hshared, serve_instant]
    exact h.due_of_proceed hmoves name hdue

/-- The clocks keep the stages consistent. -/
theorem Consistent.of_advance (h : Consistent crate config token system phases)
    {instant systemTime : ℕ}
    (hstep : step crate config system (.advance instant systemTime) = some next) :
    Consistent crate config token next phases := by
  cases hstep
  exact ⟨h.follows, h.holder, h.clock.trans (Nat.le_add_right _ _),
    fun task hdue => (h.due task hdue).trans (Nat.le_add_right _ _)⟩

/-- A dropped request leaves the stages consistent and is outside. -/
theorem Consistent.of_abandon (h : Consistent crate config token system phases) {task : ℕ}
    (hstep : step crate config system (.abandon task) = some next) :
    Consistent crate config token next (Function.update phases task (.outside none)) := by
  cases hstep
  refine ⟨?_, ?_, h.clock, ?_⟩
  · intro name
    dsimp only
    by_cases hname : name = task
    · subst hname
      rw [Function.update_self, Function.update_self]
      trivial
    · rw [Function.update_of_ne hname, Function.update_of_ne hname]
      exact h.follows name
  · intro name
    dsimp only [Shared.release]
    by_cases hname : name = task
    · subst hname
      rw [Function.update_self]
      by_cases hheld : system.1.holder = some name
      · rw [if_pos hheld]
        exact ⟨fun hholder => (nomatch hholder), fun hfalse => (nomatch hfalse)⟩
      · rw [if_neg hheld]
        exact ⟨fun hholder => absurd hholder hheld, fun hfalse => (nomatch hfalse)⟩
    · rw [Function.update_of_ne hname, ←h.holder name]
      by_cases hheld : system.1.holder = some task
      · rw [if_pos hheld, hheld]
        exact ⟨fun hholder => (nomatch hholder),
          fun hholder => absurd (Option.some.inj hholder).symm hname⟩
      · rw [if_neg hheld]
  · intro name hdue
    by_cases hname : name = task
    · subst hname
      rw [Function.update_self] at hdue
      cases hdue
    · rw [Function.update_of_ne hname] at hdue
      exact h.due name hdue

/-- Every event keeps the requests at stages that fit what they share. -/
theorem Consistent.step {event : Event Material}
    (h : ∃ phases, Consistent crate config token system phases)
    (hstep : step crate config system event = some next) :
    ∃ phases, Consistent crate config token next phases := by
  obtain ⟨phases, h⟩ := h
  cases event with
  | advance instant systemTime => exact ⟨phases, h.of_advance hstep⟩
  | abandon task => exact ⟨_, h.of_abandon hstep⟩
  | proceed task world =>
    obtain ⟨request, rest, later, -, hfree, hmoves, hshared, -, hfollows⟩ := h.proceed hstep
    exact ⟨_, h.of_proceed hfree hmoves hshared hfollows⟩

/-- Requests that have not started are at the first stage. -/
theorem consistent_requests {bearer : JwtAuthorizer} {shared : Shared Material}
    (hholder : shared.holder = none) (hclock : shared.lastAttempt ≤ shared.instant)
    (token : ℕ → String) :
    Consistent crate bearer.config token (requests crate bearer shared token)
      fun _ => .outside none := by
  refine ⟨fun task => authorizeToken_follows crate bearer (token task), ?_, hclock, ?_⟩
  · intro task
    dsimp only [requests]
    rw [hholder]
    exact ⟨fun hheld => (nomatch hheld), fun hfalse => (nomatch hfalse)⟩
  · intro task hdue
    cases hdue

/-- Every state of every run has its requests at stages. -/
theorem consistent_of_run {bearer : JwtAuthorizer} {shared : Shared Material}
    (hholder : shared.holder = none) (hclock : shared.lastAttempt ≤ shared.instant)
    {events : List (Event Material)}
    (hrun : run (VerificationKeys.step crate bearer.config)
      (requests crate bearer shared token) events = some system) :
    ∃ phases, Consistent crate bearer.config token system phases := by
  have hstart : ∃ phases, Consistent crate bearer.config token
      (requests crate bearer shared token) phases := ⟨_, consistent_requests hholder hclock token⟩
  exact run_invariant (fun _ _ _ h hstep => Consistent.step h hstep) hstart hrun

/-!
## Age, failed fetches and distance of attempts
-/

/-- A key that was found is one of the keys, is old enough for nobody to
refuse, and is the key that signatures are checked with. -/
theorem exists_of_keyFor {state : KeyState Material} {now : ℕ} {kid : String}
    {algorithm : ClientAuthorizer.Algorithm} {key : DecodingKey}
    (h : keyFor crate config state now kid algorithm = .ok key) :
    ∃ jwk ∈ state.set.keys, crate.fromJwk jwk = .ok key ∧
      (config.jwksMaxStaleSeconds ≠ 0 →
        now ≤ state.obtainedAt + fromSecs config.jwksMaxStaleSeconds) := by
  simp only [keyFor, bind_eq_ok, orMissing_eq_ok, withContext_eq_ok] at h
  obtain ⟨_, hage, jwk, hfind, _, -, _, -, hkey⟩ := h
  refine ⟨jwk, List.mem_of_find?_eq_some hfind, hkey, ?_⟩
  intro hlimit
  rw [ensureCacheAge, if_neg hlimit, ensure_eq_ok, decide_eq_true_eq] at hage
  omega

/-- A token is accepted by the call that reads the keys. -/
theorem Consistent.accepts (h : Consistent crate config token system phases)
    {event : Event Material} (hstep : VerificationKeys.step crate config system event = some next)
    {task : ℕ} {claims : Value} (hpending : system.2 task ≠ done (.ok claims))
    (haccepted : next.2 task = done (.ok claims)) :
    next.1 = system.1 ∧
      Accepts crate config (token task) (system.1.keys, system.1.systemTime) claims := by
  cases event with
  | advance instant systemTime =>
    cases hstep
    exact absurd haccepted hpending
  | abandon other =>
    cases hstep
    by_cases hname : task = other
    · subst hname
      dsimp only at haccepted
      rw [Function.update_self] at haccepted
      cases haccepted
    · dsimp only at haccepted
      rw [Function.update_of_ne hname] at haccepted
      exact absurd haccepted hpending
  | proceed other world =>
    obtain ⟨request, rest, later, -, -, hmoves, hshared, htasks, hfollows⟩ := h.proceed hstep
    by_cases hname : task = other
    · subst hname
      have hend := hfollows task
      rw [haccepted, Function.update_self] at hend
      have hend : Justified crate config (token task) later (.ok claims) := hend
      obtain ⟨rfl, haccepts⟩ := hmoves.of_justified hend
      exact ⟨hshared, haccepts⟩
    · rw [htasks, Function.update_of_ne hname] at haccepted
      exact absurd haccepted hpending

/-- Another request cannot touch the keys while one is inside. -/
theorem Consistent.keys_of_other (h : Consistent crate config token system phases)
    {task other : ℕ} {world : World Material} (htask : (phases task).isOutside = false)
    (hother : other ≠ task)
    (hstep : VerificationKeys.step crate config system (.proceed other world) = some next) :
    next.1 = system.1 := by
  obtain ⟨request, rest, later, -, hfree, hmoves, hshared, -, -⟩ := h.proceed hstep
  have houtside : (phases other).isOutside = true := by
    by_contra hinside
    exact hother (h.eq_of_inside ((Bool.not_eq_true _).mp hinside) htask)
  generalize phases other = phase at hmoves houtside
  cases hmoves with
  | enters read =>
    have hheld := (h.holder task).mpr htask
    rw [hfree rfl] at hheld
    cases hheld
  | reads read => exact hshared
  | leaves hinside =>
    rw [hinside] at houtside
    cases houtside
  | _ => cases houtside

/-- After a failed fetch one more event keeps the keys, and its request stays
there unless it gives the lock back. -/
theorem Consistent.step_of_failed (h : Consistent crate config token system phases) {task : ℕ}
    (hfailed : phases task = .failed) {event : Event Material}
    (hstep : VerificationKeys.step crate config system event = some next) :
    next.1.keys = system.1.keys ∧ (next.1.holder = some task →
      ∃ later, Consistent crate config token next later ∧ later task = .failed) := by
  have hinside : (phases task).isOutside = false := congrArg Phase.isOutside hfailed
  cases event with
  | advance instant systemTime =>
    have hnext := h.of_advance hstep
    cases hstep
    exact ⟨rfl, fun _ => ⟨phases, hnext, hfailed⟩⟩
  | abandon other =>
    have hnext := h.of_abandon hstep
    have hkeys : next.1.keys = system.1.keys := by
      cases hstep
      rfl
    refine ⟨hkeys, fun hheld => ⟨_, hnext, ?_⟩⟩
    have hstill := (hnext.holder task).mp hheld
    by_cases hname : task = other
    · subst hname
      rw [Function.update_self] at hstill
      cases hstill
    · rw [Function.update_of_ne hname]
      exact hfailed
  | proceed other world =>
    obtain ⟨request, rest, later, -, hfree, hmoves, hshared, -, hfollows⟩ := h.proceed hstep
    have hnext := h.of_proceed hfree hmoves hshared hfollows
    by_cases hname : other = task
    · subst hname
      rw [hfailed] at hmoves
      cases hmoves with
      | retains =>
        exact ⟨congrArg Shared.keys hshared, fun _ => ⟨_, hnext, Function.update_self ..⟩⟩
      | leaves =>
        have hkeys : next.1.keys = system.1.keys := by
          rw [hshared]
          rfl
        refine ⟨hkeys, fun hheld => ?_⟩
        rw [hshared] at hheld
        cases hheld
    · have hsame := h.keys_of_other hinside hname hstep
      refine ⟨congrArg Shared.keys hsame, fun _ => ⟨_, hnext, ?_⟩⟩
      rw [Function.update_of_ne (Ne.symm hname)]
      exact hfailed

/-- From a failed fetch until its request gives the lock back, the keys stay. -/
theorem Consistent.keys_of_failed (h : Consistent crate config token system phases) {task : ℕ}
    (hfailed : phases task = .failed) {events : List (Event Material)}
    (hguard : Guarded (VerificationKeys.step crate config)
      (fun present _ => present.1.holder = some task) system events)
    (hrun : run (VerificationKeys.step crate config) system events = some next) :
    next.1.keys = system.1.keys := by
  induction events generalizing system phases with
  | nil =>
    cases hrun
    rfl
  | cons event events ih =>
    obtain ⟨middle, hstep, hrest⟩ := run_cons_iff.mp hrun
    have hafter := hguard.2 middle hstep
    obtain ⟨hkeys, hstays⟩ := h.step_of_failed hfailed hstep
    by_cases hheld : middle.1.holder = some task
    · obtain ⟨later, hlater, hstill⟩ := hstays hheld
      rw [ih hlater hstill hafter hrest, hkeys]
    · cases events with
      | nil =>
        cases hrest
        exact hkeys
      | cons second events => exact absurd hafter.1 hheld

/-- A fetch that fails keeps the keys, and so does the rest of its refresh. -/
theorem Consistent.keys_of_fetch (h : Consistent crate config token system phases) {task : ℕ}
    {world : World Material} {rest : Answer Material .fetch → Task Material (Except Denial Value)}
    {error : AnyError} (hcall : system.2 task = call .fetch rest)
    (hfetch : fetchJwks config world.network = .error error) {after : System Material}
    (hstep : VerificationKeys.step crate config system (.proceed task world) = some after)
    {events : List (Event Material)}
    (hguard : Guarded (VerificationKeys.step crate config)
      (fun present _ => present.1.holder = some task) after events)
    (hrun : run (VerificationKeys.step crate config) after events = some next) :
    next.1.keys = system.1.keys := by
  obtain ⟨request, others, later, hprogram, hfree, hmoves, hshared, -, hfollows⟩ :=
    h.proceed hstep
  rw [hcall] at hprogram
  obtain rfl : Request.fetch = request := (Program.call.inj hprogram).1
  have hlater : later = .failed := by
    generalize phases task = phase at hmoves
    cases hmoves with
    | obtains hset =>
      rw [hfetch] at hset
      cases hset
    | fails _ => rfl
  have hafter := h.of_proceed hfree hmoves hshared hfollows
  have hkept := hafter.keys_of_failed ((Function.update_self ..).trans hlater) hguard hrun
  rw [hkept, hshared]
  rfl

end

/-!
## Attempts of a run
-/

/-- Whether the event is the start of an attempt. -/
def startsAttempt (system : System Material) : Event Material → Bool
  | .proceed task _ =>
    match system.2 task with
    | call .recordAttempt _ => true
    | _ => false
  | _ => false

/-- Monotonic times at which attempts start along a run. -/
def attempts (crate : TokenCrate Material DecodingKey) (config : ClientAuthorizationConfig) :
    System Material → List (Event Material) → List ℕ
  | _, [] => []
  | system, event :: rest =>
    match step crate config system event with
    | none => []
    | some next =>
      if startsAttempt system event then system.1.instant :: attempts crate config next rest
      else attempts crate config next rest

section

variable {crate : TokenCrate Material DecodingKey} {config : ClientAuthorizationConfig}
  {token : ℕ → String} {system next : System Material} {phases : ℕ → Phase Material}

/-- An attempt starts far enough from the last one, and is the last one then. -/
theorem Consistent.attempt (h : Consistent crate config token system phases)
    {event : Event Material} (hstep : VerificationKeys.step crate config system event = some next)
    (hstarts : startsAttempt system event = true) :
    system.1.lastAttempt + refreshGap config ≤ system.1.instant ∧
      next.1.lastAttempt = system.1.instant := by
  cases event with
  | advance instant systemTime => cases hstarts
  | abandon task => cases hstarts
  | proceed task world =>
    obtain ⟨request, rest, later, hprogram, hfree, hmoves, hshared, -, -⟩ := h.proceed hstep
    rw [startsAttempt, hprogram] at hstarts
    cases request with
    | recordAttempt =>
      exact ⟨h.due task hmoves.of_recordAttempt, congrArg Shared.lastAttempt hshared⟩
    | _ => cases hstarts

/-- Other events keep the time of the last attempt. -/
theorem Consistent.lastAttempt_of_other (h : Consistent crate config token system phases)
    {event : Event Material} (hstep : VerificationKeys.step crate config system event = some next)
    (hstarts : startsAttempt system event = false) :
    next.1.lastAttempt = system.1.lastAttempt := by
  cases event with
  | advance instant systemTime =>
    cases hstep
    rfl
  | abandon task =>
    cases hstep
    rfl
  | proceed task world =>
    obtain ⟨request, rest, later, hprogram, -, -, hshared, -, -⟩ := h.proceed hstep
    rw [hshared, serve_lastAttempt]
    rintro rfl
    have hprogram : system.2 task = call .recordAttempt rest := hprogram
    rw [startsAttempt, hprogram] at hstarts
    cases hstarts

/-- The attempts of a run are far enough from each other, and the first of
them from the last one before. -/
theorem isChain_attempts (h : ∃ phases, Consistent crate config token system phases)
    {previous : ℕ} (hprevious : previous ≤ system.1.lastAttempt)
    (events : List (Event Material)) :
    List.IsChain (fun earlier later => earlier + refreshGap config ≤ later)
      (previous :: attempts crate config system events) := by
  induction events generalizing system previous with
  | nil => exact .singleton previous
  | cons event events ih =>
    rw [attempts]
    cases hstep : VerificationKeys.step crate config system event with
    | none => exact .singleton previous
    | some next =>
      have hnext := Consistent.step h hstep
      obtain ⟨phases, hphases⟩ := h
      dsimp only
      by_cases hstarts : startsAttempt system event = true
      · obtain ⟨hgap, hlast⟩ := hphases.attempt hstep hstarts
        rw [if_pos hstarts]
        exact .cons_cons (by omega) (ih hnext (le_of_eq hlast.symm))
      · have hlast := hphases.lastAttempt_of_other hstep ((Bool.not_eq_true _).mp hstarts)
        rw [if_neg hstarts]
        exact ih hnext (hlast ▸ hprevious)

/-- What a loaded verifier starts with. -/
theorem load_eq_ok {ext : Externals Key} {expandHome : String → Except AnyError String}
    {startup : Startup Material} {bearer : JwtAuthorizer} {shared : Shared Material}
    (h : load ext expandHome crate startup config = .ok (bearer, shared)) :
    bearer.config.jwksMaxStaleSeconds = config.jwksMaxStaleSeconds ∧
      refreshGap bearer.config = refreshGap config ∧ shared.holder = none ∧
      shared.lastAttempt = shared.instant ∧ startup.attemptedAt ≤ shared.lastAttempt := by
  simp only [load, bind_eq_ok] at h
  obtain ⟨cacheFile, -, algorithms, -, _, -, state, -, hloaded⟩ := h
  cases hloaded
  exact ⟨rfl, rfl, rfl, rfl, Nat.le_add_right _ _⟩

end

/-- In every run of the requests of a loaded policy, whatever tokens they
carry: a token is accepted with a key of the present set, which is not older
than allowed; a failed fetch keeps the keys until its refresh has ended; and
two attempts, the one at the start included, are never closer than the
shorter of the two intervals. -/
theorem key_state_over_runs {ext : Externals Key} {expandHome : String → Except AnyError String}
    {crate : TokenCrate Material DecodingKey} {startup : Startup Material}
    {config : ClientAuthorizationConfig} {bearer : JwtAuthorizer} {shared : Shared Material}
    (hload : load ext expandHome crate startup config = .ok (bearer, shared))
    (token : ℕ → String) :
    (∀ events system event next task claims,
      run (step crate bearer.config) (requests crate bearer shared token) events = some system →
      step crate bearer.config system event = some next →
      system.2 task ≠ done (.ok claims) → next.2 task = done (.ok claims) →
      ∃ jwk ∈ system.1.keys.set.keys, ∃ algorithm key, crate.fromJwk jwk = .ok key ∧
        decodeToken crate bearer.config (token task) algorithm key system.1.systemTime =
          .ok claims ∧
        (config.jwksMaxStaleSeconds ≠ 0 →
          system.1.systemTime ≤
            system.1.keys.obtainedAt + fromSecs config.jwksMaxStaleSeconds)) ∧
    (∀ events system task world rest error after later last,
      run (step crate bearer.config) (requests crate bearer shared token) events = some system →
      system.2 task = call .fetch rest →
      fetchJwks bearer.config world.network = .error error →
      step crate bearer.config system (.proceed task world) = some after →
      Guarded (step crate bearer.config) (fun present _ => present.1.holder = some task)
        after later →
      run (step crate bearer.config) after later = some last →
      last.1.keys = system.1.keys) ∧
    ∀ events, List.IsChain
      (fun earlier later =>
        earlier + min (fromSecs 10) (fromSecs config.jwksRefreshSeconds) ≤ later)
      (startup.attemptedAt ::
        attempts crate bearer.config (requests crate bearer shared token) events) := by
  obtain ⟨hstale, hgap, hholder, hclock, hstart⟩ := load_eq_ok hload
  refine ⟨?_, ?_, ?_⟩
  · intro events system event next task claims hrun hstep hpending haccepted
    obtain ⟨phases, h⟩ := consistent_of_run hholder (le_of_eq hclock) hrun
    obtain ⟨-, algorithm, kid, key, hkey, hdecode⟩ := h.accepts hstep hpending haccepted
    obtain ⟨jwk, hmem, hjwk, hage⟩ := exists_of_keyFor hkey
    rw [hstale] at hage
    exact ⟨jwk, hmem, algorithm, key, hjwk, hdecode, hage⟩
  · intro events system task world rest error after later last hrun hcall hfetch hstep hguard hlast
    obtain ⟨phases, h⟩ := consistent_of_run hholder (le_of_eq hclock) hrun
    exact h.keys_of_fetch hcall hfetch hstep hguard hlast
  · intro events
    have hready : ∃ phases, Consistent crate bearer.config token
        (requests crate bearer shared token) phases :=
      ⟨_, consistent_requests hholder (le_of_eq hclock) token⟩
    have hchain := isChain_attempts hready hstart events
    rw [hgap] at hchain
    exact hchain

/-- Tokens and keys for concrete runs: a token names its key before the dot
and repeats the key after it. -/
def sampleCrate : TokenCrate String String where
  decodeHeader token :=
    match RustText.splitOnce '.' token with
    | some (kid, _) => .ok (.asymmetric "RS256", some kid)
    | none => .error "InvalidToken"
  algorithmOfKey name := some (.asymmetric name)
  fromJwk jwk := .ok jwk.material
  decode token key _ _ :=
    match RustText.splitOnce '.' token with
    | some (_, signature) =>
      if signature = key then .ok (.object [("sub", .string "alice")])
      else .error "InvalidSignature"
    | none => .error "InvalidToken"
  encodeSet set := .ok (String.intercalate " " (set.keys.map (·.material)))
  decodeSet text := .ok ⟨[⟨some text, none, none, text⟩]⟩

/-- A policy with a configured place of its keys. -/
def samplePolicy : ClientAuthorizationConfig :=
  ConfigExpansion.resolvedPolicy
    [{ audiences := some ["docs"], jwksUri := some "https://login.example/keys" }]
    "https://login.example"

/-- A set of one signing key. -/
def oneKey (kid material : String) : JwkSet String :=
  ⟨[⟨some kid, some .signature, some "RS256", material⟩]⟩

/-- A provider that publishes a set. -/
def publishes (set : JwkSet String) : Network String where
  discovery _ := ⟨.ok (), .ok (), .ok ⟨"https://login.example", "https://login.example/keys"⟩⟩
  jwks _ := ⟨.ok (), .ok (), .ok set⟩

/-- A file system that stores what it is given, up to the outcome of writing. -/
def filesWith (written : Except AnyError Unit) : Files where
  parent _ := some "cache"
  createDirAll _ := .ok ()
  openAtomic _ := .ok ()
  writeAll _ _ := written
  commit _ := .ok ()
  metadata _ := .ok ()
  modified _ := .ok 0
  read _ := .error ["No such file or directory (os error 2)"]

/-- A start at time zero with a published key and a writable disk. -/
def sampleStartup : Startup String where
  network := publishes (oneKey "k1" "s1")
  files := filesWith (.ok ())
  attemptedAt := 0
  elapsed := 0
  systemTime := 0

/-- The loaded verifier. -/
def sampleBearer : JwtAuthorizer :=
  ⟨samplePolicy, [.asymmetric "RS256"]⟩

/-- What its requests share. -/
def sampleShared : Shared String := ⟨⟨oneKey "k1" "s1", 0⟩, 0, none, 0, 0⟩

/-- One request with a good token and others with an unknown key. -/
def sampleToken : ℕ → String
  | 0 => "k1.s1"
  | _ => "k9.forged"

/-- One more call of a request, with the provider and the disk as at the start. -/
def goOn (task : ℕ) : Event String := .proceed task ⟨sampleStartup.network, sampleStartup.files⟩

/-- A provider that does not answer. -/
def unreachable : Network String where
  discovery _ := ⟨.error ["error sending request"], .ok (), .error []⟩
  jwks _ := ⟨.error ["error sending request"], .ok (), .error []⟩

/-- The good token up to its last call. -/
def sampleRead : List (Event String) := List.replicate 3 (goOn 0)

/-- Ten seconds after the good token, a request with an unknown key is about to
fetch. -/
def sampleDue : List (Event String) :=
  List.replicate 4 (goOn 0) ++ [.advance (fromSecs 10) (fromSecs 10)] ++ List.replicate 7 (goOn 1)

/-- Its fetch fails, and it looks at the keys that are left. -/
def sampleFailure : Event String := .proceed 1 ⟨unreachable, sampleStartup.files⟩

/-- Ten seconds after the good token, two requests ask for an unknown key. -/
def sampleEvents : List (Event String) :=
  List.replicate 4 (goOn 0) ++ [.advance (fromSecs 10) (fromSecs 10)] ++
    List.replicate 10 (goOn 1) ++ List.replicate 10 (goOn 2)

/-- The start of the sample requests. -/
def sampleRequests : System String := requests sampleCrate sampleBearer sampleShared sampleToken

/-- Whether a request was accepted. -/
def wasAccepted : Task String (Except Denial Value) → Bool
  | .done (.ok _) => true
  | _ => false

/-- An accepted request has ended with claims. -/
theorem exists_of_wasAccepted {task : Task String (Except Denial Value)}
    (h : wasAccepted task = true) : ∃ claims, task = done (.ok claims) := by
  cases task with
  | call request next => cases h
  | done result =>
    cases result with
    | error denial => cases h
    | ok claims => exact ⟨claims, rfl⟩

/-- Whether a request waits for a fetch. -/
def waitsToFetch : Task String (Except Denial Value) → Bool
  | .call .fetch _ => true
  | _ => false

/-- A request that waits for a fetch goes on with its answer. -/
theorem exists_of_waitsToFetch {task : Task String (Except Denial Value)}
    (h : waitsToFetch task = true) : ∃ rest, task = call .fetch rest := by
  cases task with
  | done result => cases h
  | call request next =>
    cases request with
    | fetch => exact ⟨next, rfl⟩
    | _ => cases h

/-- The good token is accepted with a present key, the failed fetch leaves the keys,
and of the two requests for an unknown key only one starts an attempt, ten seconds
after the first one. -/
theorem key_state_sample :
    (∃ system, run (step sampleCrate samplePolicy) sampleRequests sampleRead = some system ∧
      ∃ jwk ∈ system.1.keys.set.keys, jwk.material = "s1" ∧
        system.1.systemTime ≤
          system.1.keys.obtainedAt + fromSecs samplePolicy.jwksMaxStaleSeconds) ∧
    (∃ system last, run (step sampleCrate samplePolicy) sampleRequests sampleDue = some system ∧
      run (step sampleCrate samplePolicy) system [sampleFailure, goOn 1] = some last ∧
      last.1.keys = system.1.keys) ∧
    attempts sampleCrate samplePolicy sampleRequests sampleEvents = [fromSecs 10] ∧
    List.IsChain (fun earlier later =>
        earlier + min (fromSecs 10) (fromSecs samplePolicy.jwksRefreshSeconds) ≤ later)
      (0 :: attempts sampleCrate samplePolicy sampleRequests sampleEvents) := by
  have hload : load ClientAuthorizer.sampleExternals Except.ok sampleCrate sampleStartup
      samplePolicy = .ok (sampleBearer, sampleShared) := rfl
  obtain ⟨haccepted, hfailed, hattempts⟩ := key_state_over_runs hload sampleToken
  refine ⟨?_, ?_, by decide +kernel, hattempts sampleEvents⟩
  · have hends : (run (step sampleCrate samplePolicy) sampleRequests sampleRead).map
        (fun system => (wasAccepted (system.2 0), system.1.keys.set.keys.map (·.material),
          (step sampleCrate samplePolicy system (goOn 0)).map fun next =>
            wasAccepted (next.2 0))) = some (false, ["s1"], some true) := by decide +kernel
    obtain ⟨system, hrun, hsystem⟩ := Option.map_eq_some_iff.mp hends
    obtain ⟨hpending, hrest⟩ := Prod.mk.inj hsystem
    obtain ⟨hkeys, hnext⟩ := Prod.mk.inj hrest
    obtain ⟨next, hstep, hend⟩ := Option.map_eq_some_iff.mp hnext
    obtain ⟨claims, hclaims⟩ := exists_of_wasAccepted hend
    have hstill : system.2 0 ≠ done (.ok claims) := by
      intro h
      rw [h] at hpending
      cases hpending
    obtain ⟨jwk, hm, algorithm, key, -, -, hage⟩ :=
      haccepted sampleRead system (goOn 0) next 0 claims hrun hstep hstill hclaims
    refine ⟨system, hrun, jwk, hm, ?_, hage (by decide)⟩
    have hmaterial := List.mem_map_of_mem (f := fun jwk : Jwk String => jwk.material) hm
    rw [hkeys] at hmaterial
    exact List.mem_singleton.mp hmaterial
  · have hdue : (run (step sampleCrate samplePolicy) sampleRequests sampleDue).map
        (fun system => (waitsToFetch (system.2 1),
          (step sampleCrate samplePolicy system sampleFailure).map fun after =>
            (after.1.holder, (step sampleCrate samplePolicy after (goOn 1)).isSome))) =
          some (true, some (some 1, true)) := by decide +kernel
    obtain ⟨system, hrun, hsystem⟩ := Option.map_eq_some_iff.mp hdue
    obtain ⟨hwaits, hrest⟩ := Prod.mk.inj hsystem
    obtain ⟨rest, hcall⟩ := exists_of_waitsToFetch hwaits
    obtain ⟨after, hstep, hafter⟩ := Option.map_eq_some_iff.mp hrest
    obtain ⟨hholder, hlast⟩ := Prod.mk.inj hafter
    obtain ⟨last, hlast⟩ := Option.isSome_iff_exists.mp hlast
    obtain ⟨error, herror⟩ : ∃ error, fetchJwks samplePolicy unreachable = .error error :=
      ⟨_, rfl⟩
    have hread : run (step sampleCrate samplePolicy) after [goOn 1] = some last :=
      run_cons_iff.mpr ⟨last, hlast, rfl⟩
    exact ⟨system, last, hrun, run_cons_iff.mpr ⟨after, hstep, hread⟩,
      hfailed sampleDue system 1 ⟨unreachable, sampleStartup.files⟩ rest error after [goOn 1] last
        hrun
        hcall herror hstep
        ⟨hholder, fun _ _ => trivial⟩ hread⟩

end LfpPipe.KeyRefresh
