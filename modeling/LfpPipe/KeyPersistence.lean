import LfpPipe.KeyRefresh

/-!
# Fetched keys that cannot be written to the cache file

A refresh writes the keys that it has fetched to the cache file before it
verifies anything with them. One request is followed here alone, with any
delays and any answers from outside before and during each of its calls.
-/

namespace LfpPipe.KeyPersistence

open Fallible SharedConfig ClientIdentity VerificationKeys KeyRefresh
open ClientAuthorizer (JwtAuthorizer)
open RemotePrograms Program

variable {Material DecodingKey Result : Type}

/-- Time that passes before a call, and what is answered from outside then. -/
structure Moment (Material : Type) where
  /-- Time on the monotonic clock. -/
  instant : ℕ
  /-- Time on the system clock. -/
  systemTime : ℕ
  /-- Answers from outside. -/
  world : World Material

/-- The clocks after some time. -/
def Shared.after (shared : Shared Material) (moment : Moment Material) : Shared Material :=
  { shared with
    instant := shared.instant + moment.instant
    systemTime := shared.systemTime + moment.systemTime }

/-- A call of a request some time later. -/
def serveAt (crate : TokenCrate Material DecodingKey) (config : ClientAuthorizationConfig)
    (task : ℕ) (moment : Moment Material) :
    Service (Shared Material) (Request Material) (Answer Material) :=
  fun shared => serve crate config task moment.world (Shared.after shared moment)

/-- The call is a fetch that obtains the set. -/
def Fetched (config : ClientAuthorizationConfig) (set : JwkSet Material)
    (moment : Moment Material) (_ : Shared Material) (request : Request Material) : Prop :=
  request = .fetch ∧ fetchJwks config moment.world.network = .ok set

/-- The call writes the set to the cache file. -/
def Persisted (crate : TokenCrate Material DecodingKey) (config : ClientAuthorizationConfig)
    (set : JwkSet Material) (moment : Moment Material) (_ : Shared Material)
    (request : Request Material) : Prop :=
  request = .persist set ∧
    persistJwks crate moment.world.files config.jwksCacheFile set = .ok ()

/-- Give the lock back and end. -/
def leave (outcome : Except AnyError Unit) : Task Material (Except AnyError Unit) :=
  call .unlock fun _ => done outcome

/-- The calls of a refresh after the set was written to the cache file, or not. -/
def afterWrite (set : JwkSet Material) : Except AnyError Unit → Task Material (Except AnyError Unit)
  | .ok () => call (.writeKeys set) fun _ => leave (.ok ())
  | .error error => leave (.error error)

/-- The calls of a refresh after its fetch. -/
def afterFetch (config : ClientAuthorizationConfig) :
    Except AnyError (JwkSet Material) → Task Material (Except AnyError Unit)
  | .ok set => call (.persist set) (afterWrite set)
  | .error _ => call .readKeys fun read => leave (ensureCacheAge config read.2 read.1.obtainedAt)

/-- The calls of a refresh. -/
theorem refreshIfDue_eq (config : ClientAuthorizationConfig) (force : Bool) :
    (refreshIfDue config force : Task Material (Except AnyError Unit)) =
      call .lock fun _ => call .elapsed fun elapsed =>
        if elapsed < minimumInterval config force then leave (.ok ())
        else call .recordAttempt fun _ => call .fetch (afterFetch config) := by
  have hkeys : (refreshKeys config >>= leave : Task Material (Except AnyError Unit)) =
      call .recordAttempt fun _ => call .fetch (afterFetch config) := by
    refine congrArg (call _) (funext fun _ => congrArg (call _) (funext fun fetched => ?_))
    cases fetched with
    | error error => rfl
    | ok set =>
      refine congrArg (call _) (funext fun persisted => ?_)
      cases persisted with
      | error error => rfl
      | ok _ => rfl
  rw [←hkeys]
  refine congrArg (call _) (funext fun _ => congrArg (call _) (funext fun elapsed => ?_))
  by_cases hdue : elapsed < minimumInterval config force
  · rw [if_pos hdue]
    exact if_pos hdue
  · rw [if_neg hdue]
    exact if_neg hdue

section

variable {crate : TokenCrate Material DecodingKey} {config : ClientAuthorizationConfig}
  {task : ℕ} {force : Bool} {moments : List (Moment Material)} {shared last : Shared Material}
  {result : Except AnyError Unit} {set : JwkSet Material}

/-- After a fetch that obtained a set, either the set is written to the cache
file and verifies tokens from now on, or the refresh fails. -/
theorem persists_afterFetch
    (hrun : perform (serveAt crate config task) moments shared (afterFetch config (.ok set)) =
      (last, done result)) :
    (Encounters (serveAt crate config task) (Persisted crate config set) moments shared
      (afterFetch config (.ok set)) ↔ result = .ok ()) ∧
    (result = .ok () → last.keys.set = set ∧ shared.systemTime ≤ last.keys.obtainedAt ∧
      last.keys.obtainedAt ≤ last.systemTime) := by
  obtain ⟨writing, moments, rfl, hwritten⟩ := exists_cons_of_perform _ hrun
  cases hpersisted : (serveAt crate config task writing shared (.persist set)).2 with
  | error error =>
    rw [hpersisted] at hwritten
    obtain ⟨leaving, moments, rfl, hleft⟩ := exists_cons_of_perform _ hwritten
    rw [perform_done] at hleft
    cases hleft
    refine ⟨⟨fun hencounters => ?_, fun hok => (nomatch hok)⟩, fun hok => (nomatch hok)⟩
    rcases hencounters with ⟨-, hok⟩ | hlater
    · have hok : (serveAt crate config task writing shared (.persist set)).2 = .ok () := hok
      rw [hpersisted] at hok
      cases hok
    · rw [hpersisted, afterWrite, leave, encounters_call _ (fun h => nomatch h.1),
        encounters_done] at hlater
      exact hlater.elim
  | ok _ =>
    rw [hpersisted] at hwritten
    obtain ⟨installing, moments, rfl, hinstalled⟩ := exists_cons_of_perform _ hwritten
    obtain ⟨leaving, moments, rfl, hleft⟩ := exists_cons_of_perform _ hinstalled
    rw [perform_done] at hleft
    cases hleft
    refine ⟨⟨fun _ => rfl, fun _ => .inl ⟨rfl, hpersisted⟩⟩, fun _ => ⟨rfl, ?_, ?_⟩⟩
    · exact (Nat.le_add_right _ writing.systemTime).trans (Nat.le_add_right _ _)
    · exact Nat.le_add_right _ leaving.systemTime

/-- After its fetch a refresh does not fetch again. -/
theorem afterFetch_sendsOnly (config : ClientAuthorizationConfig)
    (fetched : Except AnyError (JwkSet Material)) :
    (afterFetch config fetched).SendsOnly (· ≠ .fetch) := by
  have hleave : ∀ outcome, (leave outcome :
      Task Material (Except AnyError Unit)).SendsOnly (· ≠ .fetch) :=
    fun outcome => ⟨nofun, fun _ => trivial⟩
  cases fetched with
  | error error => exact ⟨nofun, fun read => hleave _⟩
  | ok set =>
    refine ⟨nofun, fun persisted => ?_⟩
    cases persisted with
    | error error => exact hleave _
    | ok _ => exact ⟨nofun, fun _ => hleave _⟩

/-- A refresh whose fetch obtains a set either writes it to the cache file and
ends with that set, or ends with an error. -/
theorem persists_refreshIfDue
    (hrun : perform (serveAt crate config task) moments shared (refreshIfDue config force) =
      (last, done result))
    (hfetched : Encounters (serveAt crate config task) (Fetched config set) moments shared
      (refreshIfDue config force)) :
    (Encounters (serveAt crate config task) (Persisted crate config set) moments shared
      (refreshIfDue config force) ↔ result = .ok ()) ∧
    (result = .ok () → last.keys.set = set ∧ shared.systemTime ≤ last.keys.obtainedAt ∧
      last.keys.obtainedAt ≤ last.systemTime) := by
  rw [refreshIfDue_eq] at hfetched hrun ⊢
  obtain ⟨locking, moments, rfl, hlocked⟩ := exists_cons_of_perform _ hrun
  obtain ⟨looking, moments, rfl, hlooked⟩ := exists_cons_of_perform _ hlocked
  rw [encounters_call _ (fun h => nomatch h.1), encounters_call _ (fun h => nomatch h.1)]
    at hfetched ⊢
  have hseen : shared.systemTime ≤ (serveAt crate config task looking
      (serveAt crate config task locking shared .lock).1 .elapsed).1.systemTime :=
    (Nat.le_add_right _ locking.systemTime).trans (Nat.le_add_right _ _)
  generalize (serveAt crate config task looking
    (serveAt crate config task locking shared .lock).1 .elapsed) = looked
    at hfetched hlooked hseen ⊢
  by_cases hdue : looked.2 < minimumInterval config force
  · rw [if_pos hdue] at hfetched hlooked
    obtain ⟨leaving, moments, rfl, hleft⟩ := exists_cons_of_perform _ hlooked
    rw [leave, encounters_call _ (fun h => nomatch h.1), encounters_done] at hfetched
    exact hfetched.elim
  · rw [if_neg hdue] at hfetched hlooked ⊢
    obtain ⟨recording, moments, rfl, hrecorded⟩ := exists_cons_of_perform _ hlooked
    obtain ⟨fetching, moments, rfl, hobtained⟩ := exists_cons_of_perform _ hrecorded
    rw [encounters_call _ (fun h => nomatch h.1)] at hfetched
    rw [encounters_call _ (fun h => nomatch h.1), encounters_call _ (fun h => nomatch h.1)]
    have hobtains : (serveAt crate config task fetching
        (serveAt crate config task recording looked.1 .recordAttempt).1 .fetch).2 = .ok set := by
      rcases hfetched with ⟨-, hok⟩ | hlater
      · exact hok
      · obtain ⟨_, _, _, hother, hfetch, -⟩ :=
          allowed_of_encounters _ (afterFetch_sendsOnly config _) hlater
        exact absurd hfetch hother
    rw [hobtains] at hobtained ⊢
    obtain ⟨hpersisted, hinstalled⟩ := persists_afterFetch hobtained
    refine ⟨hpersisted, fun hok => ?_⟩
    obtain ⟨hset, hafter, hbefore⟩ := hinstalled hok
    refine ⟨hset, hseen.trans (le_trans ?_ hafter), hbefore⟩
    exact (Nat.le_add_right _ recording.systemTime).trans (Nat.le_add_right _ _)

/-- After its fetch a refresh writes no other set than the fetched one. -/
theorem afterFetch_persists (config : ClientAuthorizationConfig)
    (fetched : Except AnyError (JwkSet Material)) :
    (afterFetch config fetched).SendsOnly
      fun request => ∀ set, request = .persist set → fetched = .ok set := by
  have hleave : ∀ outcome, (leave outcome : Task Material (Except AnyError Unit)).SendsOnly
      fun request => ∀ set, request = .persist set → fetched = .ok set :=
    fun outcome => ⟨nofun, fun _ => trivial⟩
  cases fetched with
  | error error => exact ⟨nofun, fun read => hleave _⟩
  | ok obtained =>
    refine ⟨fun set hrequest => ?_, fun persisted => ?_⟩
    · cases hrequest
      rfl
    · cases persisted with
      | error error => exact hleave _
      | ok _ => exact ⟨nofun, fun _ => hleave _⟩

/-- Only a set that was fetched is written to the cache file. -/
theorem fetched_of_persisted
    (h : Encounters (serveAt crate config task) (Persisted crate config set) moments shared
      (refreshIfDue config force)) :
    Encounters (serveAt crate config task) (Fetched config set) moments shared
      (refreshIfDue config force) := by
  rw [refreshIfDue_eq] at h ⊢
  obtain _ | ⟨locking, _ | ⟨looking, moments⟩⟩ := moments
  · exact h.elim
  · rcases h with h | h
    · exact nomatch h.1
    · exact h.elim
  rw [encounters_call _ (fun h => nomatch h.1), encounters_call _ (fun h => nomatch h.1)] at h ⊢
  split at h
  · rename_i hdue
    have hleave : (leave (.ok ()) : Task Material (Except AnyError Unit)).SendsOnly
        (· = .unlock) := ⟨rfl, fun _ => trivial⟩
    obtain ⟨_, _, _, hunlock, hpersist, -⟩ := allowed_of_encounters _ hleave h
    rw [hunlock] at hpersist
    cases hpersist
  · rename_i hdue
    rw [if_neg hdue]
    obtain _ | ⟨recording, _ | ⟨fetching, moments⟩⟩ := moments
    · exact h.elim
    · rcases h with h | h
      · exact nomatch h.1
      · exact h.elim
    rw [encounters_call _ (fun h => nomatch h.1), encounters_call _ (fun h => nomatch h.1)] at h
    rw [encounters_call _ (fun h => nomatch h.1)]
    obtain ⟨_, _, _, hobtained, hpersist, -⟩ :=
      allowed_of_encounters _ (afterFetch_persists config _) h
    exact .inl ⟨rfl, hobtained set hpersist⟩

end

/-- Signature and registered claims of the token are good under the set. -/
def Verifies (crate : TokenCrate Material DecodingKey) (bearer : JwtAuthorizer) (token : String)
    (set : JwkSet Material) (obtainedAt now : ℕ) (claims : Value) : Prop :=
  ∃ algorithm kid key, tokenHeader crate bearer token = .ok (algorithm, kid) ∧
    keyFor crate bearer.config ⟨set, obtainedAt⟩ now kid algorithm = .ok key ∧
    decodeToken crate bearer.config token algorithm key now = .ok claims

section

variable {crate : TokenCrate Material DecodingKey} {bearer : JwtAuthorizer} {token : String}
  {task : ℕ} {moments : List (Moment Material)} {shared last : Shared Material}
  {set : JwkSet Material} {claims : Value}

/-- No time is taken back. -/
theorem systemTime_le_of_perform {Result : Type} {program remaining : Task Material Result}
    {config : ClientAuthorizationConfig}
    (h : perform (serveAt crate config task) moments shared program = (last, remaining)) :
    shared.systemTime ≤ last.systemTime := by
  have hkept := @perform_invariant _ _ _ _ _ (serveAt crate config task)
    (fun present (_ : Task Material Result) => shared.systemTime ≤ present.systemTime) (by
      intro moment present request _ hpresent
      refine hpresent.trans ((Nat.le_add_right _ moment.systemTime).trans (le_of_eq ?_))
      cases request <;> rfl) moments shared program (le_refl _)
  rw [h] at hkept
  exact hkept

/-- What the calls of a verification are after its forced refresh. -/
def afterForced (crate : TokenCrate Material DecodingKey) (bearer : JwtAuthorizer) (token : String)
    (algorithm : ClientAuthorizer.Algorithm) (kid : String) :
    Except AnyError Unit → Task Material (Except AnyError Value)
  | .error error => done (.error error)
  | .ok () => call .readKeys fun again =>
    done (keyFor crate bearer.config again.1 again.2 kid algorithm >>= fun key =>
      decodeToken crate bearer.config token algorithm key again.2)

/-- What the calls of a verification are after its first refresh. -/
def afterRefresh (crate : TokenCrate Material DecodingKey) (bearer : JwtAuthorizer)
    (token : String) : Except AnyError (ClientAuthorizer.Algorithm × String) →
    Task Material (Except AnyError Value)
  | .error error => done (.error error)
  | .ok (algorithm, kid) => call .readKeys fun read =>
    match keyFor crate bearer.config read.1 read.2 kid algorithm with
    | .ok key => done (decodeToken crate bearer.config token algorithm key read.2)
    | .error _ => refreshIfDue bearer.config true >>= afterForced crate bearer token algorithm kid

/-- A verification is a refresh and then the calls after it. -/
theorem verifyToken_eq (crate : TokenCrate Material DecodingKey) (bearer : JwtAuthorizer)
    (token : String) :
    verifyToken crate bearer token = refreshIfDue bearer.config false >>= fun refreshed =>
      afterRefresh crate bearer token (refreshed >>= fun _ => tokenHeader crate bearer token) := by
  refine congrArg (Program.bind (refreshIfDue bearer.config false)) (funext fun refreshed => ?_)
  cases refreshed >>= fun _ => tokenHeader crate bearer token with
  | error error => rfl
  | ok header =>
    refine congrArg (call _) (funext fun read => ?_)
    dsimp only [afterRefresh, Program.bind]
    cases keyFor crate bearer.config read.1 read.2 header.2 header.1 with
    | ok key => rfl
    | error error =>
      refine congrArg (Program.bind (refreshIfDue bearer.config true)) (funext fun forced => ?_)
      cases forced with
      | error error => rfl
      | ok _ => rfl

/-- A good token has a key that it is good with, whatever its header is read as. -/
theorem Verifies.exists_key {obtainedAt now : ℕ} {algorithm : ClientAuthorizer.Algorithm}
    {kid : String} (h : Verifies crate bearer token set obtainedAt now claims)
    (hheader : tokenHeader crate bearer token = .ok (algorithm, kid)) :
    ∃ key, keyFor crate bearer.config ⟨set, obtainedAt⟩ now kid algorithm = .ok key ∧
      decodeToken crate bearer.config token algorithm key now = .ok claims := by
  obtain ⟨_, _, key, hsame, hkey, hdecode⟩ := h
  rw [hheader] at hsame
  cases hsame
  exact ⟨key, hkey, hdecode⟩

/-- A refresh that succeeds writes what it fetches. -/
theorem persisted_iff_fetched {config : ClientAuthorizationConfig} {force : Bool}
    (hrun : perform (serveAt crate config task) moments shared (refreshIfDue config force) =
      (last, done (.ok ()))) :
    Encounters (serveAt crate config task) (Persisted crate config set) moments shared
      (refreshIfDue config force) ↔
    Encounters (serveAt crate config task) (Fetched config set) moments shared
      (refreshIfDue config force) :=
  ⟨fetched_of_persisted, fun hfetched => (persists_refreshIfDue hrun hfetched).1.mpr rfl⟩

/-- After a refresh that fetched a set and succeeded, a token that is good under
the set has its key among the keys. -/
theorem exists_key_of_fetched {force : Bool} {algorithm : ClientAuthorizer.Algorithm}
    {kid : String} {now : ℕ}
    (hrun : perform (serveAt crate bearer.config task) moments shared
      (refreshIfDue bearer.config force) = (last, done (.ok ())))
    (hfetched : Encounters (serveAt crate bearer.config task) (Fetched bearer.config set) moments
      shared (refreshIfDue bearer.config force))
    (hheader : tokenHeader crate bearer token = .ok (algorithm, kid))
    (hnow : last.systemTime ≤ now)
    (hvalid : ∀ obtainedAt, shared.systemTime ≤ obtainedAt → obtainedAt ≤ now →
      Verifies crate bearer token set obtainedAt now claims) :
    ∃ key, keyFor crate bearer.config last.keys now kid algorithm = .ok key ∧
      decodeToken crate bearer.config token algorithm key now = .ok claims := by
  obtain ⟨rfl, hafter, hbefore⟩ := (persists_refreshIfDue hrun hfetched).2 rfl
  exact (hvalid _ hafter (hbefore.trans hnow)).exists_key hheader

/-- A token that is good under the set of a forced refresh is verified exactly
when the set could be written to the cache file. -/
theorem forced_iff_persisted {verified : Except AnyError Value}
    {algorithm : ClientAuthorizer.Algorithm} {kid : String}
    (hrun : perform (serveAt crate bearer.config task) moments shared
      (refreshIfDue bearer.config true >>= afterForced crate bearer token algorithm kid) =
        (last, done verified))
    (hfetched : Encounters (serveAt crate bearer.config task) (Fetched bearer.config set) moments
      shared (refreshIfDue bearer.config true >>= afterForced crate bearer token algorithm kid))
    (hheader : tokenHeader crate bearer token = .ok (algorithm, kid))
    (hvalid : ∀ obtainedAt now, shared.systemTime ≤ obtainedAt → obtainedAt ≤ now →
      now ≤ last.systemTime → Verifies crate bearer token set obtainedAt now claims) :
    verified = .ok claims ↔
      Encounters (serveAt crate bearer.config task) (Persisted crate bearer.config set) moments
        shared (refreshIfDue bearer.config true >>=
          afterForced crate bearer token algorithm kid) := by
  obtain ⟨middle, forced, later, hrefresh, hrest, hcalls⟩ := exists_of_perform_bind _ hrun
  rw [hcalls] at hfetched ⊢
  have hquiet : ∀ condition, (∀ moment present, ¬ condition moment present .readKeys) →
      ¬ Encounters (serveAt crate bearer.config task) condition later middle
        (afterForced crate bearer token algorithm kid forced) := by
    intro condition hread hencounters
    have hsends : (afterForced crate bearer token algorithm kid forced).SendsOnly
        (· = .readKeys) := by
      cases forced with
      | error error => trivial
      | ok _ => exact ⟨rfl, fun _ => trivial⟩
    obtain ⟨moment, present, request, rfl, hmeets⟩ := allowed_of_encounters _ hsends hencounters
    exact hread moment present hmeets
  have hforced := hfetched.resolve_right (hquiet _ fun _ _ h => nomatch h.1)
  rw [or_iff_left (hquiet _ fun _ _ h => nomatch h.1),
    (persists_refreshIfDue hrefresh hforced).1]
  cases forced with
  | error error =>
    rw [afterForced, perform_done] at hrest
    cases hrest
    exact ⟨fun hok => (nomatch hok), fun hok => (nomatch hok)⟩
  | ok _ =>
    obtain ⟨reading, later, rfl, hread⟩ := exists_cons_of_perform _ hrest
    have htime := systemTime_le_of_perform hread
    rw [perform_done] at hread
    obtain ⟨key, hkey, hdecode⟩ := exists_key_of_fetched hrefresh hforced hheader
      (Nat.le_add_right middle.systemTime reading.systemTime)
      (fun obtainedAt hafter hbefore => hvalid obtainedAt _ hafter hbefore htime)
    refine ⟨fun _ => rfl, fun _ => ?_⟩
    have hverified := Program.done.inj (congrArg Prod.snd hread)
    rw [←hverified]
    exact bind_eq_ok.mpr ⟨key, hkey, hdecode⟩

/-- A token that is good under a set fetched by its own request is verified
exactly when the set could be written to the cache file. -/
theorem verified_iff_persisted {verified : Except AnyError Value}
    (hrun : perform (serveAt crate bearer.config task) moments shared
      (verifyToken crate bearer token) = (last, done verified))
    (hfetched : Encounters (serveAt crate bearer.config task) (Fetched bearer.config set) moments
      shared (verifyToken crate bearer token))
    (hvalid : ∀ obtainedAt now, shared.systemTime ≤ obtainedAt → obtainedAt ≤ now →
      now ≤ last.systemTime → Verifies crate bearer token set obtainedAt now claims) :
    verified = .ok claims ↔
      Encounters (serveAt crate bearer.config task) (Persisted crate bearer.config set) moments
        shared (verifyToken crate bearer token) := by
  rw [verifyToken_eq] at hrun hfetched ⊢
  obtain ⟨middle, refreshed, moments', hrefresh, hrest, hcalls⟩ := exists_of_perform_bind _ hrun
  rw [hcalls] at hfetched ⊢
  have hmiddle := systemTime_le_of_perform hrefresh
  obtain ⟨algorithm, kid, -, hheader, -, -⟩ := hvalid shared.systemTime shared.systemTime
    (le_refl _) (le_refl _) (hmiddle.trans (systemTime_le_of_perform hrest))
  cases refreshed with
  | error error =>
    have hrest : perform (serveAt crate bearer.config task) moments' middle
      (done (.error error)) = (last, done verified) := hrest
    have hnone : ∀ condition, ¬ Encounters (serveAt crate bearer.config task) condition moments'
        middle (done (.error error) : Task Material (Except AnyError Value)) :=
      fun condition => (encounters_done _ condition _ _ _).mp
    have hfirst := hfetched.resolve_right (hnone _)
    rw [perform_done] at hrest
    cases hrest
    refine ⟨fun hok => (nomatch hok), fun hpersisted => ?_⟩
    have hok := (persists_refreshIfDue hrefresh hfirst).1.mp (hpersisted.resolve_right (hnone _))
    cases hok
  | ok _ =>
    have hafter : (Except.ok () >>= fun _ => tokenHeader crate bearer token) =
      .ok (algorithm, kid) := hheader
    rw [hafter] at hrest hfetched ⊢
    obtain ⟨reading, moments', rfl, hread⟩ := exists_cons_of_perform _ hrest
    rw [afterRefresh, encounters_call _ (fun h => nomatch h.1)] at hfetched ⊢
    have hgood : Encounters (serveAt crate bearer.config task) (Fetched bearer.config set) moments
        shared (refreshIfDue bearer.config false) → ∃ key,
        keyFor crate bearer.config middle.keys (middle.systemTime + reading.systemTime) kid
          algorithm = .ok key ∧
        decodeToken crate bearer.config token algorithm key
          (middle.systemTime + reading.systemTime) = .ok claims := by
      intro hfirst
      exact exists_key_of_fetched hrefresh hfirst hheader (Nat.le_add_right _ _)
        fun obtainedAt hafter hbefore =>
          hvalid obtainedAt _ hafter hbefore (systemTime_le_of_perform hread)
    rw [persisted_iff_fetched hrefresh]
    have hanswer : keyFor crate bearer.config
        (serveAt crate bearer.config task reading middle .readKeys).2.1
        (serveAt crate bearer.config task reading middle .readKeys).2.2 kid algorithm =
      keyFor crate bearer.config middle.keys (middle.systemTime + reading.systemTime) kid
        algorithm := rfl
    rw [hanswer] at hread hfetched ⊢
    cases hkey : keyFor crate bearer.config middle.keys (middle.systemTime + reading.systemTime)
        kid algorithm with
    | ok key =>
      rw [hkey] at hread hfetched
      dsimp only at hread hfetched ⊢
      rw [encounters_done, or_false] at hfetched ⊢
      rw [perform_done] at hread
      cases hread
      obtain ⟨same, hsame, hdecode⟩ := hgood hfetched
      rw [hkey] at hsame
      cases hsame
      exact ⟨fun _ => hfetched, fun _ => hdecode⟩
    | error error =>
      have hfirst : ¬ Encounters (serveAt crate bearer.config task) (Fetched bearer.config set)
          moments shared (refreshIfDue bearer.config false) := by
        intro hfirst
        obtain ⟨key, hok, -⟩ := hgood hfirst
        rw [hkey] at hok
        cases hok
      rw [hkey] at hread hfetched
      dsimp only at hread hfetched ⊢
      rw [or_iff_right hfirst] at hfetched ⊢
      refine forced_iff_persisted hread hfetched hheader fun obtainedAt now hafter => ?_
      exact hvalid obtainedAt now
        ((hmiddle.trans (Nat.le_add_right _ reading.systemTime)).trans hafter)

end

/-- When a refresh obtains a set, that set verifies tokens and the request is
not denied by the refresh exactly when the set could be written to the cache
file. So a token that is good under a set fetched by its own request is
accepted exactly then. -/
theorem fetched_keys_verify_iff (crate : TokenCrate Material DecodingKey)
    (bearer : JwtAuthorizer) (task : ℕ) :
    (∀ force moments shared last result set,
      perform (serveAt crate bearer.config task) moments shared
        (refreshIfDue bearer.config force) = (last, done result) →
      Encounters (serveAt crate bearer.config task) (Fetched bearer.config set) moments shared
        (refreshIfDue bearer.config force) →
      ((last.keys.set = set ∧ result = .ok ()) ↔
        Encounters (serveAt crate bearer.config task) (Persisted crate bearer.config set) moments
          shared (refreshIfDue bearer.config force))) ∧
    ∀ token moments shared last result set claims,
      perform (serveAt crate bearer.config task) moments shared
        (authorizeToken crate bearer token) = (last, done result) →
      Encounters (serveAt crate bearer.config task) (Fetched bearer.config set) moments shared
        (authorizeToken crate bearer token) →
      (∀ obtainedAt now, shared.systemTime ≤ obtainedAt → obtainedAt ≤ now →
        now ≤ last.systemTime → Verifies crate bearer token set obtainedAt now claims) →
      validateRoles claims bearer.config = .ok () →
      (result = .ok claims ↔
        Encounters (serveAt crate bearer.config task) (Persisted crate bearer.config set) moments
          shared (authorizeToken crate bearer token)) := by
  constructor
  · intro force moments shared last result set hrun hfetched
    obtain ⟨hpersisted, hinstalled⟩ := persists_refreshIfDue hrun hfetched
    rw [hpersisted]
    exact ⟨fun h => h.2, fun hok => ⟨(hinstalled hok).1, hok⟩⟩
  · intro token moments shared last result set claims hrun hfetched hvalid hroles
    rw [authorizeToken] at hrun hfetched ⊢
    obtain ⟨middle, verified, later, hverify, hrest, hcalls⟩ := exists_of_perform_bind _ hrun
    rw [hcalls] at hfetched ⊢
    cases verified with
    | error error =>
      have hrest : perform (serveAt crate bearer.config task) later middle
        (done (.error (.unauthorized error))) = (last, done result) := hrest
      have hnone : ∀ condition, ¬ Encounters (serveAt crate bearer.config task) condition later
          middle (done (.error (.unauthorized error)) : Task Material (Except Denial Value)) :=
        fun condition => (encounters_done _ condition _ _ _).mp
      rw [perform_done] at hrest
      cases hrest
      have hiff := verified_iff_persisted hverify (hfetched.resolve_right (hnone _)) hvalid
      constructor
      · intro hok
        cases hok
      · intro hpersisted
        cases hiff.mpr (hpersisted.resolve_right (hnone _))
    | ok value =>
      have hrest : perform (serveAt crate bearer.config task) later middle
        (done (validateRoles value bearer.config >>= fun _ => .ok value)) = (last, done result) :=
          hrest
      have hnone : ∀ condition, ¬ Encounters (serveAt crate bearer.config task) condition later
          middle (done (validateRoles value bearer.config >>= fun _ => .ok value) :
            Task Material (Except Denial Value)) :=
        fun condition => (encounters_done _ condition _ _ _).mp
      rw [perform_done] at hrest
      cases hrest
      have hiff := verified_iff_persisted hverify (hfetched.resolve_right (hnone _)) hvalid
      constructor
      · intro hok
        obtain ⟨_, -, hsame⟩ := bind_eq_ok.mp hok
        cases hsame
        exact .inl (hiff.mp rfl)
      · intro hpersisted
        cases hiff.mpr (hpersisted.resolve_right (hnone _))
        exact bind_eq_ok.mpr ⟨(), hroles, rfl⟩

/-- Seven calls, the first of them an hour after the last attempt, while
the provider publishes a new key and writing has the given outcome. -/
def rotation (written : Except AnyError Unit) : List (Moment String) :=
  ⟨fromSecs 3600, fromSecs 3600, publishes (oneKey "k2" "s2"), filesWith written⟩ ::
    List.replicate 7 ⟨0, 0, publishes (oneKey "k2" "s2"), filesWith written⟩

/-- What a full disk answers. -/
def diskFull : Except AnyError Unit := .error ["No space left on device (os error 28)"]

/-- The request with the new key fetches it. -/
theorem rotation_fetched (written : Except AnyError Unit) :
    Encounters (serveAt sampleCrate samplePolicy 0) (Fetched samplePolicy (oneKey "k2" "s2"))
      (rotation written) sampleShared (refreshIfDue samplePolicy false) :=
  .inr (.inr (.inr (.inl ⟨rfl, rfl⟩)))

/-- On a full disk the fetched key does not verify anything and the request is
denied, although the same request is accepted on a writable disk. -/
theorem full_disk_denies :
    ¬ (∀ force moments shared last result set,
      perform (serveAt sampleCrate samplePolicy 0) moments shared
        (refreshIfDue samplePolicy force) = (last, done result) →
      Encounters (serveAt sampleCrate samplePolicy 0) (Fetched samplePolicy set) moments shared
        (refreshIfDue samplePolicy force) → last.keys.set = set ∧ result = .ok ()) ∧
    (perform (serveAt sampleCrate samplePolicy 0) (rotation diskFull) sampleShared
      (authorizeToken sampleCrate sampleBearer "k2.s2")).2 =
        done (.error (.unauthorized ["write JWKS cache ~/.cache/lfp-pipe/auth/jwks.json",
          "No space left on device (os error 28)"])) ∧
    (perform (serveAt sampleCrate samplePolicy 0) (rotation (.ok ())) sampleShared
      (authorizeToken sampleCrate sampleBearer "k2.s2")).2 =
        done (.ok (.object [("sub", .string "alice")])) := by
  refine ⟨fun hclaim => ?_, rfl, rfl⟩
  have hdenied := (hclaim false (rotation diskFull) sampleShared _ _ (oneKey "k2" "s2") rfl
    (rotation_fetched diskFull)).2
  cases hdenied

/-- On a writable disk the fetched key verifies tokens from now on. -/
theorem writable_disk_installs :
    Encounters (serveAt sampleCrate samplePolicy 0)
      (Persisted sampleCrate samplePolicy (oneKey "k2" "s2")) (rotation (.ok ())) sampleShared
      (refreshIfDue samplePolicy false) :=
  ((fetched_keys_verify_iff sampleCrate sampleBearer 0).1 false (rotation (.ok ())) sampleShared _ _
    (oneKey "k2" "s2") rfl (rotation_fetched (.ok ()))).mp ⟨rfl, rfl⟩

end LfpPipe.KeyPersistence
