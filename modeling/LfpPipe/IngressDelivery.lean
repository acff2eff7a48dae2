import LfpPipe.IngressSafety

/-!
# What happens to an accepted winner

A connection with a winner is never lost: it is with its handler, in the
pending map, removed by a callback or by expiry, or aborted by a failed
publication. The first and the last of these places strand a winner that was
already told to call back, and a callback of any other client takes the
pending entry away from it.
-/

namespace LfpPipe.IngressDelivery

open RustText Fallible SharedConfig IngressClaims OwnedTables TransitionRuns IngressPairing
  IngressOwnership IngressSafety

/-- Connections with a winner are somewhere. -/
def Kept (s : State) : Prop :=
  ∀ winner ∈ s.history.winners, 0 < connectionPlaces s winner.connectionId

/-- A handler that ends before the selection of a winner takes no place from
a connection with a winner. -/
theorem ended_count {s : State} (hs : Consistent s) {socket : ℕ} {handler : Handler}
    (hl : s.handlers.lookup socket = some handler)
    (hstage : ∀ connectionId preface clientId acks,
      handler.stage ≠ .acknowledging connectionId preface clientId acks)
    {winner : Winner} (hwinner : winner ∈ s.history.winners) :
    (handlerConnection socket handler).count winner.connectionId = 0 := by
  have hknown := hs.handlers socket handler hl
  rw [List.count_eq_zero]
  intro hm
  unfold handlerConnection at hm
  cases hcase : handler.stage with
  | detecting => simp [hcase, stageConnection] at hm
  | passthrough backendAddr => simp [hcase, stageConnection] at hm
  | claiming connectionId hostname preface =>
    rw [hcase] at hknown
    have hid : connectionId = winner.connectionId := by
      simpa [hcase, stageConnection, eq_comm] using hm
    exact hknown.2 (List.mem_map.mpr ⟨winner, hwinner, hid.symm⟩)
  | acknowledging connectionId preface clientId acks => exact hstage _ _ _ _ hcase

/-- A new winner is selected for a connection that has a place. -/
theorem winner_placed {config : IngressConfig} {s next : State} (h : Moves config s next)
    {winner : Winner} (hwinner : winner ∈ next.history.winners) :
    winner ∈ s.history.winners ∨ 0 < connectionPlaces s winner.connectionId := by
  cases h with
  | @selected socket permit connectionId hostname preface selection hl hid hfair =>
    rcases List.mem_append.mp hwinner with hold | hnew
    · exact .inl hold
    · have hheld : 0 < owned handlerConnection s.handlers connectionId :=
        owned_pos hl (List.mem_singleton.mpr rfl)
      rw [List.mem_singleton.mp hnew, hid]
      unfold connectionPlaces
      exact .inr (by omega)
  | ticked => exact .inl hwinner
  | rejected => exact .inl hwinner
  | opened permit capacity hpermit hcapacity => exact .inl hwinner
  | bypassed backendAddr hl => exact .inl hwinner
  | announced hostname preface hl hfresh => exact .inl hwinner
  | ended hl hstage => exact .inl hwinner
  | published hl => exact .inl hwinner
  | publishFailed hl => exact .inl hwinner
  | registered hl => exact .inl hwinner
  | idled timers => exact .inl hwinner
  | expired timers hl => exact .inl hwinner
  | callbackRejected => exact .inl hwinner
  | callbackOpened permit capacity hpermit hcapacity => exact .inl hwinner
  | callbackEnded hl => exact .inl hwinner
  | unknown hl hnone => exact .inl hwinner
  | mismatched hl hentry hclient => exact .inl hwinner
  | paired hl hentry hclient => exact .inl hwinner
  | relayEnded hl => exact .inl hwinner

/-- Every move keeps the connections with a winner. -/
theorem moves_kept {config : IngressConfig} {s next : State} (hplaced : Placed s)
    (hconsistent : Consistent s) (hs : Kept s) (h : Moves config s next) : Kept next := by
  intro winner hwinner
  have hbefore : 0 < connectionPlaces s winner.connectionId := by
    rcases winner_placed h hwinner with hold | hplace
    · exact hs winner hold
    · exact hplace
  cases moves_connections hplaced.sockets hplaced.connections h with
  | kept hids hplaces =>
    rw [hplaces]
    exact hbefore
  | drawn hfresh hids hplaces =>
    rw [hplaces]
    omega
  | dropped hl hstage hids hwinners hplaces =>
    rw [hwinners] at hwinner
    have hsum := hplaces winner.connectionId
    rw [ended_count hconsistent hl hstage hwinner] at hsum
    omega

/-- Everything that holds of a reachable ingress. -/
structure Traced (s : State) : Prop where
  /-- Resources are in one place. -/
  placed : Placed s
  /-- The history explains the tasks. -/
  consistent : Consistent s
  /-- Connections with a winner are somewhere. -/
  kept : Kept s

/-- A run from a traced state ends in a traced state. -/
theorem Traced.run {config : IngressConfig} {s later : State} (hs : Traced s)
    {events : List Event} (hrun : run (step config) s events = some later) : Traced later := by
  refine run_invariant ?_ hs hrun
  intro state event next h hstep
  have hmoves := step_moves hstep
  exact ⟨moves_placed h.placed hmoves, moves_consistent h.consistent hmoves,
    moves_kept h.placed h.consistent h.kept hmoves⟩

/-- Every reachable ingress is traced. -/
theorem reachable_traced {config : IngressConfig} {s : State}
    (hr : Reachable (step config) (initial config) s) : Traced s := by
  obtain ⟨events, hrun⟩ := hr
  have hstart : Traced (initial config) :=
    ⟨placed_initial config, consistent_initial config, fun winner hwinner => by cases hwinner⟩
  exact hstart.run hrun

/-- A handler has selected the winner of the connection and has not inserted
it into the pending map. -/
def Acknowledging (s : State) (connectionId : String) : Prop :=
  ∃ socket permit preface clientId acks,
    s.handlers.lookup socket = some ⟨permit, .acknowledging connectionId preface clientId acks⟩

/-- The connection is in the pending map for the client. -/
def Registered (s : State) (connectionId clientId : String) : Prop :=
  ∃ entry, s.pending.lookup connectionId = some entry ∧ entry.clientId = clientId

/-- No accepted winner is stranded: its connection is in the pending map or
has been removed from there. -/
def NoneStranded (s : State) : Prop :=
  ∀ ack ∈ s.history.published, ack.accepted = true →
    Registered s ack.connectionId ack.clientId ∨ ack.connectionId ∈ s.history.removed

/-- A pending connection of an accepted client is pending for that client. -/
theorem registered_of_lookup {s : State} (hs : Traced s) {ack : ConnectionClaimAck}
    (hack : ack ∈ s.history.published) (haccepted : ack.accepted = true)
    {entry : PendingConnection} (hentry : s.pending.lookup ack.connectionId = some entry) :
    Registered s ack.connectionId ack.clientId := by
  obtain ⟨winner, hwinner, hid, hclient, -⟩ := hs.consistent.acceptedWinner ack hack haccepted
  obtain ⟨other, hother, hotherId, hotherClient⟩ := (hs.consistent.pending _ entry hentry).won
  have hsame := List.inj_on_of_nodup_map hs.consistent.winners hwinner hother
    (hid.trans hotherId.symm)
  refine ⟨entry, hentry, ?_⟩
  rw [← hotherClient, ← hsame]
  exact hclient

/-- A handler that holds a connection with a winner is acknowledging. -/
theorem acknowledging_of_held {s : State} (hs : Traced s) {connectionId : String}
    (hwon : connectionId ∈ s.history.winners.map fun winner => winner.connectionId)
    (hheld : 0 < owned handlerConnection s.handlers connectionId) :
    Acknowledging s connectionId := by
  obtain ⟨socket, ⟨permit, stage⟩, hl, hm⟩ := exists_of_owned_pos hheld
  have hknown := hs.consistent.handlers socket _ hl
  cases stage with
  | detecting => simp [handlerConnection, stageConnection] at hm
  | passthrough backendAddr => simp [handlerConnection, stageConnection] at hm
  | claiming other hostname preface =>
    obtain rfl : connectionId = other := by simpa [handlerConnection, stageConnection] using hm
    exact absurd hwon hknown.2
  | acknowledging other preface clientId acks =>
    obtain rfl : connectionId = other := by simpa [handlerConnection, stageConnection] using hm
    exact ⟨socket, permit, preface, clientId, acks, hl⟩

/-- Where the connection of an accepted client can be. -/
theorem accepted_located {s : State} (hs : Traced s) {ack : ConnectionClaimAck}
    (hack : ack ∈ s.history.published) (haccepted : ack.accepted = true) :
    Acknowledging s ack.connectionId ∨ Registered s ack.connectionId ack.clientId ∨
      ack.connectionId ∈ s.history.removed ∨ ack.connectionId ∈ s.history.aborted := by
  obtain ⟨winner, hwinner, hid, -⟩ := hs.consistent.acceptedWinner ack hack haccepted
  have hplace := hs.kept winner hwinner
  rw [hid] at hplace
  unfold connectionPlaces at hplace
  by_cases hremoved : 0 < s.history.removed.count ack.connectionId
  · exact .inr (.inr (.inl (List.count_pos_iff.mp hremoved)))
  · by_cases haborted : 0 < s.history.aborted.count ack.connectionId
    · exact .inr (.inr (.inr (List.count_pos_iff.mp haborted)))
    · by_cases hheld : 0 < owned handlerConnection s.handlers ack.connectionId
      · exact .inl (acknowledging_of_held hs (List.mem_map.mpr ⟨winner, hwinner, hid⟩) hheld)
      · obtain ⟨name, entry, hentry, hm⟩ := exists_of_owned_pos
          (show 0 < owned pendingConnection s.pending ack.connectionId by omega)
        obtain rfl : ack.connectionId = name := List.mem_singleton.mp hm
        exact .inr (.inl (registered_of_lookup hs hack haccepted hentry))

/-- An accepted winner is served exactly when its handler is done and did not
fail while publishing. -/
theorem accepted_served_iff {s : State} (hs : Traced s) {ack : ConnectionClaimAck}
    (hack : ack ∈ s.history.published) (haccepted : ack.accepted = true) :
    (Registered s ack.connectionId ack.clientId ∨ ack.connectionId ∈ s.history.removed) ↔
      ¬ Acknowledging s ack.connectionId ∧ ack.connectionId ∉ s.history.aborted := by
  constructor
  · intro hserved
    have hone := (hs.placed.connections ack.connectionId).1
    unfold connectionPlaces at hone
    have hgone : 0 < owned pendingConnection s.pending ack.connectionId +
        s.history.removed.count ack.connectionId := by
      rcases hserved with ⟨entry, hentry, -⟩ | hremoved
      · have hpending : 0 < owned pendingConnection s.pending ack.connectionId :=
          owned_pos hentry (List.mem_singleton.mpr rfl)
        omega
      · have hcount := List.count_pos_iff.mpr hremoved
        omega
    constructor
    · rintro ⟨socket, permit, preface, clientId, acks, hl⟩
      have hheld : 0 < owned handlerConnection s.handlers ack.connectionId :=
        owned_pos hl (List.mem_singleton.mpr rfl)
      omega
    · intro haborted
      have hcount := List.count_pos_iff.mpr haborted
      omega
  · rintro ⟨hdone, hpublished⟩
    rcases accepted_located hs hack haccepted with h | h | h | h
    · exact absurd h hdone
    · exact .inl h
    · exact .inr h
    · exact absurd h hpublished

/-- A callback is refused because no pending connection has its identifier. -/
def RefusedAsUnknown (config : IngressConfig) (s : State) (callback : ℕ)
    (envelope : PrefixEnvelope) : Prop :=
  ∃ next, step config s (.callbackPrefix callback envelope) = some next ∧
    next.history.refused = s.history.refused ++ [(callback, unknownConnection)]

/-- A callback without a pending connection is refused as unknown. -/
theorem refused_of_lookup_none (config : IngressConfig) {s : State} {callback : ℕ} {permit : Bool}
    {envelope : PrefixEnvelope} (hcallback : s.callbacks.lookup callback = some permit)
    (hnone : s.pending.lookup envelope.connectionId = none) :
    RefusedAsUnknown config s callback envelope := by
  refine ⟨s.refuse callback permit unknownConnection, ?_, rfl⟩
  simp only [step, hcallback, Option.map_some, State.handleClientData, hnone]

/-- The callback of a registered client is not refused as unknown. -/
theorem not_refused_of_registered (config : IngressConfig) {s : State} {callback : ℕ}
    {connectionId clientId : String} (h : Registered s connectionId clientId) :
    ¬ RefusedAsUnknown config s callback ⟨clientId, connectionId⟩ := by
  obtain ⟨entry, hentry, hclient⟩ := h
  rintro ⟨next, hstep, hrefused⟩
  obtain ⟨permit, hcallback, rfl⟩ := Option.map_eq_some_iff.mp hstep
  have hpair : s.handleClientData callback permit ⟨clientId, connectionId⟩ =
      s.pair callback permit ⟨clientId, connectionId⟩ entry := by
    simp only [State.handleClientData, hentry, hclient, ne_eq, not_true_eq_false, if_false]
  rw [hpair] at hrefused
  have hlength := congrArg List.length hrefused
  simp only [State.pair, State.endCallback, List.length_append, List.length_singleton] at hlength
  omega

/-- In every reachable state, no accepted winner is stranded exactly when no
handler is between its accepting acknowledgement and the pending map and none
failed there, and the callback of a winner whose entry was not removed is
accepted as known under the same condition. -/
theorem none_stranded_iff (config : IngressConfig) (s : State)
    (hr : Reachable (step config) (initial config) s) :
    (NoneStranded s ↔ ∀ ack ∈ s.history.published, ack.accepted = true →
      ¬ Acknowledging s ack.connectionId ∧ ack.connectionId ∉ s.history.aborted) ∧
    ∀ ack ∈ s.history.published, ack.accepted = true →
      ack.connectionId ∉ s.history.removed →
      ∀ callback permit, s.callbacks.lookup callback = some permit →
        (¬ RefusedAsUnknown config s callback ⟨ack.clientId, ack.connectionId⟩ ↔
          ¬ Acknowledging s ack.connectionId ∧ ack.connectionId ∉ s.history.aborted) := by
  have hs := reachable_traced hr
  refine ⟨⟨?_, ?_⟩, ?_⟩
  · intro hnone ack hack haccepted
    exact (accepted_served_iff hs hack haccepted).mp (hnone ack hack haccepted)
  · intro hdone ack hack haccepted
    exact (accepted_served_iff hs hack haccepted).mpr (hdone ack hack haccepted)
  · intro ack hack haccepted hkept callback permit hcallback
    rw [← accepted_served_iff hs hack haccepted, or_iff_left hkept]
    constructor
    · intro hknown
      cases hentry : s.pending.lookup ack.connectionId with
      | none => exact absurd (refused_of_lookup_none config hcallback hentry) hknown
      | some entry => exact registered_of_lookup hs hack haccepted hentry
    · exact fun hregistered => not_refused_of_registered config hregistered

/-- Both claimants are answered, the connection is inserted and a callback
arrives. -/
def timelyCallback : List Event :=
  sampleClaims ++ [.publishedAck 0, .publishedAck 0, .register 0, .acceptCallback]

/-- After the timely run the winner is not stranded and its callback is
known. -/
theorem none_stranded_iff_timely : ∃ s,
    run (step sampleConfig) (initial sampleConfig) timelyCallback = some s ∧
      s.history.published.length = 2 ∧ NoneStranded s ∧
      ¬ RefusedAsUnknown sampleConfig s 0 ⟨"alice", "c1"⟩ := by
  have hfacts : (run (step sampleConfig) (initial sampleConfig) timelyCallback).map
      (fun s => (s.history.published, s.handlers.keys, s.callbacks.lookup 0,
        s.history.removed ++ s.history.aborted)) =
        some ([⟨"r1", true, "alice", "c1", none⟩, ⟨"r2", false, "bob", "c1",
          some "another client won round-robin selection"⟩], [], some false, []) := by
    decide +kernel
  obtain ⟨s, hrun, hs⟩ := Option.map_eq_some_iff.mp hfacts
  simp only [Prod.mk.injEq, List.append_eq_nil_iff] at hs
  obtain ⟨hpublished, hhandlers, hcallback, hremoved, haborted⟩ := hs
  have hdone : ∀ connectionId, ¬ Acknowledging s connectionId ∧
      connectionId ∉ s.history.aborted := by
    intro connectionId
    refine ⟨?_, by simp [haborted]⟩
    rintro ⟨socket, permit, preface, clientId, acks, hl⟩
    have hkey : socket ∈ s.handlers.keys := by
      rw [← AList.mem_keys, ← AList.lookup_isSome, hl]
      rfl
    simp [hhandlers] at hkey
  have hiff := none_stranded_iff sampleConfig s ⟨_, hrun⟩
  refine ⟨s, hrun, by simp [hpublished], hiff.1.mpr fun ack _ _ => hdone ack.connectionId, ?_⟩
  exact (hiff.2 ⟨"r1", true, "alice", "c1", none⟩ (by simp [hpublished]) rfl
    (by simp [hremoved]) 0 false hcallback).mpr (hdone "c1")

/-- The winner is told to call back and does so before its handler has
inserted the connection. -/
def earlyCallback : List Event :=
  sampleClaims ++ [.publishedAck 0, .acceptCallback]

/-- After the early run the accepted winner is stranded and its callback is
refused. -/
theorem early_winner_refused : ∃ s,
    run (step sampleConfig) (initial sampleConfig) earlyCallback = some s ∧
      ⟨"r1", true, "alice", "c1", none⟩ ∈ s.history.published ∧ ¬ NoneStranded s ∧
      RefusedAsUnknown sampleConfig s 0 ⟨"alice", "c1"⟩ := by
  have hfacts : (run (step sampleConfig) (initial sampleConfig) earlyCallback).map
      (fun s => (s.history.published, s.pending.lookup "c1", s.callbacks.lookup 0,
        s.history.removed)) =
        some ([⟨"r1", true, "alice", "c1", none⟩], none, some false, []) := by decide +kernel
  obtain ⟨s, hrun, hs⟩ := Option.map_eq_some_iff.mp hfacts
  simp only [Prod.mk.injEq] at hs
  obtain ⟨hpublished, hpending, hcallback, hremoved⟩ := hs
  refine ⟨s, hrun, by simp [hpublished], ?_,
    refused_of_lookup_none sampleConfig hcallback hpending⟩
  intro hnone
  rcases hnone ⟨"r1", true, "alice", "c1", none⟩ (by simp [hpublished]) rfl with h | h
  · obtain ⟨entry, hentry, -⟩ := h
    simp [hpending] at hentry
  · simp [hremoved] at h

/-- What was removed from the pending map stays in the history. -/
theorem moves_removed {config : IngressConfig} {s next : State} {connectionId : String}
    (hremoved : connectionId ∈ s.history.removed) (h : Moves config s next) :
    connectionId ∈ next.history.removed := by
  cases h with
  | expired timers hl => exact List.mem_append_left _ hremoved
  | mismatched hl hentry hclient => exact List.mem_append_left _ hremoved
  | paired hl hentry hclient => exact List.mem_append_left _ hremoved
  | ticked => exact hremoved
  | rejected => exact hremoved
  | opened permit capacity hpermit hcapacity => exact hremoved
  | bypassed backendAddr hl => exact hremoved
  | announced hostname preface hl hfresh => exact hremoved
  | ended hl hstage => exact hremoved
  | selected hl hid hfair => exact hremoved
  | published hl => exact hremoved
  | publishFailed hl => exact hremoved
  | registered hl => exact hremoved
  | idled timers => exact hremoved
  | callbackRejected => exact hremoved
  | callbackOpened permit capacity hpermit hcapacity => exact hremoved
  | callbackEnded hl => exact hremoved
  | unknown hl hnone => exact hremoved
  | relayEnded hl => exact hremoved

/-- A removed connection never becomes pending again. -/
theorem pending_none_of_removed {s : State} (hs : Placed s) {connectionId : String}
    (hremoved : connectionId ∈ s.history.removed) : s.pending.lookup connectionId = none := by
  cases hentry : s.pending.lookup connectionId with
  | none => rfl
  | some entry =>
    have hone := (hs.connections connectionId).1
    have hpending : 0 < owned pendingConnection s.pending connectionId :=
      owned_pos hentry (List.mem_singleton.mpr rfl)
    have hcount := List.count_pos_iff.mpr hremoved
    unfold connectionPlaces at hone
    omega

/-- The refused callback leaves the pending map and the capacity of public
sockets as they were. -/
def LeavesPairing (s next : State) : Prop :=
  next.pending = s.pending ∧ next.ingressCapacity = s.ingressCapacity

/-- In every reachable state the callback of another client than the winner
is refused and takes the pending entry with its socket and permit away, and
every later callback of the winner is refused as unknown. -/
theorem impostor_takes_entry (config : IngressConfig) (s : State)
    (hr : Reachable (step config) (initial config) s) (callback : ℕ) (permit : Bool)
    (hcallback : s.callbacks.lookup callback = some permit) (envelope : PrefixEnvelope)
    (entry : PendingConnection) (hentry : s.pending.lookup envelope.connectionId = some entry)
    (hclient : envelope.clientId ≠ entry.clientId) :
    ∃ next, step config s (.callbackPrefix callback envelope) = some next ∧
      next.history.refused = s.history.refused ++ [(callback, wrongClient envelope entry)] ∧
      ¬ LeavesPairing s next ∧ next.pending.lookup envelope.connectionId = none ∧
      next.ingressCapacity = s.ingressCapacity + entry.ingressPermit.toNat ∧
      ∀ events later, run (step config) next events = some later →
        ∀ winnerCallback winnerPermit, later.callbacks.lookup winnerCallback = some winnerPermit →
          RefusedAsUnknown config later winnerCallback
            ⟨entry.clientId, envelope.connectionId⟩ := by
  have hstep : step config s (.callbackPrefix callback envelope) =
      some ((s.dropEntry envelope.connectionId entry).refuse callback permit
        (wrongClient envelope entry)) := by
    simp only [step, hcallback, Option.map_some, State.handleClientData, hentry, ne_eq,
      Ne.symm hclient, not_false_eq_true, if_true]
  have hgone : (s.pending.erase envelope.connectionId).lookup envelope.connectionId = none :=
    AList.lookup_erase _ _
  refine ⟨_, hstep, rfl, ?_, hgone, rfl, ?_⟩
  · rintro ⟨hpending, -⟩
    rw [← hpending] at hentry
    exact Option.some_ne_none entry (hentry.symm.trans hgone)
  · intro events later hrun winnerCallback winnerPermit hwinner
    have htraced := ((reachable_traced hr).run (run_cons_iff.mpr ⟨_, hstep, hrun⟩)).placed
    have hremoved : envelope.connectionId ∈ later.history.removed := by
      refine run_invariant (fun _ _ _ h hs => moves_removed h (step_moves hs)) ?_ hrun
      exact List.mem_append_right _ (List.mem_singleton.mpr rfl)
    exact refused_of_lookup_none config hwinner (pending_none_of_removed htraced hremoved)

/-- After the timely run, a callback of another client changes the pending
map. -/
theorem impostor_takes_entry_mallory : ∃ s,
    run (step sampleConfig) (initial sampleConfig) timelyCallback = some s ∧
      ∃ next, step sampleConfig s (.callbackPrefix 0 ⟨"mallory", "c1"⟩) = some next ∧
        ¬ LeavesPairing s next := by
  have hfacts : (run (step sampleConfig) (initial sampleConfig) timelyCallback).map
      (fun s => (s.callbacks.lookup 0, s.pending.lookup "c1")) =
        some (some false, some ⟨0, [], "alice", 10000, false⟩) := by decide +kernel
  obtain ⟨s, hrun, hs⟩ := Option.map_eq_some_iff.mp hfacts
  simp only [Prod.mk.injEq] at hs
  obtain ⟨next, hstep, -, hleaves, -⟩ := impostor_takes_entry sampleConfig s ⟨_, hrun⟩ 0 false
    hs.1 ⟨"mallory", "c1"⟩ ⟨0, [], "alice", 10000, false⟩ hs.2 (by decide)
  exact ⟨s, hrun, next, hstep, hleaves⟩

/-- One wrong callback removes the pending connection, and the winner that
calls back next is refused instead of being relayed. -/
theorem mallory_cuts_off_alice : ∃ s next later,
    run (step sampleConfig) (initial sampleConfig) timelyCallback = some s ∧
      step sampleConfig s (.callbackPrefix 0 ⟨"mallory", "c1"⟩) = some next ∧
      run (step sampleConfig) next [.acceptCallback, .callbackPrefix 1 ⟨"alice", "c1"⟩] =
        some later ∧
      s.pending.lookup "c1" = some ⟨0, [], "alice", 10000, false⟩ ∧ ¬ LeavesPairing s next ∧
      later.history.relays = [] ∧
      later.history.refused =
          [(0, ["prefix client_id mallory does not match winning client alice"]),
        (1, ["unknown or expired connection id"])] := by
  have hfacts : ((run (step sampleConfig) (initial sampleConfig) timelyCallback).bind fun s =>
      (step sampleConfig s (.callbackPrefix 0 ⟨"mallory", "c1"⟩)).bind fun next =>
        (run (step sampleConfig) next [.acceptCallback, .callbackPrefix 1 ⟨"alice", "c1"⟩]).map
          fun later => (s.pending.lookup "c1", next.pending.lookup "c1", later.history.relays,
            later.history.refused)) =
      some (some ⟨0, [], "alice", 10000, false⟩, none, [],
        [(0, ["prefix client_id mallory does not match winning client alice"]),
          (1, ["unknown or expired connection id"])]) := by rfl
  simp only [Option.bind_eq_some_iff, Option.map_eq_some_iff, Prod.mk.injEq] at hfacts
  obtain ⟨s, hrun, next, hstep, later, hlater, hbefore, hafter, hrelays, hrefused⟩ := hfacts
  refine ⟨s, next, later, hrun, hstep, hlater, hbefore, ?_, hrelays, hrefused⟩
  rintro ⟨hpending, -⟩
  rw [hpending, hbefore] at hafter
  cases hafter

end LfpPipe.IngressDelivery
