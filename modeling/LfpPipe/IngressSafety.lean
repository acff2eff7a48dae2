import LfpPipe.IngressOwnership

/-!
# Pairing safety and agreement

The history of the ingress explains everything that its tasks hold: a handler
works under an identifier that was handed out for its socket, a pending entry
and a relay belong to the winner of their identifier, and an acknowledgement
still to be published does not repeat one that was. These facts survive every
move and give, together with the placement of sockets and callbacks, the
safety of pairing in every interleaving.
-/

namespace LfpPipe.IngressSafety

open SharedConfig IngressClaims OwnedTables TransitionRuns IngressPairing IngressOwnership

/-- The identifiers with a published accepting acknowledgement. -/
def acceptedIds (history : History) : List String :=
  (history.published.filter fun ack => ack.accepted).map fun ack => ack.connectionId

/-- The client is the selected winner of the connection. -/
def Won (history : History) (connectionId clientId : String) : Prop :=
  ∃ winner ∈ history.winners,
    winner.connectionId = connectionId ∧ winner.clientId = clientId

/-- What the history says about the progress of a handler. -/
def StageKnown (history : History) (socket : ℕ) : Stage → Prop
  | .detecting => True
  | .passthrough _ => True
  | .claiming connectionId _ _ =>
    (connectionId, socket) ∈ history.ids ∧
      connectionId ∉ history.winners.map fun winner => winner.connectionId
  | .acknowledging connectionId _ clientId acks =>
    (connectionId, socket) ∈ history.ids ∧
      (∃ winner ∈ history.winners, winner.connectionId = connectionId ∧
        winner.clientId = clientId ∧ FairlyAcknowledged winner acks) ∧
      ∀ ack ∈ acks, ack.accepted = true → connectionId ∉ acceptedIds history

/-- What the history says about a socket that waits for or has a callback. -/
structure PairKnown (history : History) (connectionId clientId : String) (socket : ℕ) :
    Prop where
  /-- The identifier was handed out for the socket. -/
  announced : (connectionId, socket) ∈ history.ids
  /-- The client won it. -/
  won : Won history connectionId clientId

/-- A longer history explains it as well. -/
theorem PairKnown.mono {history later : History} {connectionId clientId : String} {socket : ℕ}
    (h : PairKnown history connectionId clientId socket)
    (hids : ∀ used ∈ history.ids, used ∈ later.ids)
    (hwinners : ∀ winner ∈ history.winners, winner ∈ later.winners) :
    PairKnown later connectionId clientId socket := by
  obtain ⟨winner, hwinner, hwon⟩ := h.won
  exact ⟨hids _ h.announced, winner, hwinners winner hwinner, hwon⟩

/-- The history explains what all tasks hold. -/
structure Consistent (s : State) : Prop where
  /-- Identifiers are never handed out twice. -/
  ids : (s.history.ids.map Prod.fst).Nodup
  /-- A connection has at most one winner. -/
  winners : (s.history.winners.map fun winner => winner.connectionId).Nodup
  /-- Only announced connections have winners. -/
  winnersAnnounced : ∀ winner ∈ s.history.winners,
    winner.connectionId ∈ s.history.ids.map Prod.fst
  /-- A connection is accepted at most once. -/
  acceptedOnce : (acceptedIds s.history).Nodup
  /-- Acceptance goes to the winner. -/
  acceptedWinner : ∀ ack ∈ s.history.published, ack.accepted = true →
    ∃ winner ∈ s.history.winners, winner.connectionId = ack.connectionId ∧
      winner.clientId = ack.clientId ∧ winner.reply = some ack.subject
  /-- Handlers are explained. -/
  handlers : ∀ socket handler, s.handlers.lookup socket = some handler →
    StageKnown s.history socket handler.stage
  /-- Pending entries are explained. -/
  pending : ∀ connectionId entry, s.pending.lookup connectionId = some entry →
    PairKnown s.history connectionId entry.clientId entry.ingress
  /-- Relays are explained. -/
  relays : ∀ relay ∈ s.history.relays,
    PairKnown s.history relay.envelope.connectionId relay.envelope.clientId relay.ingress

/-- A fresh ingress has nothing to explain. -/
theorem consistent_initial (config : IngressConfig) : Consistent (initial config) := by
  constructor <;> simp [initial, acceptedIds]

/-- Two sockets never share an identifier. -/
theorem Consistent.socket_unique {s : State} (hs : Consistent s) {connectionId : String}
    {socket other : ℕ} (h : (connectionId, socket) ∈ s.history.ids)
    (ho : (connectionId, other) ∈ s.history.ids) : socket = other := by
  have hsame := List.inj_on_of_nodup_map hs.ids h ho rfl
  exact congrArg Prod.snd hsame

/-- A connection that was accepted has a winner. -/
theorem Consistent.accepted_has_winner {s : State} (hs : Consistent s) {connectionId : String}
    (h : connectionId ∈ acceptedIds s.history) :
    connectionId ∈ s.history.winners.map fun winner => winner.connectionId := by
  obtain ⟨ack, hack, rfl⟩ := List.mem_map.mp h
  obtain ⟨hpublished, haccepted⟩ := List.mem_filter.mp hack
  obtain ⟨winner, hwinner, hid, -⟩ := hs.acceptedWinner ack hpublished haccepted
  exact List.mem_map.mpr ⟨winner, hwinner, hid⟩

/-- A move that leaves identifiers, winners and acknowledgements alone only
has to explain what its tasks hold afterwards. -/
theorem Consistent.sameLedger {s next : State} (hs : Consistent s)
    (hids : next.history.ids = s.history.ids)
    (hwinners : next.history.winners = s.history.winners)
    (hpublished : next.history.published = s.history.published)
    (hhandlers : ∀ socket handler, next.handlers.lookup socket = some handler →
      StageKnown s.history socket handler.stage)
    (hpending : ∀ connectionId entry, next.pending.lookup connectionId = some entry →
      PairKnown s.history connectionId entry.clientId entry.ingress)
    (hrelays : ∀ relay ∈ next.history.relays,
      PairKnown s.history relay.envelope.connectionId relay.envelope.clientId relay.ingress) :
    Consistent next := by
  have haccepted : acceptedIds next.history = acceptedIds s.history := by
    unfold acceptedIds
    rw [hpublished]
  have hpair : ∀ {connectionId clientId : String} {socket : ℕ},
      PairKnown s.history connectionId clientId socket →
        PairKnown next.history connectionId clientId socket := by
    intro connectionId clientId socket h
    refine h.mono ?_ ?_
    · rw [hids]
      exact fun used hused => hused
    · rw [hwinners]
      exact fun winner hwinner => hwinner
  have hstage : ∀ socket stage, StageKnown s.history socket stage →
      StageKnown next.history socket stage := by
    intro socket stage h
    cases stage with
    | detecting => trivial
    | passthrough backendAddr => trivial
    | claiming connectionId hostname preface =>
      unfold StageKnown
      rw [hids, hwinners]
      exact h
    | acknowledging connectionId preface clientId acks =>
      unfold StageKnown
      rw [hids, hwinners, haccepted]
      exact h
  refine ⟨?_, ?_, ?_, ?_, ?_, ?_, ?_, ?_⟩
  · rw [hids]
    exact hs.ids
  · rw [hwinners]
    exact hs.winners
  · rw [hwinners, hids]
    exact hs.winnersAnnounced
  · rw [haccepted]
    exact hs.acceptedOnce
  · rw [hpublished, hwinners]
    exact hs.acceptedWinner
  · intro socket handler h
    exact hstage _ _ (hhandlers socket handler h)
  · intro connectionId entry h
    exact hpair (hpending connectionId entry h)
  · intro relay h
    exact hpair (hrelays relay h)

/-- A fresh identifier for a detecting handler is explained. -/
theorem consistent_announce {s : State} (hs : Consistent s) {socket : ℕ} {permit : Bool}
    (hostname : Option String) (preface : List UInt8) {connectionId : String}
    (hfresh : connectionId ∉ s.history.ids.map Prod.fst) :
    Consistent (s.announce socket permit hostname preface connectionId) := by
  have hmem : ∀ used, used ∈ s.history.ids → used ∈ s.history.ids ++ [(connectionId, socket)] :=
    fun used h => List.mem_append_left _ h
  refine ⟨?_, hs.winners, ?_, hs.acceptedOnce, hs.acceptedWinner, ?_, ?_, ?_⟩
  · simp only [State.announce, List.map_append, List.map_cons, List.map_nil]
    rw [← List.concat_eq_append]
    exact List.Nodup.concat hfresh hs.ids
  · intro winner hwinner
    have hold := hs.winnersAnnounced winner hwinner
    simp only [State.announce, List.map_append]
    exact List.mem_append_left _ hold
  · intro other handler hlookup
    rcases lookup_of_insert hlookup with ⟨rfl, rfl⟩ | ⟨hne, hold⟩
    · refine ⟨List.mem_append_right _ (List.mem_singleton.mpr rfl), ?_⟩
      intro hwon
      obtain ⟨winner, hwinner, rfl⟩ := List.mem_map.mp hwon
      exact hfresh (hs.winnersAnnounced winner hwinner)
    · have hknown := hs.handlers other handler hold
      revert hknown
      cases handler.stage with
      | detecting => exact fun _ => trivial
      | passthrough backendAddr => exact fun _ => trivial
      | claiming name host bytes => exact fun h => ⟨hmem _ h.1, h.2⟩
      | acknowledging name bytes clientId acks => exact fun h => ⟨hmem _ h.1, h.2⟩
  · intro name entry hlookup
    exact (hs.pending name entry hlookup).mono hmem fun winner hwinner => hwinner
  · intro relay hrelay
    exact (hs.relays relay hrelay).mono hmem fun winner hwinner => hwinner

/-- A selection for a claiming handler is explained. -/
theorem consistent_selected {s : State} (hs : Consistent s) {socket : ℕ} {permit : Bool}
    {connectionId : String} {hostname : Option String} {preface : List UInt8}
    {selection : Selection}
    (hl : s.handlers.lookup socket = some ⟨permit, .claiming connectionId hostname preface⟩)
    (hid : selection.winner.connectionId = connectionId)
    (hfair : FairlyAcknowledged selection.winner selection.acks) :
    Consistent (s.selected socket permit connectionId preface selection) := by
  obtain ⟨hannounced, hopen⟩ := hs.handlers socket _ hl
  have hmem : ∀ winner, winner ∈ s.history.winners →
      winner ∈ s.history.winners ++ [selection.winner] := fun winner h => List.mem_append_left _ h
  refine ⟨hs.ids, ?_, ?_, hs.acceptedOnce, ?_, ?_, ?_, ?_⟩
  · simp only [State.selected, List.map_append, List.map_cons, List.map_nil, hid]
    rw [← List.concat_eq_append]
    exact List.Nodup.concat hopen hs.winners
  · intro winner hwinner
    rcases List.mem_append.mp hwinner with hold | hnew
    · exact hs.winnersAnnounced winner hold
    · rw [List.mem_singleton.mp hnew, hid]
      exact List.mem_map.mpr ⟨_, hannounced, rfl⟩
  · intro ack hack haccepted
    obtain ⟨winner, hwinner, hwon⟩ := hs.acceptedWinner ack hack haccepted
    exact ⟨winner, hmem winner hwinner, hwon⟩
  · intro other handler hlookup
    rcases lookup_of_insert hlookup with ⟨rfl, rfl⟩ | ⟨hne, hold⟩
    · refine ⟨hannounced, ⟨selection.winner, List.mem_append_right _ (List.mem_singleton.mpr rfl),
        hid, rfl, hfair⟩, ?_⟩
      intro ack _ _ haccepted
      exact hopen (hs.accepted_has_winner haccepted)
    · have hknown := hs.handlers other handler hold
      revert hknown
      cases handler.stage with
      | detecting => exact fun _ => trivial
      | passthrough backendAddr => exact fun _ => trivial
      | claiming name host bytes =>
        intro h
        refine ⟨h.1, ?_⟩
        simp only [State.selected, List.map_append, List.map_cons, List.map_nil, hid,
          List.mem_append, List.mem_singleton, not_or]
        refine ⟨h.2, ?_⟩
        rintro rfl
        exact hne (hs.socket_unique h.1 hannounced)
      | acknowledging name bytes clientId acks =>
        intro h
        obtain ⟨hids, ⟨winner, hwinner, hwon⟩, hlater⟩ := h
        exact ⟨hids, ⟨winner, hmem winner hwinner, hwon⟩, hlater⟩
  · intro name entry hlookup
    exact (hs.pending name entry hlookup).mono (fun used hused => hused) hmem
  · intro relay hrelay
    exact (hs.relays relay hrelay).mono (fun used hused => hused) hmem

/-- The accepted identifiers after one more acknowledgement. -/
theorem acceptedIds_published (s : State) (socket : ℕ) (permit : Bool) (connectionId : String)
    (preface : List UInt8) (clientId : String) (ack : ConnectionClaimAck)
    (rest : List ConnectionClaimAck) :
    acceptedIds (s.published socket permit connectionId preface clientId ack rest).history =
      acceptedIds s.history ++ if ack.accepted then [ack.connectionId] else [] := by
  simp only [acceptedIds, State.published, List.filter_append, List.map_append]
  split
  · next haccepted => rw [List.filter_singleton, haccepted]; rfl
  · next haccepted => rw [List.filter_singleton, Bool.eq_false_iff.mpr haccepted]; rfl

/-- Fairness of acknowledgements remains after the first one is published,
and an accepting first one was the only one. -/
theorem fair_tail {winner : Winner} {ack : ConnectionClaimAck} {rest : List ConnectionClaimAck}
    (h : FairlyAcknowledged winner (ack :: rest)) :
    FairlyAcknowledged winner rest ∧
      ∀ later ∈ rest, later.accepted = true → ack.accepted = false := by
  have hsingle := h.single
  have hcons : ∀ later, later ∈ rest → later ∈ ack :: rest := fun later hm =>
    List.mem_cons_of_mem _ hm
  cases haccepted : ack.accepted with
  | false =>
    rw [List.filter_cons_of_neg (by simp [haccepted])] at hsingle
    exact ⟨⟨fun later hm => h.connection later (hcons later hm),
      fun later hm => h.client later (hcons later hm),
      fun later hm => h.reply later (hcons later hm), hsingle⟩, fun _ _ _ => rfl⟩
  | true =>
    rw [List.filter_cons_of_pos (by simp [haccepted]), List.length_cons] at hsingle
    have hnone : (rest.filter fun later => later.accepted) = [] :=
      List.eq_nil_of_length_eq_zero (by omega)
    refine ⟨⟨fun later hm => h.connection later (hcons later hm),
      fun later hm => h.client later (hcons later hm),
      fun later hm => h.reply later (hcons later hm), by simp [hnone]⟩, ?_⟩
    intro later hm hlater
    exact absurd hlater (List.filter_eq_nil_iff.mp hnone later hm)

/-- A published acknowledgement is explained. -/
theorem consistent_published {s : State} (hs : Consistent s) {socket : ℕ} {permit : Bool}
    {connectionId : String} {preface : List UInt8} {clientId : String}
    {ack : ConnectionClaimAck} {rest : List ConnectionClaimAck}
    (hl : s.handlers.lookup socket =
      some ⟨permit, .acknowledging connectionId preface clientId (ack :: rest)⟩) :
    Consistent (s.published socket permit connectionId preface clientId ack rest) := by
  obtain ⟨hannounced, ⟨winner, hwinner, hid, hclient, hfair⟩, hlater⟩ := hs.handlers socket _ hl
  obtain ⟨hrest, honly⟩ := fair_tail hfair
  have hack : ack.connectionId = connectionId :=
    (hfair.connection ack List.mem_cons_self).trans hid
  refine ⟨hs.ids, hs.winners, hs.winnersAnnounced, ?_, ?_, ?_, ?_, ?_⟩
  · rw [acceptedIds_published, hack]
    split
    · next haccepted =>
      rw [← List.concat_eq_append]
      exact List.Nodup.concat (hlater ack List.mem_cons_self haccepted) hs.acceptedOnce
    · rw [List.append_nil]
      exact hs.acceptedOnce
  · intro other hother haccepted
    rcases List.mem_append.mp hother with hold | hnew
    · exact hs.acceptedWinner other hold haccepted
    · rw [List.mem_singleton.mp hnew] at haccepted ⊢
      exact ⟨winner, hwinner, hid.trans hack.symm,
        (hfair.client ack List.mem_cons_self haccepted).symm,
        hfair.reply ack List.mem_cons_self haccepted⟩
  · intro other handler hlookup
    rcases lookup_of_insert hlookup with ⟨rfl, rfl⟩ | ⟨hne, hold⟩
    · refine ⟨hannounced, ⟨winner, hwinner, hid, hclient, hrest⟩, ?_⟩
      intro later hm haccepted
      rw [acceptedIds_published, honly later hm haccepted]
      simpa using hlater later (List.mem_cons_of_mem _ hm) haccepted
    · have hknown := hs.handlers other handler hold
      revert hknown
      cases handler.stage with
      | detecting => exact fun _ => trivial
      | passthrough backendAddr => exact fun _ => trivial
      | claiming name host bytes => exact fun h => h
      | acknowledging name bytes otherClient acks =>
        intro h
        refine ⟨h.1, h.2.1, ?_⟩
        intro later hm haccepted
        have hother : name ≠ connectionId := by
          rintro rfl
          exact hne (hs.socket_unique h.1 hannounced)
        have hbefore := h.2.2 later hm haccepted
        rw [acceptedIds_published, hack]
        split
        · simp [hbefore, hother]
        · simpa using hbefore
  · intro name entry hlookup
    exact (hs.pending name entry hlookup).mono (fun used hused => hused) fun other hother => hother
  · intro relay hrelay
    exact (hs.relays relay hrelay).mono (fun used hused => hused) fun other hother => hother

/-- A handler at an explained stage leaves all handlers explained. -/
theorem Consistent.insert_known {s : State} (hs : Consistent s) {socket : ℕ} {handler : Handler}
    (hstage : StageKnown s.history socket handler.stage) (other : ℕ) (found : Handler)
    (hlookup : (s.handlers.insert socket handler).lookup other = some found) :
    StageKnown s.history other found.stage := by
  rcases lookup_of_insert hlookup with ⟨rfl, rfl⟩ | ⟨-, hold⟩
  · exact hstage
  · exact hs.handlers other found hold

/-- Every move is explained. -/
theorem moves_consistent {config : IngressConfig} {s next : State} (hs : Consistent s)
    (h : Moves config s next) : Consistent next := by
  have herase : ∀ socket other handler, (s.handlers.erase socket).lookup other = some handler →
      StageKnown s.history other handler.stage := fun socket other handler hlookup =>
    hs.handlers other handler (lookup_of_erase hlookup).2
  have hdrop : ∀ connectionId name entry,
      (s.pending.erase connectionId).lookup name = some entry →
        PairKnown s.history name entry.clientId entry.ingress :=
    fun connectionId name entry hlookup => hs.pending name entry (lookup_of_erase hlookup).2
  cases h with
  | announced hostname preface hl hfresh => exact consistent_announce hs hostname preface hfresh
  | selected hl hid hfair => exact consistent_selected hs hl hid hfair
  | published hl => exact consistent_published hs hl
  | opened permit capacity hpermit hcapacity =>
    exact hs.sameLedger rfl rfl rfl (hs.insert_known trivial) hs.pending hs.relays
  | bypassed backendAddr hl =>
    exact hs.sameLedger rfl rfl rfl (hs.insert_known trivial) hs.pending hs.relays
  | ended hl hstage => exact hs.sameLedger rfl rfl rfl (herase _) hs.pending hs.relays
  | publishFailed hl => exact hs.sameLedger rfl rfl rfl (herase _) hs.pending hs.relays
  | registered hl =>
    refine hs.sameLedger rfl rfl rfl (herase _) ?_ hs.relays
    obtain ⟨hannounced, ⟨winner, hwinner, hid, hclient, -⟩, -⟩ := hs.handlers _ _ hl
    intro name entry hlookup
    rcases lookup_of_insert hlookup with ⟨rfl, rfl⟩ | ⟨-, hold⟩
    · exact ⟨hannounced, winner, hwinner, hid, hclient⟩
    · exact hs.pending name entry hold
  | expired timers hl => exact hs.sameLedger rfl rfl rfl hs.handlers (hdrop _) hs.relays
  | mismatched hl hentry hclient =>
    exact hs.sameLedger rfl rfl rfl hs.handlers (hdrop _) hs.relays
  | paired hl hentry hclient =>
    refine hs.sameLedger rfl rfl rfl hs.handlers (hdrop _) ?_
    intro relay hrelay
    rcases List.mem_append.mp hrelay with hold | hnew
    · exact hs.relays relay hold
    · rw [List.mem_singleton.mp hnew, ← hclient]
      exact hs.pending _ _ hentry
  | ticked => exact hs.sameLedger rfl rfl rfl hs.handlers hs.pending hs.relays
  | rejected => exact hs.sameLedger rfl rfl rfl hs.handlers hs.pending hs.relays
  | idled timers => exact hs.sameLedger rfl rfl rfl hs.handlers hs.pending hs.relays
  | callbackRejected => exact hs.sameLedger rfl rfl rfl hs.handlers hs.pending hs.relays
  | callbackOpened permit capacity hpermit hcapacity =>
    exact hs.sameLedger rfl rfl rfl hs.handlers hs.pending hs.relays
  | callbackEnded hl => exact hs.sameLedger rfl rfl rfl hs.handlers hs.pending hs.relays
  | unknown hl hnone => exact hs.sameLedger rfl rfl rfl hs.handlers hs.pending hs.relays
  | relayEnded hl => exact hs.sameLedger rfl rfl rfl hs.handlers hs.pending hs.relays

/-- Every reachable ingress is explained by its history, with everything in
one place. -/
theorem reachable_consistent {config : IngressConfig} {s : State}
    (hr : Reachable (step config) (initial config) s) : Placed s ∧ Consistent s := by
  have hplaced : Placed s := hr.invariant
    (fun _ _ _ hs hstep => moves_placed hs (step_moves hstep)) (placed_initial config)
  have hconsistent : Consistent s := hr.invariant
    (fun _ _ _ hs hstep => moves_consistent hs (step_moves hstep)) (consistent_initial config)
  exact ⟨hplaced, hconsistent⟩

/-- What pairing must never violate. -/
structure PairedSafely (history : History) : Prop where
  /-- A public socket is relayed to at most one callback. -/
  ingressOnce : (history.relays.map fun relay => relay.ingress).Nodup
  /-- A callback is relayed to at most one public socket. -/
  callbackOnce : (history.relays.map fun relay => relay.callback).Nodup
  /-- Identifiers name one socket each. -/
  socketOfId : ∀ connectionId socket other, (connectionId, socket) ∈ history.ids →
    (connectionId, other) ∈ history.ids → socket = other
  /-- A connection has one winner. -/
  winnerOfId : ∀ winner ∈ history.winners, ∀ other ∈ history.winners,
    winner.connectionId = other.connectionId → winner = other
  /-- A callback is relayed only to the socket of its connection identifier. -/
  relaySocket : ∀ relay ∈ history.relays,
    (relay.envelope.connectionId, relay.ingress) ∈ history.ids
  /-- A callback is relayed only for the winner. -/
  relayWinner : ∀ relay ∈ history.relays,
    ∃ winner ∈ history.winners, winner.connectionId = relay.envelope.connectionId ∧
      winner.clientId = relay.envelope.clientId
  /-- At most one accepting acknowledgement is published for a connection. -/
  acceptedOnce : (acceptedIds history).Nodup
  /-- An accepting acknowledgement goes to the winner. -/
  acceptedWinner : ∀ ack ∈ history.published, ack.accepted = true →
    ∃ winner ∈ history.winners, winner.connectionId = ack.connectionId ∧
      winner.clientId = ack.clientId ∧ winner.reply = some ack.subject
  /-- A relayed socket is never shut down by expiry. -/
  relayedAlive : ∀ relay ∈ history.relays, relay.ingress ∉ history.shutdowns

/-- Pairing is safe in every interleaving. -/
theorem pairing_safe (config : IngressConfig) (s : State)
    (hr : Reachable (step config) (initial config) s) : PairedSafely s.history := by
  obtain ⟨hplaced, hconsistent⟩ := reachable_consistent hr
  constructor
  case ingressOnce =>
    rw [List.nodup_iff_count_le_one]
    intro socket
    have hone := (hplaced.sockets socket).1
    unfold socketPlaces at hone
    omega
  case callbackOnce =>
    rw [List.nodup_iff_count_le_one]
    intro callback
    have hone := (hplaced.callbacks callback).1
    unfold callbackPlaces at hone
    omega
  case socketOfId => exact fun connectionId socket other h ho => hconsistent.socket_unique h ho
  case winnerOfId =>
    exact fun winner hw other ho hid => List.inj_on_of_nodup_map hconsistent.winners hw ho hid
  case relaySocket => exact fun relay hrelay => (hconsistent.relays relay hrelay).announced
  case relayWinner => exact fun relay hrelay => (hconsistent.relays relay hrelay).won
  case acceptedOnce => exact hconsistent.acceptedOnce
  case acceptedWinner => exact hconsistent.acceptedWinner
  case relayedAlive =>
    intro relay hrelay hshut
    have hone := (hplaced.sockets relay.ingress).1
    have hrelayed : 0 < (s.history.relays.map fun relay => relay.ingress).count relay.ingress :=
      List.count_pos_iff.mpr (List.mem_map.mpr ⟨relay, hrelay, rfl⟩)
    have hdown : 0 < s.history.shutdowns.count relay.ingress := List.count_pos_iff.mpr hshut
    unfold socketPlaces at hone
    omega

/-- An ingress with default limits and timeouts. -/
def sampleConfig : IngressConfig where
  requestSubject := defaultRequestSubject
  domainSubjectRouting := false
  pendingTimeoutMs := 10000
  maxIngressConnections := 0
  maxCallbackHandshakes := 0
  sniPassthroughRoutes := []

/-- A public connection that two clients claim. -/
def sampleClaims : List Event :=
  [.acceptPublic, .detected 0 (some "docs.example") [] "c1",
    .collected 0 [⟨.ok ⟨"bob", "c1"⟩, some "r2"⟩, ⟨.ok ⟨"alice", "c1"⟩, some "r1"⟩]]

/-- Both claimants are answered and the winner calls back in time. -/
def samplePairing : List Event :=
  sampleClaims ++ [.publishedAck 0, .publishedAck 0, .register 0, .acceptCallback,
    .callbackPrefix 0 ⟨"alice", "c1"⟩]

/-- The sample run ends with one safe relay. -/
theorem pairing_safe_alice : ∃ s, run (step sampleConfig) (initial sampleConfig) samplePairing =
    some s ∧ s.history.relays = [⟨0, 0, "alice", "c1"⟩] ∧ PairedSafely s.history := by
  have hrelays : (run (step sampleConfig) (initial sampleConfig) samplePairing).map
      (fun s => s.history.relays) = some [⟨0, 0, "alice", "c1"⟩] := by decide +kernel
  obtain ⟨s, hrun, hs⟩ := Option.map_eq_some_iff.mp hrelays
  exact ⟨s, hrun, hs, pairing_safe sampleConfig s ⟨_, hrun⟩⟩

end LfpPipe.IngressSafety
