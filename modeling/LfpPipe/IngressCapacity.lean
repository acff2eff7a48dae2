import LfpPipe.IngressOwnership

/-!
# Capacity permits are conserved

A public connection owns one permit from its acceptance to its end, while it
is handled, pending or relayed; a callback owns one handshake permit until it
is paired or has failed. With a limit, the free permits and the live owners
add up to the limit in every interleaving.
-/

namespace LfpPipe.IngressCapacity

open SharedConfig IngressClaims OwnedTables TransitionRuns IngressPairing IngressOwnership

/-- Public connections that are being detected, claimed, acknowledged or
passed through, are pending or are relayed. -/
def liveConnections (s : State) : ℕ := size s.handlers + size s.pending + size s.relaying

/-- Callbacks that are neither paired nor failed. -/
def openHandshakes (s : State) : ℕ := size s.callbacks

/-- A relay that runs was started, and its callback has no other task. -/
def RelaysStarted (s : State) : Prop :=
  ∀ callback permit, s.relaying.lookup callback = some permit →
    callback ∈ s.history.relays.map fun relay => relay.callback

/-- A waiting callback is not relayed. -/
theorem relaying_none_of_callback {s : State} (hplaced : CallbacksPlaced s)
    (hs : RelaysStarted s) {callback : ℕ} {permit : Bool}
    (h : s.callbacks.lookup callback = some permit) : s.relaying.lookup callback = none := by
  cases hrelay : s.relaying.lookup callback with
  | none => rfl
  | some other =>
    have hone := (hplaced callback).1
    have htask : 0 < owned taskCallback s.callbacks callback :=
      owned_pos h (List.mem_singleton.mpr rfl)
    have hstarted := List.count_pos_iff.mpr (hs callback other hrelay)
    unfold callbackPlaces at hone
    omega

/-- Every move keeps running relays started. -/
theorem moves_relaysStarted {config : IngressConfig} {s next : State} (hs : RelaysStarted s)
    (h : Moves config s next) : RelaysStarted next := by
  cases h with
  | paired hl hentry hclient =>
    intro other permit hlookup
    simp only [State.pair, List.map_append, List.map_cons, List.map_nil, List.mem_append]
    rcases lookup_of_insert hlookup with ⟨rfl, rfl⟩ | ⟨-, hold⟩
    · exact .inr (List.mem_singleton.mpr rfl)
    · exact .inl (hs other permit hold)
  | relayEnded hl => exact fun other permit hlookup => hs other permit (lookup_of_erase hlookup).2
  | ticked => exact hs
  | rejected => exact hs
  | opened permit capacity hpermit hcapacity => exact hs
  | bypassed backendAddr hl => exact hs
  | announced hostname preface hl hfresh => exact hs
  | ended hl hstage => exact hs
  | selected hl hid hfair => exact hs
  | published hl => exact hs
  | publishFailed hl => exact hs
  | registered hl => exact hs
  | idled timers => exact hs
  | expired timers hl => exact hs
  | callbackRejected => exact hs
  | callbackOpened permit capacity hpermit hcapacity => exact hs
  | callbackEnded hl => exact hs
  | unknown hl hnone => exact hs
  | mismatched hl hentry hclient => exact hs

/-- Everything that owns a public permit really has it. -/
structure PermitsHeld (s : State) : Prop where
  /-- Handlers. -/
  handlers : ∀ socket handler, s.handlers.lookup socket = some handler → handler.permit = true
  /-- Pending entries. -/
  pending : ∀ connectionId entry, s.pending.lookup connectionId = some entry →
    entry.ingressPermit = true
  /-- Relays. -/
  relaying : ∀ callback permit, s.relaying.lookup callback = some permit → permit = true

/-- Only the tables of a state decide whether permits are held. -/
theorem PermitsHeld.moveHandler {s : State} (hs : PermitsHeld s) {socket : ℕ} {handler : Handler}
    (hl : s.handlers.lookup socket = some handler) (stage : Stage) :
    PermitsHeld (s.moveHandler socket handler.permit stage) := by
  refine ⟨?_, hs.pending, hs.relaying⟩
  intro other found hlookup
  rcases lookup_of_insert hlookup with ⟨rfl, rfl⟩ | ⟨-, hold⟩
  · exact hs.handlers other handler hl
  · exact hs.handlers other found hold

/-- Ending a handler keeps the other permits. -/
theorem PermitsHeld.endHandler {s : State} (hs : PermitsHeld s) (socket : ℕ) (permit : Bool) :
    PermitsHeld (s.endHandler socket permit) :=
  ⟨fun other handler hlookup => hs.handlers other handler (lookup_of_erase hlookup).2,
    hs.pending, hs.relaying⟩

/-- With a limit, every move keeps the permits held. -/
theorem moves_permitsHeld {config : IngressConfig} (hlimit : 0 < config.maxIngressConnections)
    {s next : State} (hs : PermitsHeld s) (h : Moves config s next) : PermitsHeld next := by
  have hdrop : ∀ connectionId name entry,
      (s.pending.erase connectionId).lookup name = some entry → entry.ingressPermit = true :=
    fun connectionId name entry hlookup => hs.pending name entry (lookup_of_erase hlookup).2
  cases h with
  | opened permit capacity hpermit hcapacity =>
    refine ⟨?_, hs.pending, hs.relaying⟩
    intro socket handler hlookup
    rcases lookup_of_insert hlookup with ⟨rfl, rfl⟩ | ⟨-, hold⟩
    · rw [hpermit]
      exact decide_eq_true (Nat.ne_of_gt hlimit)
    · exact hs.handlers socket handler hold
  | bypassed backendAddr hl => exact hs.moveHandler hl _
  | @announced socket permit hostname preface connectionId hl hfresh =>
    have hmoved := hs.moveHandler hl (.claiming connectionId hostname preface)
    exact ⟨hmoved.handlers, hmoved.pending, hmoved.relaying⟩
  | @selected socket permit connectionId hostname preface selection hl hid hfair =>
    have hmoved := hs.moveHandler hl
      (.acknowledging connectionId preface selection.winner.clientId selection.acks)
    exact ⟨hmoved.handlers, hmoved.pending, hmoved.relaying⟩
  | @published socket permit connectionId preface winner ack rest hl =>
    have hmoved := hs.moveHandler hl (.acknowledging connectionId preface winner rest)
    exact ⟨hmoved.handlers, hmoved.pending, hmoved.relaying⟩
  | ended hl hstage => exact hs.endHandler _ _
  | @publishFailed socket permit connectionId preface winner acks hl =>
    have hended := hs.endHandler socket permit
    exact ⟨hended.handlers, hended.pending, hended.relaying⟩
  | registered hl =>
    refine ⟨fun other handler hlookup => hs.handlers other handler (lookup_of_erase hlookup).2,
      ?_, hs.relaying⟩
    intro name entry hlookup
    rcases lookup_of_insert hlookup with ⟨rfl, rfl⟩ | ⟨-, hold⟩
    · exact hs.handlers _ _ hl
    · exact hs.pending name entry hold
  | expired timers hl => exact ⟨hs.handlers, hdrop _, hs.relaying⟩
  | mismatched hl hentry hclient => exact ⟨hs.handlers, hdrop _, hs.relaying⟩
  | paired hl hentry hclient =>
    refine ⟨hs.handlers, hdrop _, ?_⟩
    intro other permit hlookup
    rcases lookup_of_insert hlookup with ⟨rfl, rfl⟩ | ⟨-, hold⟩
    · exact hs.pending _ _ hentry
    · exact hs.relaying other permit hold
  | relayEnded hl =>
    exact ⟨hs.handlers, hs.pending,
      fun other permit hlookup => hs.relaying other permit (lookup_of_erase hlookup).2⟩
  | ticked => exact ⟨hs.handlers, hs.pending, hs.relaying⟩
  | rejected => exact ⟨hs.handlers, hs.pending, hs.relaying⟩
  | idled timers => exact ⟨hs.handlers, hs.pending, hs.relaying⟩
  | callbackRejected => exact ⟨hs.handlers, hs.pending, hs.relaying⟩
  | callbackOpened permit capacity hpermit hcapacity =>
    exact ⟨hs.handlers, hs.pending, hs.relaying⟩
  | callbackEnded hl => exact ⟨hs.handlers, hs.pending, hs.relaying⟩
  | unknown hl hnone => exact ⟨hs.handlers, hs.pending, hs.relaying⟩

/-- What a move may do to a pool of permits and its owners: the sum stays,
and at most one owner ends. -/
structure Balanced (free live nextFree nextLive : ℕ) : Prop where
  /-- The sum stays. -/
  sum : nextFree + nextLive = free + live
  /-- At most one owner ends. -/
  single : live ≤ nextLive + 1

/-- Nothing changes. -/
theorem Balanced.same (free live : ℕ) : Balanced free live free live := ⟨rfl, Nat.le_succ live⟩

/-- With a limit, every move balances the permits of public connections. -/
theorem moves_live {config : IngressConfig} {s next : State} (hplaced : Placed s)
    (hstarted : RelaysStarted s) (hheld : PermitsHeld s) (h : Moves config s next)
    (hnext : PermitsHeld next) :
    Balanced s.ingressCapacity (liveConnections s) next.ingressCapacity
      (liveConnections next) := by
  cases h with
  | opened permit capacity hpermit hcapacity =>
    have hnew := size_insert_new (lookup_nextIngress hplaced.sockets) ⟨permit, .detecting⟩
    have hpermit : permit = true := hnext.handlers s.nextIngress _ (AList.lookup_insert _)
    rw [hpermit, Bool.toNat_true] at hcapacity
    constructor <;> simp only [liveConnections, State.openHandler, hnew] <;> omega
  | bypassed backendAddr hl =>
    simp only [liveConnections, State.moveHandler, size_insert hl]
    exact .same _ _
  | announced hostname preface hl hfresh =>
    simp only [liveConnections, State.announce, State.moveHandler, size_insert hl]
    exact .same _ _
  | selected hl hid hfair =>
    simp only [liveConnections, State.selected, State.moveHandler, size_insert hl]
    exact .same _ _
  | published hl =>
    simp only [liveConnections, State.published, State.moveHandler, size_insert hl]
    exact .same _ _
  | ended hl hstage =>
    have hpermit := hheld.handlers _ _ hl
    have hsize := size_erase hl
    constructor <;>
      simp only [liveConnections, State.endHandler, hpermit, Bool.toNat_true] <;> omega
  | publishFailed hl =>
    have hpermit := hheld.handlers _ _ hl
    have hsize := size_erase hl
    simp only at hpermit
    constructor <;>
      simp only [liveConnections, State.publishFailed, State.endHandler, hpermit,
        Bool.toNat_true] <;> omega
  | registered hl =>
    have hsize := size_erase hl
    have hnone := pending_none_of_handler hplaced.connections hl rfl
    constructor <;>
      simp only [liveConnections, State.register, size_insert_new hnone] <;> omega
  | expired timers hl =>
    have hpermit := hheld.pending _ _ hl
    have hsize := size_erase hl
    constructor <;>
      simp only [liveConnections, State.expire, hpermit, Bool.toNat_true] <;> omega
  | mismatched hl hentry hclient =>
    have hpermit := hheld.pending _ _ hentry
    have hsize := size_erase hentry
    constructor <;>
      simp only [liveConnections, State.refuse, State.dropEntry, State.endCallback, hpermit,
        Bool.toNat_true] <;> omega
  | paired hl hentry hclient =>
    have hsize := size_erase hentry
    have hnone := relaying_none_of_callback hplaced.callbacks hstarted hl
    constructor <;>
      simp only [liveConnections, State.pair, State.endCallback, size_insert_new hnone] <;> omega
  | relayEnded hl =>
    have hpermit := hheld.relaying _ _ hl
    have hsize := size_erase hl
    constructor <;>
      simp only [liveConnections, State.endRelay, hpermit, Bool.toNat_true] <;> omega
  | ticked => exact .same _ _
  | rejected => exact .same _ _
  | idled timers => exact .same _ _
  | callbackRejected => exact .same _ _
  | callbackOpened permit capacity hpermit hcapacity => exact .same _ _
  | callbackEnded hl => exact .same _ _
  | unknown hl hnone => exact .same _ _

/-- With a limit, every waiting callback has its handshake permit. -/
def HandshakesHeld (s : State) : Prop :=
  ∀ callback permit, s.callbacks.lookup callback = some permit → permit = true

/-- With a limit, every move keeps the handshake permits held and balanced. -/
theorem moves_handshakes {config : IngressConfig} (hlimit : 0 < config.maxCallbackHandshakes)
    {s next : State} (hplaced : Placed s) (hs : HandshakesHeld s) (h : Moves config s next) :
    HandshakesHeld next ∧ Balanced s.handshakeCapacity (openHandshakes s) next.handshakeCapacity
      (openHandshakes next) := by
  have hend : ∀ {callback : ℕ} {permit : Bool}, s.callbacks.lookup callback = some permit →
      HandshakesHeld (s.endCallback callback permit) ∧
        Balanced s.handshakeCapacity (openHandshakes s)
          (s.endCallback callback permit).handshakeCapacity
          (openHandshakes (s.endCallback callback permit)) := by
    intro callback permit hl
    have hpermit := hs callback permit hl
    have hsize := size_erase hl
    refine ⟨fun other found hlookup => hs other found (lookup_of_erase hlookup).2, ?_⟩
    constructor <;> simp only [openHandshakes, State.endCallback, hpermit, Bool.toNat_true] <;>
      omega
  cases h with
  | callbackOpened permit capacity hpermit hcapacity =>
    have hnew := size_insert_new (lookup_nextCallback hplaced.callbacks) permit
    have htrue : permit = true := by
      rw [hpermit]
      exact decide_eq_true (Nat.ne_of_gt hlimit)
    rw [htrue, Bool.toNat_true] at hcapacity
    refine ⟨?_, ?_⟩
    · intro callback found hlookup
      rcases lookup_of_insert hlookup with ⟨rfl, rfl⟩ | ⟨-, hold⟩
      · exact htrue
      · exact hs callback found hold
    · constructor <;> simp only [openHandshakes, hnew] <;> omega
  | callbackEnded hl => exact hend hl
  | unknown hl hnone => exact hend hl
  | mismatched hl hentry hclient => exact hend hl
  | paired hl hentry hclient => exact hend hl
  | ticked => exact ⟨hs, .same _ _⟩
  | rejected => exact ⟨hs, .same _ _⟩
  | opened permit capacity hpermit hcapacity => exact ⟨hs, .same _ _⟩
  | bypassed backendAddr hl => exact ⟨hs, .same _ _⟩
  | announced hostname preface hl hfresh => exact ⟨hs, .same _ _⟩
  | ended hl hstage => exact ⟨hs, .same _ _⟩
  | selected hl hid hfair => exact ⟨hs, .same _ _⟩
  | published hl => exact ⟨hs, .same _ _⟩
  | publishFailed hl => exact ⟨hs, .same _ _⟩
  | registered hl => exact ⟨hs, .same _ _⟩
  | idled timers => exact ⟨hs, .same _ _⟩
  | expired timers hl => exact ⟨hs, .same _ _⟩
  | callbackRejected => exact ⟨hs, .same _ _⟩
  | relayEnded hl => exact ⟨hs, .same _ _⟩

/-- Everything about permits that holds of a reachable ingress. -/
structure Conserved (config : IngressConfig) (s : State) : Prop where
  /-- Resources are in one place. -/
  placed : Placed s
  /-- Running relays were started. -/
  started : RelaysStarted s
  /-- Public connections hold their permits. -/
  held : 0 < config.maxIngressConnections → PermitsHeld s
  /-- Free permits and live connections add up. -/
  ingress : 0 < config.maxIngressConnections →
    s.ingressCapacity + liveConnections s = config.maxIngressConnections
  /-- Callbacks hold their handshake permits. -/
  handshakesHeld : 0 < config.maxCallbackHandshakes → HandshakesHeld s
  /-- Free handshake permits and open handshakes add up. -/
  handshakes : 0 < config.maxCallbackHandshakes →
    s.handshakeCapacity + openHandshakes s = config.maxCallbackHandshakes

/-- A fresh ingress has all permits. -/
theorem conserved_initial (config : IngressConfig) : Conserved config (initial config) := by
  refine ⟨placed_initial config, ?_, fun _ => ?_, fun _ => rfl, fun _ => ?_, fun _ => rfl⟩
  · intro callback permit hlookup
    simp [initial] at hlookup
  · constructor <;> simp [initial]
  · intro callback permit hlookup
    simp [initial] at hlookup

/-- Every move conserves permits. -/
theorem moves_conserved {config : IngressConfig} {s next : State} (hs : Conserved config s)
    (h : Moves config s next) : Conserved config next := by
  refine ⟨moves_placed hs.placed h, moves_relaysStarted hs.started h, ?_, ?_, ?_, ?_⟩
  · exact fun hlimit => moves_permitsHeld hlimit (hs.held hlimit) h
  · intro hlimit
    have hheld := hs.held hlimit
    have hbalanced := moves_live hs.placed hs.started hheld h (moves_permitsHeld hlimit hheld h)
    exact hbalanced.sum.trans (hs.ingress hlimit)
  · exact fun hlimit => (moves_handshakes hlimit hs.placed (hs.handshakesHeld hlimit) h).1
  · intro hlimit
    have hmoved := moves_handshakes hlimit hs.placed (hs.handshakesHeld hlimit) h
    exact hmoved.2.sum.trans (hs.handshakes hlimit)

/-- A pool of permits with a limit: free permits and owners add up, and a step
that ends an owner ends one and returns one permit. -/
structure PoolConserved (limit free live : ℕ) (after : ℕ → ℕ → Prop) : Prop where
  /-- They add up. -/
  sum : free + live = limit
  /-- Never more owners than permits. -/
  bound : live ≤ limit
  /-- A step ends at most one owner. -/
  single : ∀ nextFree nextLive, after nextFree nextLive → live ≤ nextLive + 1
  /-- An ended owner returns its permit. -/
  returned : ∀ nextFree nextLive, after nextFree nextLive → live = nextLive + 1 →
    nextFree = free + 1

/-- Two states with the same sum conserve a pool between them. -/
theorem PoolConserved.intro {limit free live : ℕ} {after : ℕ → ℕ → Prop}
    (hsum : free + live = limit)
    (hafter : ∀ nextFree nextLive, after nextFree nextLive →
      Balanced free live nextFree nextLive) : PoolConserved limit free live after := by
  refine ⟨hsum, by omega, fun nextFree nextLive h => (hafter nextFree nextLive h).single, ?_⟩
  intro nextFree nextLive h hend
  have hbalanced := (hafter nextFree nextLive h).sum
  omega

/-- With limits, the permits of public connections and of callback handshakes
are conserved in every reachable state. -/
theorem permits_conserved (config : IngressConfig) (s : State)
    (hr : Reachable (step config) (initial config) s) :
    (0 < config.maxIngressConnections →
      PoolConserved config.maxIngressConnections s.ingressCapacity (liveConnections s)
        fun free live => ∃ event next, step config s event = some next ∧
          next.ingressCapacity = free ∧ liveConnections next = live) ∧
    (0 < config.maxCallbackHandshakes →
      PoolConserved config.maxCallbackHandshakes s.handshakeCapacity (openHandshakes s)
        fun free live => ∃ event next, step config s event = some next ∧
          next.handshakeCapacity = free ∧ openHandshakes next = live) := by
  have hs : Conserved config s := hr.invariant
    (fun _ _ _ h hstep => moves_conserved h (step_moves hstep)) (conserved_initial config)
  constructor
  · intro hlimit
    refine .intro (hs.ingress hlimit) ?_
    rintro free live ⟨event, next, hstep, rfl, rfl⟩
    have hmoves := step_moves hstep
    have hheld := hs.held hlimit
    exact moves_live hs.placed hs.started hheld hmoves (moves_permitsHeld hlimit hheld hmoves)
  · intro hlimit
    refine .intro (hs.handshakes hlimit) ?_
    rintro free live ⟨event, next, hstep, rfl, rfl⟩
    exact (moves_handshakes hlimit hs.placed (hs.handshakesHeld hlimit) (step_moves hstep)).2

/-- An ingress with one public connection and one handshake at a time. -/
def narrowConfig : IngressConfig where
  requestSubject := defaultRequestSubject
  domainSubjectRouting := false
  pendingTimeoutMs := 10000
  maxIngressConnections := 1
  maxCallbackHandshakes := 1
  sniPassthroughRoutes := []

/-- Two public connections arrive at a narrow ingress. -/
theorem permits_conserved_narrow : ∃ s,
    run (step narrowConfig) (initial narrowConfig) [.acceptPublic, .acceptPublic] = some s ∧
      liveConnections s = 1 ∧ s.ingressCapacity + liveConnections s = 1 := by
  have hfacts : (run (step narrowConfig) (initial narrowConfig)
      [.acceptPublic, .acceptPublic]).map liveConnections = some 1 := by decide +kernel
  obtain ⟨s, hrun, hlive⟩ := Option.map_eq_some_iff.mp hfacts
  exact ⟨s, hrun, hlive, ((permits_conserved narrowConfig s ⟨_, hrun⟩).1 (by decide)).sum⟩

end LfpPipe.IngressCapacity
