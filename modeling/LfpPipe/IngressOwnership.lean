import LfpPipe.IngressPairing

/-!
# Every socket, callback and identifier is in one place

A public socket belongs to its handler, to a pending entry, to a relay or to
the past of a shutdown; a callback to its task or to a relay; a connection
identifier to a handler, to the pending map or to the past. Counting these
places turns every move of the ingress into arithmetic, and each count stays
at most one in every interleaving.
-/

namespace LfpPipe.IngressOwnership

open SharedConfig IngressClaims OwnedTables TransitionRuns IngressPairing

/-- The connection identifier that a handler works for. -/
def stageConnection : Stage → Option String
  | .detecting => none
  | .passthrough _ => none
  | .claiming connectionId _ _ => some connectionId
  | .acknowledging connectionId _ _ _ => some connectionId

/-- Resources of handlers: their socket. -/
def handlerSocket (socket : ℕ) (_ : Handler) : List ℕ := [socket]

/-- Resources of handlers: their connection identifier. -/
def handlerConnection (_ : ℕ) (handler : Handler) : List String :=
  (stageConnection handler.stage).toList

/-- Resources of pending entries: their socket. -/
def pendingSocket (_ : String) (entry : PendingConnection) : List ℕ := [entry.ingress]

/-- Resources of pending entries: their connection identifier. -/
def pendingConnection (connectionId : String) (_ : PendingConnection) : List String :=
  [connectionId]

/-- Resources of callback tasks: the callback. -/
def taskCallback (callback : ℕ) (_ : Bool) : List ℕ := [callback]

/-- In how many places a public socket is. -/
def socketPlaces (s : State) (socket : ℕ) : ℕ :=
  owned handlerSocket s.handlers socket + owned pendingSocket s.pending socket +
    (s.history.relays.map fun relay => relay.ingress).count socket +
    s.history.shutdowns.count socket

/-- In how many places a callback is. -/
def callbackPlaces (s : State) (callback : ℕ) : ℕ :=
  owned taskCallback s.callbacks callback +
    (s.history.relays.map fun relay => relay.callback).count callback

/-- In how many places a connection identifier is. -/
def connectionPlaces (s : State) (connectionId : String) : ℕ :=
  owned handlerConnection s.handlers connectionId +
    owned pendingConnection s.pending connectionId +
    s.history.removed.count connectionId + s.history.aborted.count connectionId

/-- Every socket is in at most one place, and future sockets are nowhere. -/
def SocketsPlaced (s : State) : Prop :=
  PlacedOnce (socketPlaces s) fun socket => socket < s.nextIngress

/-- Every callback is in at most one place, and future ones are nowhere. -/
def CallbacksPlaced (s : State) : Prop :=
  PlacedOnce (callbackPlaces s) fun callback => callback < s.nextCallback

/-- Every identifier is in at most one place, and unused ones are nowhere. -/
def ConnectionsPlaced (s : State) : Prop :=
  PlacedOnce (connectionPlaces s) fun connectionId => connectionId ∈ s.history.ids.map Prod.fst

/-- Moving a handler to another stage leaves its socket in place. -/
theorem handlerSocket_move {s : State} {socket : ℕ} {handler : Handler}
    (h : s.handlers.lookup socket = some handler) (moved : Handler) (x : ℕ) :
    owned handlerSocket (s.handlers.insert socket moved) x = owned handlerSocket s.handlers x := by
  rw [owned_insert, owned_erase h]
  rfl

/-- The next public socket has no handler yet. -/
theorem lookup_nextIngress {s : State} (hs : SocketsPlaced s) :
    s.handlers.lookup s.nextIngress = none := by
  cases hl : s.handlers.lookup s.nextIngress with
  | none => rfl
  | some handler =>
    have hpos : 0 < owned handlerSocket s.handlers s.nextIngress :=
      owned_pos hl (List.mem_singleton.mpr rfl)
    have hzero := (hs s.nextIngress).2 (Nat.lt_irrefl _)
    unfold socketPlaces at hzero
    omega

/-- Every move keeps sockets in one place: only a new handler adds a place,
and all other moves hand a socket over or drop it. -/
theorem moves_socketsPlaced {config : IngressConfig} {s next : State} (hs : SocketsPlaced s)
    (h : Moves config s next) : SocketsPlaced next := by
  cases h with
  | opened permit capacity hpermit hcapacity =>
    refine hs.grow (Nat.lt_irrefl _) ?_ (fun x hx => Nat.lt_succ_of_lt hx) (Nat.lt_succ_self _)
    intro x
    simp only [socketPlaces, State.openHandler, owned_insert_new (lookup_nextIngress hs),
      handlerSocket]
    omega
  | rejected => exact hs.shrink (fun x => Nat.le_refl _) fun x hx => Nat.lt_succ_of_lt hx
  | ticked => exact hs
  | idled timers => exact hs
  | callbackRejected => exact hs
  | callbackOpened permit capacity hpermit hcapacity => exact hs
  | callbackEnded hl => exact hs
  | unknown hl hlookup => exact hs
  | relayEnded hl => exact hs
  | bypassed backendAddr hl =>
    refine hs.shrink (fun x => ?_) fun x hx => hx
    simp only [socketPlaces, State.moveHandler, handlerSocket_move hl, Nat.le_refl]
  | announced hostname preface hl hfresh =>
    refine hs.shrink (fun x => ?_) fun x hx => hx
    simp only [socketPlaces, State.announce, State.moveHandler, handlerSocket_move hl, Nat.le_refl]
  | selected hl hid hfair =>
    refine hs.shrink (fun x => ?_) fun x hx => hx
    simp only [socketPlaces, State.selected, State.moveHandler, handlerSocket_move hl, Nat.le_refl]
  | published hl =>
    refine hs.shrink (fun x => ?_) fun x hx => hx
    simp only [socketPlaces, State.published, State.moveHandler, handlerSocket_move hl, Nat.le_refl]
  | ended hl hstage =>
    refine hs.shrink (fun x => ?_) fun x hx => hx
    simp only [socketPlaces, State.endHandler, owned_erase hl]
    omega
  | publishFailed hl =>
    refine hs.shrink (fun x => ?_) fun x hx => hx
    simp only [socketPlaces, State.publishFailed, State.endHandler, owned_erase hl]
    omega
  | @registered socket permit connectionId preface winner hl =>
    refine hs.shrink (fun x => ?_) fun x hx => hx
    have hle := owned_erase_le s.pending connectionId pendingSocket x
    simp only [socketPlaces, State.register, owned_insert, owned_erase hl, handlerSocket,
      pendingSocket]
    omega
  | expired timers hl =>
    refine hs.shrink (fun x => ?_) fun x hx => hx
    simp only [socketPlaces, State.expire, owned_erase hl, pendingSocket, List.count_append]
    omega
  | mismatched hl hentry hclient =>
    refine hs.shrink (fun x => ?_) fun x hx => hx
    simp only [socketPlaces, State.refuse, State.dropEntry, State.endCallback, owned_erase hentry]
    omega
  | paired hl hentry hclient =>
    refine hs.shrink (fun x => ?_) fun x hx => hx
    simp only [socketPlaces, State.pair, State.endCallback, owned_erase hentry, pendingSocket,
      List.map_append, List.map_cons, List.map_nil, List.count_append]
    omega

/-- The next callback has no task yet. -/
theorem lookup_nextCallback {s : State} (hs : CallbacksPlaced s) :
    s.callbacks.lookup s.nextCallback = none := by
  cases hl : s.callbacks.lookup s.nextCallback with
  | none => rfl
  | some permit =>
    have hpos : 0 < owned taskCallback s.callbacks s.nextCallback :=
      owned_pos hl (List.mem_singleton.mpr rfl)
    have hzero := (hs s.nextCallback).2 (Nat.lt_irrefl _)
    unfold callbackPlaces at hzero
    omega

/-- Every move keeps callbacks in one place. -/
theorem moves_callbacksPlaced {config : IngressConfig} {s next : State} (hs : CallbacksPlaced s)
    (h : Moves config s next) : CallbacksPlaced next := by
  cases h with
  | callbackOpened permit capacity hpermit hcapacity =>
    refine hs.grow (Nat.lt_irrefl _) ?_ (fun x hx => Nat.lt_succ_of_lt hx) (Nat.lt_succ_self _)
    intro x
    simp only [callbackPlaces, owned_insert_new (lookup_nextCallback hs), taskCallback]
    omega
  | callbackRejected => exact hs.shrink (fun x => Nat.le_refl _) fun x hx => Nat.lt_succ_of_lt hx
  | callbackEnded hl =>
    refine hs.shrink (fun x => ?_) fun x hx => hx
    simp only [callbackPlaces, State.endCallback, owned_erase hl]
    omega
  | unknown hl hlookup =>
    refine hs.shrink (fun x => ?_) fun x hx => hx
    simp only [callbackPlaces, State.refuse, State.endCallback, owned_erase hl]
    omega
  | mismatched hl hentry hclient =>
    refine hs.shrink (fun x => ?_) fun x hx => hx
    simp only [callbackPlaces, State.refuse, State.dropEntry, State.endCallback, owned_erase hl]
    omega
  | paired hl hentry hclient =>
    refine hs.shrink (fun x => ?_) fun x hx => hx
    simp only [callbackPlaces, State.pair, State.endCallback, owned_erase hl, taskCallback,
      List.map_append, List.map_cons, List.map_nil, List.count_append]
    omega
  | ticked => exact hs
  | rejected => exact hs
  | opened permit capacity hpermit hcapacity => exact hs
  | bypassed backendAddr hl => exact hs
  | announced hostname preface hl hfresh => exact hs
  | ended hl hstage => exact hs
  | selected hl hid hfair => exact hs
  | published hl => exact hs
  | publishFailed hl => exact hs
  | registered hl => exact hs
  | idled timers => exact hs
  | expired timers hl => exact hs
  | relayEnded hl => exact hs

/-- A connection that a handler works for is not pending. -/
theorem pending_none_of_handler {s : State} (hs : ConnectionsPlaced s) {socket : ℕ}
    {handler : Handler} {connectionId : String}
    (hl : s.handlers.lookup socket = some handler)
    (hstage : stageConnection handler.stage = some connectionId) :
    s.pending.lookup connectionId = none := by
  cases hentry : s.pending.lookup connectionId with
  | none => rfl
  | some entry =>
    have hone := (hs connectionId).1
    have hheld : 0 < owned handlerConnection s.handlers connectionId :=
      owned_pos hl (by simp [handlerConnection, hstage])
    have hpending : 0 < owned pendingConnection s.pending connectionId :=
      owned_pos hentry (List.mem_singleton.mpr rfl)
    unfold connectionPlaces at hone
    omega

/-- What a move does to the places of connection identifiers. -/
inductive ConnectionsMove (s next : State) : Prop where
  /-- Every identifier stays or is handed over. -/
  | kept (hids : next.history.ids = s.history.ids)
    (hplaces : ∀ x, connectionPlaces next x = connectionPlaces s x)
  /-- A fresh identifier gets its first place. -/
  | drawn {connectionId : String} {socket : ℕ}
    (hfresh : connectionId ∉ s.history.ids.map Prod.fst)
    (hids : next.history.ids = s.history.ids ++ [(connectionId, socket)])
    (hplaces : ∀ x, connectionPlaces next x = [connectionId].count x + connectionPlaces s x)
  /-- A handler takes its identifier away before any acknowledgement. -/
  | dropped {socket : ℕ} {handler : Handler} (hl : s.handlers.lookup socket = some handler)
    (hstage : ∀ connectionId preface winner acks,
      handler.stage ≠ .acknowledging connectionId preface winner acks)
    (hids : next.history.ids = s.history.ids)
    (hwinners : next.history.winners = s.history.winners)
    (hplaces : ∀ x, connectionPlaces s x =
      (handlerConnection socket handler).count x + connectionPlaces next x)

/-- Every move keeps, draws or drops identifiers in the listed ways. -/
theorem moves_connections {config : IngressConfig} {s next : State} (hsockets : SocketsPlaced s)
    (hs : ConnectionsPlaced s) (h : Moves config s next) : ConnectionsMove s next := by
  cases h with
  | announced hostname preface hl hfresh =>
    refine .drawn hfresh rfl fun x => ?_
    simp only [connectionPlaces, State.announce, State.moveHandler, owned_insert, owned_erase hl,
      handlerConnection, stageConnection, Option.toList, List.count_nil]
    omega
  | ended hl hstage =>
    refine .dropped hl hstage rfl rfl fun x => ?_
    simp only [connectionPlaces, State.endHandler, owned_erase hl]
    omega
  | opened permit capacity hpermit hcapacity =>
    refine .kept rfl fun x => ?_
    simp only [connectionPlaces, State.openHandler, owned_insert_new (lookup_nextIngress hsockets),
      handlerConnection, stageConnection, Option.toList, List.count_nil]
    omega
  | bypassed backendAddr hl =>
    refine .kept rfl fun x => ?_
    simp only [connectionPlaces, State.moveHandler, owned_insert, owned_erase hl,
      handlerConnection, stageConnection]
  | selected hl hid hfair =>
    refine .kept rfl fun x => ?_
    simp only [connectionPlaces, State.selected, State.moveHandler, owned_insert, owned_erase hl,
      handlerConnection, stageConnection]
  | published hl =>
    refine .kept rfl fun x => ?_
    simp only [connectionPlaces, State.published, State.moveHandler, owned_insert, owned_erase hl,
      handlerConnection, stageConnection]
  | publishFailed hl =>
    refine .kept rfl fun x => ?_
    simp only [connectionPlaces, State.publishFailed, State.endHandler, owned_erase hl,
      handlerConnection, stageConnection, Option.toList, List.count_append]
    omega
  | registered hl =>
    refine .kept rfl fun x => ?_
    have hnone := pending_none_of_handler hs hl rfl
    simp only [connectionPlaces, State.register, owned_insert_new hnone, owned_erase hl,
      handlerConnection, stageConnection, Option.toList, pendingConnection]
    omega
  | expired timers hl =>
    refine .kept rfl fun x => ?_
    simp only [connectionPlaces, State.expire, owned_erase hl, pendingConnection,
      List.count_append]
    omega
  | mismatched hl hentry hclient =>
    refine .kept rfl fun x => ?_
    simp only [connectionPlaces, State.refuse, State.dropEntry, State.endCallback,
      owned_erase hentry, pendingConnection, List.count_append]
    omega
  | paired hl hentry hclient =>
    refine .kept rfl fun x => ?_
    simp only [connectionPlaces, State.pair, State.endCallback, owned_erase hentry,
      pendingConnection, List.count_append]
    omega
  | ticked => exact .kept rfl fun x => rfl
  | rejected => exact .kept rfl fun x => rfl
  | idled timers => exact .kept rfl fun x => rfl
  | callbackRejected => exact .kept rfl fun x => rfl
  | callbackOpened permit capacity hpermit hcapacity => exact .kept rfl fun x => rfl
  | callbackEnded hl => exact .kept rfl fun x => rfl
  | unknown hl hlookup => exact .kept rfl fun x => rfl
  | relayEnded hl => exact .kept rfl fun x => rfl

/-- Every move keeps connection identifiers in one place. -/
theorem moves_connectionsPlaced {config : IngressConfig} {s next : State}
    (hsockets : SocketsPlaced s) (hs : ConnectionsPlaced s) (h : Moves config s next) :
    ConnectionsPlaced next := by
  unfold ConnectionsPlaced
  cases moves_connections hsockets hs h with
  | kept hids hplaces =>
    rw [hids]
    exact hs.shrink (fun x => Nat.le_of_eq (hplaces x)) fun x hx => hx
  | drawn hfresh hids hplaces =>
    rw [hids]
    refine hs.grow hfresh (fun x => Nat.le_of_eq (hplaces x)) (fun x hx => ?_) ?_
    · rw [List.map_append]
      exact List.mem_append_left _ hx
    · simp
  | dropped hl hstage hids hwinners hplaces =>
    rw [hids]
    refine hs.shrink (fun x => ?_) fun x hx => hx
    have hsum := hplaces x
    omega

/-- Sockets, callbacks and identifiers are in one place each. -/
structure Placed (s : State) : Prop where
  /-- Public sockets. -/
  sockets : SocketsPlaced s
  /-- Callbacks. -/
  callbacks : CallbacksPlaced s
  /-- Connection identifiers. -/
  connections : ConnectionsPlaced s

/-- A fresh ingress has nothing anywhere. -/
theorem placed_initial (config : IngressConfig) : Placed (initial config) := by
  constructor
  · intro x
    simp [socketPlaces, initial]
  · intro x
    simp [callbackPlaces, initial]
  · intro x
    simp [connectionPlaces, initial]

/-- Every move keeps everything in one place. -/
theorem moves_placed {config : IngressConfig} {s next : State} (hs : Placed s)
    (h : Moves config s next) : Placed next :=
  ⟨moves_socketsPlaced hs.sockets h, moves_callbacksPlaced hs.callbacks h,
    moves_connectionsPlaced hs.sockets hs.connections h⟩

end LfpPipe.IngressOwnership
