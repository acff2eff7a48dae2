import LfpPipe.IngressClaims
import LfpPipe.OwnedTables
import LfpPipe.TransitionRuns

/-!
# Pairing public connections with client callbacks

The concurrent tasks of `ingress/src/lib.rs` as one transition function:
`handle_ingress` for every public socket, `handle_client_data` for every
callback, and the timers of `spawn_pending_cleanup`. Tasks meet only in the
pending map, whose lock sections are single steps. An event says which task
moves and what the network does to it, so a list of events is one
interleaving. The history records what was observable: identifiers handed
out, winners, acknowledgements, relays and shutdowns.
-/

namespace LfpPipe.IngressPairing

open RustText Fallible SharedConfig IngressClaims OwnedTables TransitionRuns

/-- First line of a callback connection. -/
structure PrefixEnvelope where
  /-- Client that calls back. -/
  clientId : String
  /-- Public connection that it names. -/
  connectionId : String
  deriving DecidableEq, Repr

/-- A public socket that waits for the callback of the winner. -/
structure PendingConnection where
  /-- The public socket. -/
  ingress : ℕ
  /-- Bytes read during detection. -/
  ingressPreface : List UInt8
  /-- The winning client. -/
  clientId : String
  /-- End of its lifetime. -/
  expiresAt : ℕ
  /-- Whether it holds a capacity permit. -/
  ingressPermit : Bool
  deriving DecidableEq, Repr

/-- Where the handler of a public socket is. -/
inductive Stage where
  /-- Reading the protocol preface. -/
  | detecting
  /-- Copying to a direct TLS route. -/
  | passthrough (backendAddr : String)
  /-- Waiting for claims. -/
  | claiming (connectionId : String) (hostname : Option String) (preface : List UInt8)
  /-- Publishing the remaining acknowledgements. -/
  | acknowledging (connectionId : String) (preface : List UInt8) (winner : String)
    (acks : List ConnectionClaimAck)
  deriving DecidableEq, Repr

/-- A running handler of a public socket. -/
structure Handler where
  /-- Whether it holds a capacity permit. -/
  permit : Bool
  /-- Its progress. -/
  stage : Stage
  deriving DecidableEq, Repr

/-- A public socket bound to a callback. -/
structure Relay where
  /-- The public socket. -/
  ingress : ℕ
  /-- The callback. -/
  callback : ℕ
  /-- The prefix of the callback. -/
  envelope : PrefixEnvelope
  deriving DecidableEq, Repr

/-- What has been observable so far. -/
structure History where
  /-- Connection identifiers with their sockets. -/
  ids : List (String × ℕ) := []
  /-- Selected winners. -/
  winners : List Winner := []
  /-- Published acknowledgements. -/
  published : List ConnectionClaimAck := []
  /-- Connections whose handler failed while publishing. -/
  aborted : List String := []
  /-- Connections removed from the pending map by a callback or by expiry. -/
  removed : List String := []
  /-- Started relays. -/
  relays : List Relay := []
  /-- Sockets shut down by expiry. -/
  shutdowns : List ℕ := []
  /-- Refused callbacks with their errors. -/
  refused : List (ℕ × AnyError) := []
  deriving DecidableEq, Repr

/-- All tasks and shared state of one ingress. -/
structure State where
  /-- Current time. -/
  now : ℕ
  /-- The next public socket. -/
  nextIngress : ℕ
  /-- The next callback. -/
  nextCallback : ℕ
  /-- Free public capacity. -/
  ingressCapacity : ℕ
  /-- Free callback-handshake capacity. -/
  handshakeCapacity : ℕ
  /-- Round-robin cursors. -/
  routeClaimCursor : String → ℕ
  /-- Handlers of public sockets. -/
  handlers : Table ℕ Handler
  /-- The pending map. -/
  pending : Table String PendingConnection
  /-- Cleanup timers with their wake-up times. -/
  timers : List (String × ℕ)
  /-- Callbacks that have not sent a prefix, with their handshake permit. -/
  callbacks : Table ℕ Bool
  /-- Running relays by callback, with the capacity permit they hold. -/
  relaying : Table ℕ Bool
  /-- The past. -/
  history : History

/-- A fresh ingress. -/
def initial (config : IngressConfig) : State where
  now := 0
  nextIngress := 0
  nextCallback := 0
  ingressCapacity := config.maxIngressConnections
  handshakeCapacity := config.maxCallbackHandshakes
  routeClaimCursor _ := 0
  handlers := ∅
  pending := ∅
  timers := []
  callbacks := ∅
  relaying := ∅
  history := {}

/-- What happens next. -/
inductive Event where
  /-- Time passes. -/
  | tick
  /-- A public socket arrives. -/
  | acceptPublic
  /-- Detection succeeds; the identifier is used if the connection is claimed. -/
  | detected (socket : ℕ) (hostname : Option String) (preface : List UInt8)
    (connectionId : String)
  /-- The handler fails or its passthrough ends. -/
  | handlerEnded (socket : ℕ)
  /-- Claim collection ends with these messages. -/
  | collected (socket : ℕ) (messages : List ClaimMessage)
  /-- The next acknowledgement is published. -/
  | publishedAck (socket : ℕ)
  /-- Publishing the next acknowledgement fails. -/
  | publishFailed (socket : ℕ)
  /-- The handler inserts its socket into the pending map. -/
  | register (socket : ℕ)
  /-- A cleanup timer wakes up. -/
  | wake (connectionId : String)
  /-- A callback connection arrives. -/
  | acceptCallback
  /-- A callback fails before its prefix is complete. -/
  | callbackEnded (callback : ℕ)
  /-- A callback has sent its prefix. -/
  | callbackPrefix (callback : ℕ) (envelope : PrefixEnvelope)
  /-- A relay ends. -/
  | relayEnded (callback : ℕ)

/-- The direct route of a hostname. -/
def selectSniPassthrough (routes : List SniPassthroughRoute) (hostname : Option String) :
    Option SniPassthroughRoute :=
  hostname.bind fun name => routes.find? fun route => eqIgnoreAsciiCase route.hostname name

/-- Start the handler of the next public socket. -/
def State.openHandler (s : State) (permit : Bool) (capacity : ℕ) : State :=
  { s with
    nextIngress := s.nextIngress + 1
    ingressCapacity := capacity
    handlers := s.handlers.insert s.nextIngress ⟨permit, .detecting⟩ }

/-- Accept a public socket unless the capacity is used up. -/
def State.acceptPublic (config : IngressConfig) (s : State) : State :=
  if config.maxIngressConnections = 0 then s.openHandler false s.ingressCapacity
  else if s.ingressCapacity = 0 then { s with nextIngress := s.nextIngress + 1 }
  else s.openHandler true (s.ingressCapacity - 1)

/-- Move a handler to another stage. -/
def State.moveHandler (s : State) (socket : ℕ) (permit : Bool) (stage : Stage) : State :=
  { s with handlers := s.handlers.insert socket ⟨permit, stage⟩ }

/-- End a handler, which drops its socket and its permit. -/
def State.endHandler (s : State) (socket : ℕ) (permit : Bool) : State :=
  { s with
    handlers := s.handlers.erase socket
    ingressCapacity := s.ingressCapacity + permit.toNat }

/-- Draw a new identifier and announce the connection. -/
def State.announce (s : State) (socket : ℕ) (permit : Bool) (hostname : Option String)
    (preface : List UInt8) (connectionId : String) : State :=
  { s.moveHandler socket permit (.claiming connectionId hostname preface) with
    history := { s.history with ids := s.history.ids ++ [(connectionId, socket)] } }

/-- Continue after detection: a direct route, or a claim under an identifier
that was never used before. -/
def State.detected (config : IngressConfig) (s : State) (socket : ℕ) (permit : Bool)
    (hostname : Option String) (preface : List UInt8) (connectionId : String) : Option State :=
  match selectSniPassthrough config.sniPassthroughRoutes hostname with
  | some route => some (s.moveHandler socket permit (.passthrough route.backendAddr))
  | none =>
    if s.history.ids.any fun used => used.1 == connectionId then none
    else some (s.announce socket permit hostname preface connectionId)

/-- Enter the acknowledgements of a selection. -/
def State.selected (s : State) (socket : ℕ) (permit : Bool) (connectionId : String)
    (preface : List UInt8) (selection : Selection) : State :=
  { s.moveHandler socket permit
      (.acknowledging connectionId preface selection.winner.clientId selection.acks) with
    routeClaimCursor := selection.cursors
    history := { s.history with
      winners := s.history.winners ++ [selection.winner] } }

/-- Continue after claim collection, which only follows an announcement and
has at least one message. -/
def State.collected (config : IngressConfig) (s : State) (socket : ℕ) (permit : Bool)
    (connectionId : String) (hostname : Option String) (preface : List UInt8)
    (messages : List ClaimMessage) : Option State :=
  match connectionSubject config hostname, messages with
  | .ok _, _ :: _ =>
    match selectWinner s.routeClaimCursor hostname connectionId messages with
    | .error _ => some (s.endHandler socket permit)
    | .ok selection => some (s.selected socket permit connectionId preface selection)
  | _, _ => none

/-- One acknowledgement is on its way. -/
def State.published (s : State) (socket : ℕ) (permit : Bool) (connectionId : String)
    (preface : List UInt8) (winner : String) (ack : ConnectionClaimAck)
    (rest : List ConnectionClaimAck) : State :=
  { s.moveHandler socket permit (.acknowledging connectionId preface winner rest) with
    history := { s.history with published := s.history.published ++ [ack] } }

/-- A failed acknowledgement ends the handler. -/
def State.publishFailed (s : State) (socket : ℕ) (permit : Bool) (connectionId : String) : State :=
  { s.endHandler socket permit with
    history := { s.history with aborted := s.history.aborted ++ [connectionId] } }

/-- Hand the socket over to the pending map and start its timer. -/
def State.register (config : IngressConfig) (s : State) (socket : ℕ) (permit : Bool)
    (connectionId : String) (preface : List UInt8) (winner : String) : State :=
  { s with
    handlers := s.handlers.erase socket
    pending := s.pending.insert connectionId
      ⟨socket, preface, winner, s.now + config.pendingTimeoutMs, permit⟩
    timers := s.timers ++ [(connectionId, s.now + config.pendingTimeoutMs)] }

/-- Remove an expired entry and shut its socket down. -/
def State.expire (s : State) (connectionId : String) (entry : PendingConnection) : State :=
  { s with
    pending := s.pending.erase connectionId
    ingressCapacity := s.ingressCapacity + entry.ingressPermit.toNat
    history := { s.history with
      removed := s.history.removed ++ [connectionId]
      shutdowns := s.history.shutdowns ++ [entry.ingress] } }

/-- The lock section of a cleanup timer. -/
def State.cleanup (s : State) (connectionId : String) : State :=
  match s.pending.lookup connectionId with
  | some entry => if entry.expiresAt ≤ s.now then s.expire connectionId entry else s
  | none => s

/-- A due timer of the connection. -/
def State.isDue (s : State) (connectionId : String) (timer : String × ℕ) : Bool :=
  timer.1 == connectionId && timer.2 ≤ s.now

/-- Accept a callback unless the handshake capacity is used up. -/
def State.acceptCallback (config : IngressConfig) (s : State) : State :=
  if config.maxCallbackHandshakes = 0 then
    { s with
      nextCallback := s.nextCallback + 1
      callbacks := s.callbacks.insert s.nextCallback false }
  else if s.handshakeCapacity = 0 then { s with nextCallback := s.nextCallback + 1 }
  else
    { s with
      nextCallback := s.nextCallback + 1
      handshakeCapacity := s.handshakeCapacity - 1
      callbacks := s.callbacks.insert s.nextCallback true }

/-- End a callback task, which drops its handshake permit. -/
def State.endCallback (s : State) (callback : ℕ) (permit : Bool) : State :=
  { s with
    callbacks := s.callbacks.erase callback
    handshakeCapacity := s.handshakeCapacity + permit.toNat }

/-- Refuse a callback with an error. -/
def State.refuse (s : State) (callback : ℕ) (permit : Bool) (error : AnyError) : State :=
  { s.endCallback callback permit with
    history := { s.history with refused := s.history.refused ++ [(callback, error)] } }

/-- The refusal of an unknown connection. -/
def unknownConnection : AnyError := ["unknown or expired connection id"]

/-- The refusal of another client than the winner. -/
def wrongClient (envelope : PrefixEnvelope) (entry : PendingConnection) : AnyError :=
  ["prefix client_id " ++ envelope.clientId ++ " does not match winning client " ++ entry.clientId]

/-- Take an entry out of the pending map without using it: its socket and its
permit are dropped. -/
def State.dropEntry (s : State) (connectionId : String) (entry : PendingConnection) : State :=
  { s with
    pending := s.pending.erase connectionId
    ingressCapacity := s.ingressCapacity + entry.ingressPermit.toNat
    history := { s.history with removed := s.history.removed ++ [connectionId] } }

/-- Bind a callback to the socket of the entry that it removed. -/
def State.pair (s : State) (callback : ℕ) (permit : Bool) (envelope : PrefixEnvelope)
    (entry : PendingConnection) : State :=
  { s.endCallback callback permit with
    pending := s.pending.erase envelope.connectionId
    relaying := s.relaying.insert callback entry.ingressPermit
    history := { s.history with
      removed := s.history.removed ++ [envelope.connectionId]
      relays := s.history.relays ++ [⟨entry.ingress, callback, envelope⟩] } }

/-- The lock section of a callback: the entry is removed first and its client
is compared afterwards. -/
def State.handleClientData (s : State) (callback : ℕ) (permit : Bool)
    (envelope : PrefixEnvelope) : State :=
  match s.pending.lookup envelope.connectionId with
  | none => s.refuse callback permit unknownConnection
  | some entry =>
    if entry.clientId ≠ envelope.clientId then
      (s.dropEntry envelope.connectionId entry).refuse callback permit (wrongClient envelope entry)
    else s.pair callback permit envelope entry

/-- End a relay, which drops the permit of its public socket. -/
def State.endRelay (s : State) (callback : ℕ) (permit : Bool) : State :=
  { s with
    relaying := s.relaying.erase callback
    ingressCapacity := s.ingressCapacity + permit.toNat }

/-- The handler step of an event, once the handler is known. -/
def handlerStep (config : IngressConfig) (s : State) (socket : ℕ) (handler : Handler) :
    Event → Option State
  | .detected _ hostname preface connectionId =>
    match handler.stage with
    | .detecting => s.detected config socket handler.permit hostname preface connectionId
    | _ => none
  | .handlerEnded _ =>
    match handler.stage with
    | .acknowledging _ _ _ _ => none
    | _ => some (s.endHandler socket handler.permit)
  | .collected _ messages =>
    match handler.stage with
    | .claiming connectionId hostname preface =>
      s.collected config socket handler.permit connectionId hostname preface messages
    | _ => none
  | .publishedAck _ =>
    match handler.stage with
    | .acknowledging connectionId preface winner (ack :: rest) =>
      some (s.published socket handler.permit connectionId preface winner ack rest)
    | _ => none
  | .publishFailed _ =>
    match handler.stage with
    | .acknowledging connectionId _ _ (_ :: _) =>
      some (s.publishFailed socket handler.permit connectionId)
    | _ => none
  | .register _ =>
    match handler.stage with
    | .acknowledging connectionId preface winner [] =>
      some (s.register config socket handler.permit connectionId preface winner)
    | _ => none
  | _ => none

/-- The public socket whose handler an event moves. -/
def Event.socket : Event → Option ℕ
  | .detected socket _ _ _ => some socket
  | .handlerEnded socket => some socket
  | .collected socket _ => some socket
  | .publishedAck socket => some socket
  | .publishFailed socket => some socket
  | .register socket => some socket
  | _ => none

/-- One step of the ingress; an event whose task cannot take it is refused. -/
def step (config : IngressConfig) (s : State) (event : Event) : Option State :=
  match event with
  | .tick => some { s with now := s.now + 1 }
  | .acceptPublic => some (s.acceptPublic config)
  | .wake connectionId =>
    if s.timers.any (s.isDue connectionId) then
      some ({ s with timers := s.timers.eraseP (s.isDue connectionId) }.cleanup connectionId)
    else none
  | .acceptCallback => some (s.acceptCallback config)
  | .callbackEnded callback =>
    (s.callbacks.lookup callback).map fun permit => s.endCallback callback permit
  | .callbackPrefix callback envelope =>
    (s.callbacks.lookup callback).map fun permit => s.handleClientData callback permit envelope
  | .relayEnded callback =>
    (s.relaying.lookup callback).map fun permit => s.endRelay callback permit
  | other =>
    other.socket.bind fun socket => (s.handlers.lookup socket).bind fun handler =>
      handlerStep config s socket handler other

/-- Everything that one step can do. -/
inductive Moves (config : IngressConfig) (s : State) : State → Prop where
  /-- Time passes. -/
  | ticked : Moves config s { s with now := s.now + 1 }
  /-- A public socket is dropped at once. -/
  | rejected : Moves config s { s with nextIngress := s.nextIngress + 1 }
  /-- A public socket gets a handler, with a permit if there is a limit. -/
  | opened (permit : Bool) (capacity : ℕ)
    (hpermit : permit = decide (config.maxIngressConnections ≠ 0))
    (hcapacity : s.ingressCapacity = capacity + permit.toNat) :
    Moves config s (s.openHandler permit capacity)
  /-- A handler copies to a direct route. -/
  | bypassed {socket : ℕ} {permit : Bool} (backendAddr : String)
    (h : s.handlers.lookup socket = some ⟨permit, .detecting⟩) :
    Moves config s (s.moveHandler socket permit (.passthrough backendAddr))
  /-- A handler announces its connection under a fresh identifier. -/
  | announced {socket : ℕ} {permit : Bool} (hostname : Option String) (preface : List UInt8)
    {connectionId : String} (h : s.handlers.lookup socket = some ⟨permit, .detecting⟩)
    (hfresh : connectionId ∉ s.history.ids.map Prod.fst) :
    Moves config s (s.announce socket permit hostname preface connectionId)
  /-- A handler ends before any acknowledgement. -/
  | ended {socket : ℕ} {handler : Handler} (h : s.handlers.lookup socket = some handler)
    (hstage : ∀ connectionId preface winner acks,
      handler.stage ≠ .acknowledging connectionId preface winner acks) :
    Moves config s (s.endHandler socket handler.permit)
  /-- A handler selects a winner. -/
  | selected {socket : ℕ} {permit : Bool} {connectionId : String} {hostname : Option String}
    {preface : List UInt8} {selection : Selection}
    (h : s.handlers.lookup socket = some ⟨permit, .claiming connectionId hostname preface⟩)
    (hid : selection.winner.connectionId = connectionId)
    (hfair : FairlyAcknowledged selection.winner selection.acks) :
    Moves config s (s.selected socket permit connectionId preface selection)
  /-- An acknowledgement is published. -/
  | published {socket : ℕ} {permit : Bool} {connectionId : String} {preface : List UInt8}
    {winner : String} {ack : ConnectionClaimAck} {rest : List ConnectionClaimAck}
    (h : s.handlers.lookup socket =
      some ⟨permit, .acknowledging connectionId preface winner (ack :: rest)⟩) :
    Moves config s (s.published socket permit connectionId preface winner ack rest)
  /-- An acknowledgement cannot be published. -/
  | publishFailed {socket : ℕ} {permit : Bool} {connectionId : String} {preface : List UInt8}
    {winner : String} {acks : List ConnectionClaimAck}
    (h : s.handlers.lookup socket =
      some ⟨permit, .acknowledging connectionId preface winner acks⟩) :
    Moves config s (s.publishFailed socket permit connectionId)
  /-- A handler registers its socket. -/
  | registered {socket : ℕ} {permit : Bool} {connectionId : String} {preface : List UInt8}
    {winner : String}
    (h : s.handlers.lookup socket =
      some ⟨permit, .acknowledging connectionId preface winner []⟩) :
    Moves config s (s.register config socket permit connectionId preface winner)
  /-- A timer ends without effect. -/
  | idled (timers : List (String × ℕ)) : Moves config s { s with timers := timers }
  /-- A timer removes an expired entry. -/
  | expired {connectionId : String} {entry : PendingConnection} (timers : List (String × ℕ))
    (h : s.pending.lookup connectionId = some entry) :
    Moves config s ({ s with timers := timers }.expire connectionId entry)
  /-- A callback is dropped at once. -/
  | callbackRejected : Moves config s { s with nextCallback := s.nextCallback + 1 }
  /-- A callback gets a task, with a permit if there is a limit. -/
  | callbackOpened (permit : Bool) (capacity : ℕ)
    (hpermit : permit = decide (config.maxCallbackHandshakes ≠ 0))
    (hcapacity : s.handshakeCapacity = capacity + permit.toNat) :
    Moves config s { s with
      nextCallback := s.nextCallback + 1
      handshakeCapacity := capacity
      callbacks := s.callbacks.insert s.nextCallback permit }
  /-- A callback ends without a prefix. -/
  | callbackEnded {callback : ℕ} {permit : Bool} (h : s.callbacks.lookup callback = some permit) :
    Moves config s (s.endCallback callback permit)
  /-- A callback names no pending connection. -/
  | unknown {callback : ℕ} {permit : Bool} {envelope : PrefixEnvelope}
    (h : s.callbacks.lookup callback = some permit)
    (hnone : s.pending.lookup envelope.connectionId = none) :
    Moves config s (s.refuse callback permit unknownConnection)
  /-- A callback of another client removes a pending connection. -/
  | mismatched {callback : ℕ} {permit : Bool} {envelope : PrefixEnvelope}
    {entry : PendingConnection} (h : s.callbacks.lookup callback = some permit)
    (hentry : s.pending.lookup envelope.connectionId = some entry)
    (hclient : entry.clientId ≠ envelope.clientId) :
    Moves config s ((s.dropEntry envelope.connectionId entry).refuse callback permit
      (wrongClient envelope entry))
  /-- A callback of the winner is bound to the public socket. -/
  | paired {callback : ℕ} {permit : Bool} {envelope : PrefixEnvelope} {entry : PendingConnection}
    (h : s.callbacks.lookup callback = some permit)
    (hentry : s.pending.lookup envelope.connectionId = some entry)
    (hclient : entry.clientId = envelope.clientId) :
    Moves config s (s.pair callback permit envelope entry)
  /-- A relay ends. -/
  | relayEnded {callback : ℕ} {permit : Bool} (h : s.relaying.lookup callback = some permit) :
    Moves config s (s.endRelay callback permit)

/-- A handler step is one of the listed moves. -/
theorem handlerStep_moves {config : IngressConfig} {s next : State} {socket : ℕ}
    {handler : Handler} {event : Event} (h : s.handlers.lookup socket = some handler)
    (hs : handlerStep config s socket handler event = some next) : Moves config s next := by
  obtain ⟨permit, stage⟩ := handler
  cases event with
  | detected other hostname preface connectionId =>
    cases stage with
    | detecting =>
      simp only [handlerStep, State.detected] at hs
      split at hs
      · cases hs
        exact .bypassed _ h
      · split at hs
        · cases hs
        · next hfresh =>
          cases hs
          refine .announced hostname preface h ?_
          simpa using hfresh
    | passthrough backendAddr => cases hs
    | claiming _ _ _ => cases hs
    | acknowledging _ _ _ _ => cases hs
  | handlerEnded other =>
    cases stage with
    | acknowledging _ _ _ _ => cases hs
    | detecting =>
      cases hs
      exact .ended h (by simp)
    | passthrough backendAddr =>
      cases hs
      exact .ended h (by simp)
    | claiming _ _ _ =>
      cases hs
      exact .ended h (by simp)
  | collected other messages =>
    cases stage with
    | claiming connectionId hostname preface =>
      simp only [handlerStep, State.collected] at hs
      split at hs
      · split at hs
        · cases hs
          exact .ended h (by simp)
        · next selection hselect =>
          cases hs
          have hselected := selectWinner_acknowledged hselect
          exact .selected h hselected.1 hselected.2
      · cases hs
    | detecting => cases hs
    | passthrough backendAddr => cases hs
    | acknowledging _ _ _ _ => cases hs
  | publishedAck other =>
    cases stage with
    | acknowledging connectionId preface winner acks =>
      cases acks with
      | nil => cases hs
      | cons ack rest =>
        cases hs
        exact .published h
    | detecting => cases hs
    | passthrough backendAddr => cases hs
    | claiming _ _ _ => cases hs
  | publishFailed other =>
    cases stage with
    | acknowledging connectionId preface winner acks =>
      cases acks with
      | nil => cases hs
      | cons ack rest =>
        cases hs
        exact .publishFailed h
    | detecting => cases hs
    | passthrough backendAddr => cases hs
    | claiming _ _ _ => cases hs
  | register other =>
    cases stage with
    | acknowledging connectionId preface winner acks =>
      cases acks with
      | nil =>
        cases hs
        exact .registered h
      | cons ack rest => cases hs
    | detecting => cases hs
    | passthrough backendAddr => cases hs
    | claiming _ _ _ => cases hs
  | tick => cases hs
  | acceptPublic => cases hs
  | wake connectionId => cases hs
  | acceptCallback => cases hs
  | callbackEnded callback => cases hs
  | callbackPrefix callback envelope => cases hs
  | relayEnded callback => cases hs

/-- A step that is left to a handler is one of the listed moves. -/
theorem socketStep_moves {config : IngressConfig} {s next : State} (event : Event)
    (hs : (event.socket.bind fun socket => (s.handlers.lookup socket).bind fun handler =>
      handlerStep config s socket handler event) = some next) : Moves config s next := by
  simp only [Option.bind_eq_some_iff] at hs
  obtain ⟨socket, -, handler, hlookup, hstep⟩ := hs
  exact handlerStep_moves hlookup hstep

/-- Every step is one of the listed moves. -/
theorem step_moves {config : IngressConfig} {s next : State} {event : Event}
    (hs : step config s event = some next) : Moves config s next := by
  cases event with
  | tick =>
    cases hs
    exact .ticked
  | acceptPublic =>
    simp only [step, State.acceptPublic, Option.some.injEq] at hs
    split at hs
    · next hunlimited =>
      subst hs
      exact .opened false _ (by simp [hunlimited]) rfl
    · next hlimited =>
      split at hs
      · subst hs
        exact .rejected
      · next hfree =>
        subst hs
        exact .opened true _ (by simp [hlimited]) (by rw [Bool.toNat_true]; omega)
  | wake connectionId =>
    simp only [step] at hs
    split at hs
    · simp only [Option.some.injEq, State.cleanup] at hs
      split at hs
      · next entry hentry =>
        split at hs
        · subst hs
          exact .expired _ hentry
        · subst hs
          exact .idled _
      · subst hs
        exact .idled _
    · cases hs
  | acceptCallback =>
    simp only [step, State.acceptCallback, Option.some.injEq] at hs
    split at hs
    · next hunlimited =>
      subst hs
      exact .callbackOpened false _ (by simp [hunlimited]) rfl
    · next hlimited =>
      split at hs
      · subst hs
        exact .callbackRejected
      · next hfree =>
        subst hs
        exact .callbackOpened true _ (by simp [hlimited]) (by rw [Bool.toNat_true]; omega)
  | callbackEnded callback =>
    obtain ⟨permit, hlookup, rfl⟩ := Option.map_eq_some_iff.mp hs
    exact .callbackEnded hlookup
  | callbackPrefix callback envelope =>
    obtain ⟨permit, hlookup, rfl⟩ := Option.map_eq_some_iff.mp hs
    unfold State.handleClientData
    split
    · next hnone => exact .unknown hlookup hnone
    · next entry hentry =>
      split
      · next hclient => exact .mismatched hlookup hentry hclient
      · next hclient => exact .paired hlookup hentry (not_not.mp hclient)
  | relayEnded callback =>
    obtain ⟨permit, hlookup, rfl⟩ := Option.map_eq_some_iff.mp hs
    exact .relayEnded hlookup
  | detected socket hostname preface connectionId =>
    exact socketStep_moves (.detected socket hostname preface connectionId) hs
  | handlerEnded socket => exact socketStep_moves (.handlerEnded socket) hs
  | collected socket messages => exact socketStep_moves (.collected socket messages) hs
  | publishedAck socket => exact socketStep_moves (.publishedAck socket) hs
  | publishFailed socket => exact socketStep_moves (.publishFailed socket) hs
  | register socket => exact socketStep_moves (.register socket) hs

end LfpPipe.IngressPairing
