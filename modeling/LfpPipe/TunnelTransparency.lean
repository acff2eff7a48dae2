import LfpPipe.RawTunnel

/-!
# Nothing is lost, duplicated or inserted in a raw tunnel

Whatever interleaving led to a pending connection, its preface is what
detection has read from its own socket. The callback prefix is consumed up
to its newline and inspections consume nothing, so once both hosts relay the
backend reads the public stream and the public peer reads the stream of the
backend.
-/

namespace LfpPipe.TunnelTransparency

open Stream' RustText Fallible SharedConfig ChunkedReads ByteSockets SharedPrefix
open IngressPreface IngressPairing ClientSession ClientBridge OwnedTables TransitionRuns RawTunnel

variable {Key : Type}

/-- The preface that a handler keeps. -/
def stagePreface : Stage → Option (List UInt8)
  | .claiming _ _ preface => some preface
  | .acknowledging _ preface _ _ => some preface
  | _ => none

/-- A preface is kept for a public socket, by its handler or in the pending
map. -/
def Stored (s : State) (socket : ℕ) (preface : List UInt8) : Prop :=
  (∃ handler, s.handlers.lookup socket = some handler ∧
    stagePreface handler.stage = some preface) ∨
  ∃ connectionId entry, s.pending.lookup connectionId = some entry ∧ entry.ingress = socket ∧
    entry.ingressPreface = preface

/-- Nothing is stored that was not stored before when both tables only
lose entries. -/
theorem Stored.of_lookup {s next : State} {socket : ℕ} {preface : List UInt8}
    (h : Stored next socket preface)
    (hhandlers : ∀ other handler, next.handlers.lookup other = some handler →
      s.handlers.lookup other = some handler)
    (hpending : ∀ connectionId entry, next.pending.lookup connectionId = some entry →
      s.pending.lookup connectionId = some entry) : Stored s socket preface := by
  rcases h with ⟨handler, hl, hp⟩ | ⟨connectionId, entry, hl, hp⟩
  · exact .inl ⟨handler, hhandlers _ _ hl, hp⟩
  · exact .inr ⟨connectionId, entry, hpending _ _ hl, hp⟩

/-- Dropping a pending entry stores nothing. -/
theorem Stored.of_erase {s next : State} {connectionId : String} {socket : ℕ}
    {preface : List UInt8} (h : Stored next socket preface)
    (hhandlers : next.handlers = s.handlers)
    (hpending : next.pending = s.pending.erase connectionId) : Stored s socket preface := by
  refine h.of_lookup ?_ ?_
  · intro other handler hl
    rwa [hhandlers] at hl
  · intro other entry hl
    rw [hpending] at hl
    exact (lookup_of_erase hl).2

/-- Moving a handler stores what its new stage keeps. -/
theorem Stored.of_moveHandler {s next : State} {socket other : ℕ} {permit : Bool} {stage : Stage}
    {preface : List UInt8} (h : Stored next other preface)
    (hhandlers : next.handlers = s.handlers.insert socket ⟨permit, stage⟩)
    (hpending : next.pending = s.pending) :
    Stored s other preface ∨ other = socket ∧ stagePreface stage = some preface := by
  rcases h with ⟨handler, hl, hp⟩ | ⟨connectionId, entry, hl, hp⟩
  · rw [hhandlers] at hl
    rcases lookup_of_insert hl with ⟨rfl, rfl⟩ | ⟨-, hold⟩
    · exact .inr ⟨rfl, hp⟩
    · exact .inl (.inl ⟨handler, hold, hp⟩)
  · rw [hpending] at hl
    exact .inl (.inr ⟨connectionId, entry, hl, hp⟩)

/-- Registering moves the preface of a handler into the pending map. -/
theorem Stored.of_register {config : IngressConfig} {s : State} {socket other : ℕ} {permit : Bool}
    {connectionId winner : String} {kept preface : List UInt8}
    (hh : s.handlers.lookup socket = some ⟨permit, .acknowledging connectionId kept winner []⟩)
    (h : Stored (s.register config socket permit connectionId kept winner) other preface) :
    Stored s other preface := by
  rcases h with ⟨handler, hl, hp⟩ | ⟨found, entry, hl, hsocket, hp⟩
  · exact .inl ⟨handler, (lookup_of_erase hl).2, hp⟩
  · rcases lookup_of_insert hl with ⟨rfl, rfl⟩ | ⟨-, hold⟩
    · subst hsocket
      subst hp
      exact .inl ⟨_, hh, rfl⟩
    · exact .inr ⟨found, entry, hold, hsocket, hp⟩

/-- A handler step stores nothing new, except when it reports a detection. -/
theorem handlerStep_stored {config : IngressConfig} {s next : State} {socket : ℕ}
    {handler : Handler} {event : Event} (hh : s.handlers.lookup socket = some handler)
    (hsocket : event.socket = some socket)
    (hs : handlerStep config s socket handler event = some next) {other : ℕ}
    {preface : List UInt8} (h : Stored next other preface) :
    Stored s other preface ∨
      ∃ hostname connectionId, event = .detected other hostname preface connectionId := by
  obtain ⟨permit, stage⟩ := handler
  have hkept : ∀ {moved : State} {newStage : Stage}, Stored moved other preface →
      moved.handlers = s.handlers.insert socket ⟨permit, newStage⟩ → moved.pending = s.pending →
      stagePreface newStage = stagePreface stage → Stored s other preface := by
    intro moved newStage hm hhandlers hpending hsame
    rcases hm.of_moveHandler hhandlers hpending with hold | ⟨rfl, hp⟩
    · exact hold
    · exact .inl ⟨_, hh, hsame ▸ hp⟩
  have hended : Stored (s.endHandler socket permit) other preface → Stored s other preface :=
    fun hm => hm.of_lookup (fun _ _ hl => (lookup_of_erase hl).2) fun _ _ hl => hl
  unfold handlerStep at hs
  cases event with
  | detected target hostname reported connectionId =>
    cases hsocket
    cases stage with
    | detecting =>
      simp only [State.detected] at hs
      split at hs
      · cases hs
        exact .inl (hkept h rfl rfl rfl)
      · split at hs
        · cases hs
        · cases hs
          rcases h.of_moveHandler rfl rfl with hold | ⟨rfl, hp⟩
          · exact .inl hold
          · cases hp
            exact .inr ⟨hostname, connectionId, rfl⟩
    | passthrough _ => cases hs
    | claiming _ _ _ => cases hs
    | acknowledging _ _ _ _ => cases hs
  | handlerEnded target =>
    cases stage with
    | acknowledging _ _ _ _ => cases hs
    | detecting =>
      cases hs
      exact .inl (hended h)
    | passthrough _ =>
      cases hs
      exact .inl (hended h)
    | claiming _ _ _ =>
      cases hs
      exact .inl (hended h)
  | collected target messages =>
    cases stage with
    | claiming connectionId hostname kept =>
      simp only [State.collected] at hs
      split at hs
      · split at hs
        · cases hs
          exact .inl (hended h)
        · cases hs
          exact .inl (hkept h rfl rfl rfl)
      · cases hs
    | detecting => cases hs
    | passthrough _ => cases hs
    | acknowledging _ _ _ _ => cases hs
  | publishedAck target =>
    dsimp only at hs
    split at hs
    · cases hs
      exact .inl (hkept h rfl rfl rfl)
    · cases hs
  | publishFailed target =>
    dsimp only at hs
    split at hs
    · cases hs
      exact .inl (hended h)
    · cases hs
  | register target =>
    dsimp only at hs
    split at hs
    · cases hs
      exact .inl (Stored.of_register hh h)
    · cases hs
  | _ => cases hs

/-- A timer stores nothing. -/
theorem stored_cleanup {s : State} {timers : List (String × ℕ)} {connectionId : String} {socket : ℕ}
    {preface : List UInt8}
    (h : Stored ({ s with timers := timers }.cleanup connectionId) socket preface) :
    Stored s socket preface := by
  rw [State.cleanup] at h
  split at h
  · split at h
    · exact h.of_erase rfl rfl
    · exact h.of_lookup (fun _ _ hl => hl) fun _ _ hl => hl
  · exact h.of_lookup (fun _ _ hl => hl) fun _ _ hl => hl

/-- A callback stores nothing. -/
theorem stored_handleClientData {s : State} {callback : ℕ} {permit : Bool}
    {envelope : IngressPairing.PrefixEnvelope} {socket : ℕ} {preface : List UInt8}
    (h : Stored (s.handleClientData callback permit envelope) socket preface) :
    Stored s socket preface := by
  rw [State.handleClientData] at h
  split at h
  · exact h.of_lookup (fun _ _ hl => hl) fun _ _ hl => hl
  · split at h
    · exact h.of_erase rfl rfl
    · exact h.of_erase rfl rfl

/-- A step stores no preface but the one that a detection reports. -/
theorem step_stored {config : IngressConfig} {s next : State} {event : Event}
    (hs : step config s event = some next) {socket : ℕ} {preface : List UInt8}
    (h : Stored next socket preface) :
    Stored s socket preface ∨
      ∃ hostname connectionId, event = .detected socket hostname preface connectionId := by
  have hsame : next.handlers = s.handlers → next.pending = s.pending → Stored s socket preface :=
    fun hhandlers hpending => h.of_lookup (fun _ _ hl => hhandlers ▸ hl)
      fun _ _ hl => hpending ▸ hl
  have hmoved : ∀ {target : ℕ}, event.socket = some target →
      (event.socket.bind fun target => (s.handlers.lookup target).bind fun handler =>
        handlerStep config s target handler event) = some next →
      Stored s socket preface ∨
        ∃ hostname connectionId, event = .detected socket hostname preface connectionId := by
    intro target htarget hstep
    rw [htarget, Option.bind_some, Option.bind_eq_some_iff] at hstep
    obtain ⟨handler, hh, hstep⟩ := hstep
    exact handlerStep_stored hh htarget hstep h
  unfold step at hs
  cases event with
  | tick =>
    cases hs
    exact .inl (hsame rfl rfl)
  | acceptPublic =>
    cases hs
    left
    rw [State.acceptPublic] at h
    split at h
    · rcases h.of_moveHandler (s := s) rfl rfl with hold | ⟨-, hp⟩
      · exact hold
      · cases hp
    · split at h
      · exact h.of_lookup (fun _ _ hl => hl) fun _ _ hl => hl
      · rcases h.of_moveHandler (s := s) rfl rfl with hold | ⟨-, hp⟩
        · exact hold
        · cases hp
  | wake connectionId =>
    dsimp only at hs
    split at hs
    · cases hs
      exact .inl (stored_cleanup h)
    · cases hs
  | acceptCallback =>
    cases hs
    left
    rw [State.acceptCallback] at h
    split at h
    · exact h.of_lookup (fun _ _ hl => hl) fun _ _ hl => hl
    · split at h <;> exact h.of_lookup (fun _ _ hl => hl) fun _ _ hl => hl
  | callbackEnded callback =>
    obtain ⟨permit, -, rfl⟩ := Option.map_eq_some_iff.mp hs
    exact .inl (hsame rfl rfl)
  | callbackPrefix callback envelope =>
    obtain ⟨permit, -, rfl⟩ := Option.map_eq_some_iff.mp hs
    exact .inl (stored_handleClientData h)
  | relayEnded callback =>
    obtain ⟨permit, -, rfl⟩ := Option.map_eq_some_iff.mp hs
    exact .inl (hsame rfl rfl)
  | detected target hostname reported connectionId => exact hmoved rfl hs
  | handlerEnded target => exact hmoved rfl hs
  | collected target messages => exact hmoved rfl hs
  | publishedAck target => exact hmoved rfl hs
  | publishFailed target => exact hmoved rfl hs
  | register target => exact hmoved rfl hs

/-- Every stored preface is what detection has read from its socket. -/
def StoredDetected (sockets : PublicSide) (state : State) : Prop :=
  ∀ socket preface, Stored state socket preface → sockets.Detected socket preface

/-- In every run that the public side explains, every stored preface is what
detection has read from its socket. -/
theorem run_stored_detected {sockets : PublicSide} {config : IngressConfig} {events : List Event}
    {s : State} (hexplains : ∀ event ∈ events, sockets.Explains event)
    (hrun : run (step config) (initial config) events = some s) {socket : ℕ}
    {preface : List UInt8} (h : Stored s socket preface) : sockets.Detected socket preface := by
  have hstep : ∀ state event next, StoredDetected sockets state → sockets.Explains event →
      step config state event = some next → StoredDetected sockets next := by
    intro state event next hstate hevent hstep other kept hkept
    rcases step_stored hstep hkept with hold | ⟨hostname, connectionId, rfl⟩
    · exact hstate other kept hold
    · obtain ⟨report, tls, hreport, hverdict, hbuffer⟩ := hevent
      exact ⟨report, (hostname, tls), hreport, hverdict, hbuffer⟩
  have hinitial : StoredDetected sockets (initial config) := by
    rintro other kept (⟨handler, hl, -⟩ | ⟨connectionId, entry, hl, -⟩)
    · cases hl
    · cases hl
  have hlast : StoredDetected sockets s := run_invariant_guarded hstep hinitial
    (guarded_of_forall hexplains (initial config)) hrun
  exact hlast socket preface h

/-- A copy is not refused: a spliced one needs its pipes. -/
def Copies (env : CopyEnv) (relayMode : RelayMode) : Prop :=
  relayMode = .splice → env.pipes = .ok ()

/-- Whatever way a copy is made, it forwards what both sides have left. -/
theorem copyBidirectionalWithMode_eq_ok {env : CopyEnv} {left right : Socket UInt8}
    {relayMode : RelayMode} {result : Socket UInt8 × Socket UInt8} :
    copyBidirectionalWithMode env left right relayMode = .ok result ↔
      Copies env relayMode ∧ result = forward left right := by
  cases relayMode with
  | buffered => simp [copyBidirectionalWithMode, Copies, eq_comm]
  | splice =>
    simp only [copyBidirectionalWithMode, bind_eq_ok, withContext_eq_ok, Copies, forall_const,
      Except.ok.injEq]
    constructor
    · rintro ⟨_, hpipes, rfl⟩
      exact ⟨hpipes, rfl⟩
    · rintro ⟨hpipes, rfl⟩
      exact ⟨(), hpipes, rfl⟩
  | auto =>
    have hcopy : copyBidirectionalWithMode env left right .auto = .ok (forward left right) := by
      rw [copyBidirectionalWithMode]
      cases env.pipes <;> split <;> rfl
    simp [hcopy, Copies, eq_comm]

/-- Detected bytes and the rest of the socket are its stream. -/
theorem detected_replay {sockets : PublicSide} {socket : ℕ} {preface : List UInt8}
    (h : sockets.Detected socket preface) :
    Seq.append (Seq.ofList preface) (sockets.after socket).unread = sockets.stream socket := by
  obtain ⟨report, -, hreport, -, rfl⟩ := h
  obtain ⟨found, -, hfound, -, -, -, hreplay, -⟩ := detectHostname_fragmentation_independent
    sockets.extractSni (sockets.stream socket) (sockets.delivered socket) (sockets.delivered socket)
  have hsame : some report = some found := hreport.symm.trans hfound
  cases hsame
  rw [PublicSide.after, hreport]
  exact hreplay

/-- Looking at terminated bytes hides nothing from the copy. -/
theorem inspectTerminated_socket (client : ClientSide) (inspectHttp : Bool)
    (tlsStream : Socket UInt8) :
    (inspectTerminated client inspectHttp tlsStream).2.socket = tlsStream := by
  rw [inspectTerminated]
  split
  · rw [fillWithin.eq_def]
    split
    · exact (BufReader.socket_fillBuf _ _ _).trans (BufReader.socket_new _)
    · exact BufReader.socket_new _
    · exact BufReader.socket_new _
  · exact BufReader.socket_new _

/-- A terminated connection copies the plaintext of its session. -/
theorem carryTls_copied {client : ClientSide} {runtime : AcmeRuntime Key} {line : List UInt8}
    {tunneled : Seq UInt8} {carried : Carried}
    (h : carryTls client runtime ((Socket.fresh tunneled).writeAll line) = .ok carried) :
    carried.Copied client line tunneled := by
  obtain ⟨session, -, h⟩ := bind_eq_ok.mp h
  dsimp only at h
  split at h
  · next address hbridge =>
    obtain ⟨backend, hconnect, h⟩ := bind_eq_ok.mp h
    obtain ⟨stream, hdial, hbackend⟩ := bind_eq_ok.mp hconnect
    rw [withContext_eq_ok] at hdial
    cases hbackend
    rw [inspectTerminated_socket] at h
    cases h
    refine ⟨stream, hdial, ?_, Seq.nil_append _⟩
    simp only [Socket.writeAll, Socket.fresh, forward, Seq.nil_append]
  · cases h
    trivial

/-- A connection that stays with the bridge copies every tunneled byte. -/
theorem carryPlaintext_copied {client : ClientSide} {request : ConnectionRequest}
    {backends : List (BackendRuntime Key)} {relayMode : RelayMode}
    {inspectHttp plaintextHttp tcpPassthrough : Bool} {line : List UInt8} {tunneled : Seq UInt8}
    {carried : Carried}
    (h : carryPlaintext client request backends relayMode inspectHttp plaintextHttp tcpPassthrough
      ((Socket.fresh tunneled).writeAll line) = .ok carried) :
    carried.Copied client line tunneled := by
  rw [carryPlaintext] at h
  split at h
  · next address hbridge =>
    obtain ⟨backend, hconnect, h⟩ := bind_eq_ok.mp h
    obtain ⟨stream, hdial, hbackend⟩ := bind_eq_ok.mp hconnect
    rw [withContext_eq_ok] at hdial
    cases hbackend
    obtain ⟨copied, hcopied, h⟩ := bind_eq_ok.mp h
    rw [withContext_eq_ok, copyBidirectionalWithMode_eq_ok] at hcopied
    obtain ⟨-, rfl⟩ := hcopied
    cases h
    refine ⟨stream, hdial, ?_, Seq.nil_append _⟩
    simp only [Socket.writeAll, Socket.fresh, Seq.nil_append]
  · cases h
    trivial

/-- A connection writes its prefix first, copies every tunneled byte whatever
it has looked at, and copies every byte of the backend behind the prefix. -/
theorem carryConnection_copied {json : JsonCodec} {client : ClientSide}
    {clientId connectionId : String} {request : ConnectionRequest}
    {backends : List (BackendRuntime Key)} {relayMode : RelayMode}
    {acme : Option (AcmeRuntime Key)} {tcpPassthrough : Bool} {line : List UInt8}
    (hline : (SharedPrefix.PrefixEnvelope.new clientId connectionId).encodeLine json = .ok line)
    {tunneled : Seq UInt8} {carried : Carried}
    (h : carryConnection json client clientId connectionId request backends relayMode acme
      tcpPassthrough (.fresh tunneled) = .ok carried) : carried.Copied client line tunneled := by
  obtain ⟨written, hwritten, h⟩ := bind_eq_ok.mp h
  rw [hline] at hwritten
  cases hwritten
  dsimp only at h
  obtain ⟨plaintextHttp, -, h⟩ := bind_eq_ok.mp h
  split at h
  · exact carryTls_copied h
  · exact carryPlaintext_copied h

/-- The callback of the winner is relayed to the pending socket: the prefix
is gone, the public stream is replayed and the rest of the callback is
forwarded. -/
theorem handleClientData_relays {json : JsonCodec} (hjson : json.Lawful) {sockets : PublicSide}
    {s : State} {clientId connectionId : String} {line : List UInt8}
    (hline : (SharedPrefix.PrefixEnvelope.new clientId connectionId).encodeLine json = .ok line)
    (hfits : line.length ≤ MAX_PREFIX_BYTES + 1) {entry : PendingConnection}
    (hentry : s.pending.lookup connectionId = some entry) (hclient : entry.clientId = clientId)
    (hdetected : sockets.Detected entry.ingress entry.ingressPreface) {env : CopyEnv}
    {relayMode : RelayMode} {sent : Seq UInt8} {result : Socket UInt8 × Socket UInt8} :
    handleClientData json env sockets s relayMode
        (.fresh (Seq.append (Seq.ofList line) sent)) = .ok result ↔
      Copies env relayMode ∧
        result = (⟨Seq.nil, sent⟩, ⟨Seq.nil, sockets.stream entry.ingress⟩) := by
  have hread := readPrefix_encodeLine hjson rfl hline hfits sent
  have hrelay : handleClientData json env sockets s relayMode
      (.fresh (Seq.append (Seq.ofList line) sent)) =
        relayStreams env (sockets.after entry.ingress) (.fresh sent) entry.ingressPreface
          relayMode := by
    have hsame :
        ¬entry.clientId ≠ (SharedPrefix.PrefixEnvelope.new clientId connectionId).clientId :=
      not_not.mpr hclient
    have hfound : orMissing "unknown or expired connection id" (s.pending.lookup
        (SharedPrefix.PrefixEnvelope.new clientId connectionId).connectionId) = .ok entry :=
      orMissing_eq_ok.mpr hentry
    rw [handleClientData, Socket.fresh, hread]
    change (orMissing "unknown or expired connection id" (s.pending.lookup
      (SharedPrefix.PrefixEnvelope.new clientId connectionId).connectionId) >>= _) = _
    rw [hfound]
    change (if entry.clientId ≠ _ then _ else _) = _
    rw [if_neg hsame]
    rfl
  rw [hrelay, relayStreams, withContext_eq_ok, copyBidirectionalWithMode_eq_ok,
    forward_replay (detected_replay hdetected)]
  simp only [PublicSide.after, Socket.fresh, Seq.nil_append]

/-- A raw tunnel is transparent. In every run of the ingress whose detections
report what was read from the sockets, in every fragmentation, for every
pending connection whose winner calls back with a prefix that fits: once
both hosts copy, the backend receives exactly the stream of that very public
socket and the public peer exactly the stream of the backend, and the two
hosts do copy whenever the client relays the public stream. -/
theorem raw_tunnel_transparent (tunnel : Tunnel Key) (hjson : tunnel.json.Lawful)
    (config : IngressConfig) (events : List Event) (s : State)
    (hexplains : ∀ event ∈ events, tunnel.sockets.Explains event)
    (hrun : run (step config) (initial config) events = some s) (line : List UInt8)
    (hline : tunnel.prefixLine = .ok line) (hfits : line.length ≤ MAX_PREFIX_BYTES + 1)
    (entry : PendingConnection) (hentry : s.pending.lookup tunnel.connectionId = some entry)
    (hclient : entry.clientId = tunnel.clientId) :
    (∀ carried flow, tunnel.Wired s carried flow →
      carried.Transparent tunnel.client (tunnel.sockets.stream entry.ingress) flow) ∧
    ∀ carried callback backend,
      tunnel.carry (.fresh (tunnel.sockets.stream entry.ingress)) = .ok carried →
      carried.sockets = some (callback, backend) →
      Copies tunnel.ingressCopy tunnel.ingressMode → ∃ flow, tunnel.Wired s carried flow := by
  have hdetected : tunnel.sockets.Detected entry.ingress entry.ingressPreface :=
    run_stored_detected hexplains hrun (.inr ⟨_, entry, hentry, rfl, rfl⟩)
  constructor
  · intro carried flow hwired
    obtain ⟨peer, data, hdata, hpublic, htunneled⟩ := hwired.ingress
    obtain ⟨hcarry, callback, backend, hsockets, hcallback, hbackend⟩ := hwired.client
    have hcopied := carryConnection_copied hline hcarry
    cases carried with
    | relayed address left right =>
      cases hsockets
      obtain ⟨sent, hdial, hleft, hright⟩ := hcopied
      rw [← hcallback, hleft, handleClientData_relays hjson hline hfits hentry hclient hdetected]
        at hdata
      obtain ⟨-, hpair⟩ := hdata
      cases hpair
      rw [Carried.Transparent, ← hbackend, hright, ← hpublic, ← htunneled]
      exact ⟨rfl, hdial⟩
    | terminated session address left right =>
      cases hsockets
      obtain ⟨sent, hdial, hleft, hright⟩ := hcopied
      rw [← hcallback, hleft, handleClientData_relays hjson hline hfits hentry hclient hdetected]
        at hdata
      obtain ⟨-, hpair⟩ := hdata
      cases hpair
      rw [Carried.Transparent, ← hbackend, hright, ← hpublic, ← htunneled]
      exact ⟨rfl, sent, hdial, rfl⟩
    | handled handling => cases hsockets
  · intro carried callback backend hcarry hsockets hcopies
    have hcopied := carryConnection_copied hline hcarry
    have hwritten : ∃ sent, callback.written = Seq.append (Seq.ofList line) sent := by
      cases carried with
      | relayed address left right =>
        cases hsockets
        obtain ⟨sent, -, hleft, -⟩ := hcopied
        exact ⟨sent, hleft⟩
      | terminated session address left right =>
        cases hsockets
        obtain ⟨sent, -, hleft, -⟩ := hcopied
        exact ⟨session.sealed _ sent, hleft⟩
      | handled handling => cases hsockets
    obtain ⟨sent, hsent⟩ := hwritten
    refine ⟨⟨tunnel.sockets.stream entry.ingress, callback.written, sent, backend.written⟩,
      ⟨⟨⟨Seq.nil, sent⟩, ⟨Seq.nil, tunnel.sockets.stream entry.ingress⟩, ?_, rfl, rfl⟩,
        hcarry, callback, backend, hsockets, rfl, rfl⟩⟩
    rw [hsent]
    exact (handleClientData_relays hjson hline hfits hentry hclient hdetected).mpr ⟨hcopies, rfl⟩

/-- The envelope of the sample callback. -/
def sampleEnvelope : SharedPrefix.PrefixEnvelope := .new "alice" "c1"

/-- Its JSON text. -/
def sampleJson : List UInt8 :=
  ascii "\x7b\"version\":1,\"client_id\":\"alice\",\"connection_id\":\"c1\"\x7d"

/-- A JSON library that knows this one envelope. -/
def sampleCodec : JsonCodec where
  toVec envelope :=
    if envelope = sampleEnvelope then .ok sampleJson else .error ["unknown envelope"]
  fromSlice bytes := if bytes = sampleJson then .ok sampleEnvelope else .error ["unknown text"]

/-- It parses back what it writes. -/
theorem sampleCodec_lawful : sampleCodec.Lawful := by
  constructor
  · intro envelope bytes h
    simp only [sampleCodec] at h ⊢
    split at h
    · next he =>
      cases h
      rw [if_pos rfl, he]
    · cases h
  · intro envelope h
    have hne : ([] : List UInt8) ≠ sampleJson := by decide
    simp only [sampleCodec, if_neg hne] at h
    cases h

/-- Three unnamed bytes that arrive one by one. -/
def sampleSockets : PublicSide where
  extractSni _ := .error "no ClientHello"
  stream _ := Seq.ofList [0, 1, 2]
  delivered _ _ := 1

/-- A backend that answers with two bytes. -/
def sampleClient : ClientSide where
  peeked := .timedOut
  session := .error ["ACME TLS runtime is not available"]
  filled := .timedOut
  dial address := if address = "127.0.0.1:9000" then .ok (Seq.ofList [7, 8]) else .error ["refused"]
  copying := ⟨false, .ok ()⟩

/-- A tunnel for traffic without a name. -/
def sampleTunnel : Tunnel Unit where
  json := sampleCodec
  sockets := sampleSockets
  ingressCopy := ⟨false, .ok ()⟩
  ingressMode := .auto
  client := sampleClient
  clientId := "alice"
  connectionId := "c1"
  request := ⟨none, none, false⟩
  backends := [⟨⟨"", none, false, false, ":9000", none, none, none⟩, none⟩]
  clientMode := .auto
  acme := none
  tcpPassthrough := true

/-- An ingress with default limits. -/
def sampleIngress : IngressConfig where
  requestSubject := defaultRequestSubject
  domainSubjectRouting := false
  pendingTimeoutMs := 10000
  maxIngressConnections := 0
  maxCallbackHandshakes := 0
  sniPassthroughRoutes := []

/-- The first byte is detected, one client claims and the socket waits. -/
def sampleEvents : List Event :=
  [.acceptPublic, .detected 0 none [0] "c1", .collected 0 [⟨.ok ⟨"alice", "c1"⟩, some "r1"⟩],
    .publishedAck 0, .register 0, .acceptCallback]

/-- The sample tunnel copies, and transparently so. -/
theorem raw_tunnel_transparent_alice : ∃ s carried flow,
    run (step sampleIngress) (initial sampleIngress) sampleEvents = some s ∧
      sampleTunnel.Wired s carried flow ∧ flow.toBackend = Seq.ofList [0, 1, 2] ∧
      flow.toPublic = Seq.ofList [7, 8] := by
  have hpending : (run (step sampleIngress) (initial sampleIngress) sampleEvents).map
      (fun s => s.pending.lookup "c1") = some (some ⟨0, [0], "alice", 10000, false⟩) := by
    decide +kernel
  obtain ⟨s, hrun, hentry⟩ := Option.map_eq_some_iff.mp hpending
  have hexplains : ∀ event ∈ sampleEvents, sampleTunnel.sockets.Explains event := by
    intro event he
    simp only [sampleEvents, List.mem_cons, List.not_mem_nil, or_false] at he
    rcases he with rfl | rfl | rfl | rfl | rfl | rfl
    · trivial
    · exact ⟨_, false, rfl, rfl, rfl⟩
    · trivial
    · trivial
    · trivial
    · trivial
  obtain ⟨htransparent, hcopies⟩ := raw_tunnel_transparent sampleTunnel sampleCodec_lawful
    sampleIngress sampleEvents s hexplains hrun _ rfl (by decide +kernel) _ hentry rfl
  obtain ⟨flow, hwired⟩ := hcopies _ _ _ rfl rfl nofun
  obtain ⟨hbackend, hpublic⟩ := htransparent _ flow hwired
  refine ⟨s, _, flow, hrun, hwired, hbackend, ?_⟩
  exact (Except.ok.inj hpublic).symm

end LfpPipe.TunnelTransparency
