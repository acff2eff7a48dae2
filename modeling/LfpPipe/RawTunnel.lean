import LfpPipe.ByteSockets
import LfpPipe.ClientBridge
import LfpPipe.IngressPairing
import LfpPipe.IngressPreface
import LfpPipe.SharedPrefix

/-!
# Raw tunnels byte by byte

The sockets of one tunnel on both hosts: the public socket whose first bytes
detection has read, the callback whose first line is the prefix, and the
backend. The ingress side is `handle_ingress`, `handle_client_data` and
`relay_streams`; the client side is `bridge_connection` and `bridge_tls`; the
copy is `copy_bidirectional_with_mode` of `shared/src/io.rs`. The two hosts
are wired together by the two directions of the callback connection.
-/

namespace LfpPipe.RawTunnel

open Stream' RustText Fallible SharedConfig SharedHttp ChunkedReads ByteSockets SharedPrefix
open IngressPreface IngressPairing ClientSession ClientBridge OwnedTables TransitionRuns

variable {Key : Type}

/-- How the copy of one connection can be made. -/
structure CopyEnv where
  /-- The probe has found that splicing works. -/
  spliceSupported : Bool
  /-- Creating the pipes of a spliced copy. -/
  pipes : Except AnyError Unit

/-- Copy in both directions. Automatic mode falls back to the buffered copy
when pipes cannot be created, before any byte has moved. -/
def copyBidirectionalWithMode (env : CopyEnv) (left right : Socket UInt8) :
    RelayMode → Except AnyError (Socket UInt8 × Socket UInt8)
  | .buffered => .ok (forward left right)
  | .splice => do
    withContext "failed to initialize tokio-splice2 relay" env.pipes
    .ok (forward left right)
  | .auto =>
    if env.spliceSupported then
      match env.pipes with
      | .ok () => .ok (forward left right)
      | .error _ => .ok (forward left right)
    else .ok (forward left right)

/-- Public sockets of an ingress: what their peers send, how the reads of
detection deliver it, and the ClientHello parser. -/
structure PublicSide where
  /-- The parser of the external crate. -/
  extractSni : List UInt8 → Except String (Option String)
  /-- Everything that the peer of a socket sends. -/
  stream : ℕ → Seq UInt8
  /-- Bytes delivered by each read of a socket. -/
  delivered : ℕ → ℕ → ℕ

/-- Detection on a public socket. -/
def PublicSide.detection (sockets : PublicSide) (socket : ℕ) :
    Option (Report UInt8 (Except String Detection)) :=
  detectHostname sockets.extractSni (sockets.delivered socket) (sockets.stream socket)

/-- A public socket after detection: the rest can be read and nothing was
written. -/
def PublicSide.after (sockets : PublicSide) (socket : ℕ) : Socket UInt8 :=
  .fresh (((sockets.detection socket).map Report.rest).getD (sockets.stream socket))

/-- The bytes that detection has read from a socket which it accepted. -/
def PublicSide.Detected (sockets : PublicSide) (socket : ℕ) (preface : List UInt8) : Prop :=
  ∃ report detection, sockets.detection socket = some report ∧
    report.verdict = .ok detection ∧ preface = report.buffer

/-- A detection event reports what detection answers on the socket. -/
def PublicSide.Explains (sockets : PublicSide) : Event → Prop
  | .detected socket hostname preface _ => ∃ report tls, sockets.detection socket = some report ∧
      report.verdict = .ok (hostname, tls) ∧ preface = report.buffer
  | _ => True

/-- Replay the preface to the callback and copy. The answer is the public
socket and the callback. -/
def relayStreams (env : CopyEnv) (ingress dataStream : Socket UInt8) (ingressPreface : List UInt8)
    (relayMode : RelayMode) : Except AnyError (Socket UInt8 × Socket UInt8) :=
  withContext "copy_bidirectional failed"
    (copyBidirectionalWithMode env ingress (dataStream.writeAll ingressPreface) relayMode)

/-- Read the prefix of a callback, take its pending connection and relay. -/
def handleClientData (json : JsonCodec) (env : CopyEnv) (sockets : PublicSide) (s : State)
    (relayMode : RelayMode) (stream : Socket UInt8) :
    Except AnyError (Socket UInt8 × Socket UInt8) := do
  let (envelope, rest) ← readPrefix json stream.unread
  let entry ← orMissing "unknown or expired connection id" (s.pending.lookup envelope.connectionId)
  if entry.clientId ≠ envelope.clientId then
    .error (wrongClient ⟨envelope.clientId, envelope.connectionId⟩ entry)
  else
    relayStreams env (sockets.after entry.ingress) { stream with unread := rest }
      entry.ingressPreface relayMode

/-- What the bounded wait for first bytes meets. -/
inductive Wait where
  | ready (delivered : ℕ)
  | failed (error : AnyError)
  | timedOut

/-- Wait for the next bytes of a socket without consuming them. -/
def peekWithin (socket : Socket UInt8) (size : ℕ) : Wait → Inspection
  | .ready delivered => .available (socket.peek delivered size)
  | .failed error => .failed error
  | .timedOut => .timedOut

/-- Capacity of the buffered reader. -/
def BUF_READER_BYTES : ℕ := 8 * 1024

/-- Wait until the buffer of a reader is filled. -/
def fillWithin (reader : BufReader UInt8) : Wait → Inspection × BufReader UInt8
  | .ready delivered =>
    let filled := reader.fillBuf delivered BUF_READER_BYTES
    (.available filled.1, filled.2)
  | .failed error => (.failed error, reader)
  | .timedOut => (.timedOut, reader)

/-- One TLS session as a transformation of streams. -/
structure TlsSession where
  /-- The plaintext of received bytes. -/
  opened : Seq UInt8 → Seq UInt8
  /-- The bytes sent for a plaintext, given the received bytes. -/
  sealed : Seq UInt8 → Seq UInt8 → Seq UInt8

/-- What the client meets while it bridges one connection. -/
structure ClientSide where
  /-- The wait for tunneled bytes. -/
  peeked : Wait
  /-- Handing the connection to the certificate runtime and its handshake. -/
  session : Except AnyError TlsSession
  /-- The wait for terminated bytes. -/
  filled : Wait
  /-- Everything that the backend at an address sends. -/
  dial : String → Except AnyError (Seq UInt8)
  /-- The copy of this connection. -/
  copying : CopyEnv

/-- How a connection was carried. -/
inductive Carried where
  /-- Copied to a backend as it is. -/
  | relayed (address : String) (ingress backend : Socket UInt8)
  /-- Copied to a backend after local TLS termination. -/
  | terminated (session : TlsSession) (address : String) (ingress backend : Socket UInt8)
  /-- Served, rejected or failed. -/
  | handled (handling : Handling)

/-- The two sockets of a connection that was copied. -/
def Carried.sockets : Carried → Option (Socket UInt8 × Socket UInt8)
  | .relayed _ ingress backend => some (ingress, backend)
  | .terminated _ _ ingress backend => some (ingress, backend)
  | .handled _ => none

/-- What a copied connection has written to the tunnel behind the prefix and
to the backend, given the bytes of the tunnel. -/
def Carried.Copied (client : ClientSide) (line : List UInt8) (tunneled : Seq UInt8) :
    Carried → Prop
  | .relayed address ingress backend => ∃ stream, client.dial address = .ok stream ∧
      ingress.written = Seq.append (Seq.ofList line) stream ∧ backend.written = tunneled
  | .terminated session address ingress backend => ∃ stream, client.dial address = .ok stream ∧
      ingress.written = Seq.append (Seq.ofList line) (session.sealed tunneled stream) ∧
      backend.written = session.opened tunneled
  | .handled _ => True

/-- Open a backend connection. -/
def ClientSide.connect (client : ClientSide) (address : String) :
    Except AnyError (Socket UInt8) := do
  let unread ← withContext ("failed to connect backend " ++ address) (client.dial address)
  .ok (.fresh unread)

/-- Look at terminated bytes when requests are inspected. -/
def inspectTerminated (client : ClientSide) (inspectHttp : Bool) (tlsStream : Socket UInt8) :
    Inspection × BufReader UInt8 :=
  if inspectHttp then fillWithin (.new tlsStream) client.filled
  else (.timedOut, .new tlsStream)

/-- Bridge a terminated connection. What is written to the TLS stream is
sealed for the tunnel. -/
def carryTls (client : ClientSide) (runtime : AcmeRuntime Key) (ingress : Socket UInt8) :
    Except AnyError Carried := do
  let session ← client.session
  let inspected := inspectTerminated client
    (!runtime.tcpPassthrough || inspectsRequests runtime.backends)
    (.fresh (session.opened ingress.unread))
  match bridgeTls inspected.1 runtime.config.domain runtime.backends runtime.tcpPassthrough with
  | .relay address => do
    let backend ← client.connect address
    let (tlsStream, backend) := forward inspected.2.socket backend
    .ok (.terminated session address
      ⟨Seq.nil, Seq.append ingress.written (session.sealed ingress.unread tlsStream.written)⟩
      backend)
  | handling => .ok (.handled handling)

/-- Carry a connection that stays with the bridge. -/
def carryPlaintext (client : ClientSide) (request : ConnectionRequest)
    (backends : List (BackendRuntime Key)) (relayMode : RelayMode)
    (inspectHttp plaintextHttp tcpPassthrough : Bool) (ingress : Socket UInt8) :
    Except AnyError Carried :=
  match bridgePlaintext request backends inspectHttp plaintextHttp tcpPassthrough with
  | .relay address => do
    let backend ← client.connect address
    let (ingress, backend) ← withContext "copy_bidirectional failed"
      (copyBidirectionalWithMode client.copying ingress backend relayMode)
    .ok (.relayed address ingress backend)
  | handling => .ok (.handled handling)

/-- Write the prefix, look at the tunneled bytes and carry the connection. -/
def carryConnection (json : JsonCodec) (client : ClientSide) (clientId connectionId : String)
    (request : ConnectionRequest) (backends : List (BackendRuntime Key)) (relayMode : RelayMode)
    (acme : Option (AcmeRuntime Key)) (tcpPassthrough : Bool) (callback : Socket UInt8) :
    Except AnyError Carried := do
  let line ← (SharedPrefix.PrefixEnvelope.new clientId connectionId).encodeLine json
  let ingress := callback.writeAll line
  let inspectHttp := inspectsPlaintext backends acme tcpPassthrough
  let plaintextHttp ← connectionIsPlaintextHttp (peekWithin ingress 24 client.peeked) inspectHttp
  match acme, plaintextHttp with
  | some runtime, false => carryTls client runtime ingress
  | _, _ =>
    carryPlaintext client request backends relayMode inspectHttp plaintextHttp tcpPassthrough
      ingress

/-- One tunnel: both hosts and what each of them meets. -/
structure Tunnel (Key : Type) where
  /-- The JSON library of both hosts. -/
  json : JsonCodec
  /-- The public sockets of the ingress. -/
  sockets : PublicSide
  /-- The copy that the ingress makes. -/
  ingressCopy : CopyEnv
  /-- The relay mode of the ingress. -/
  ingressMode : RelayMode
  /-- What the client meets. -/
  client : ClientSide
  /-- The client that was told to call back. -/
  clientId : String
  /-- The connection for which it calls back. -/
  connectionId : String
  /-- The request of the ingress. -/
  request : ConnectionRequest
  /-- The backends of the client. -/
  backends : List (BackendRuntime Key)
  /-- The relay mode of the client. -/
  clientMode : RelayMode
  /-- Local TLS termination. -/
  acme : Option (AcmeRuntime Key)
  /-- Whether the client relays traffic that is not HTTP. -/
  tcpPassthrough : Bool

/-- The client side of a tunnel. -/
def Tunnel.carry (tunnel : Tunnel Key) (callback : Socket UInt8) : Except AnyError Carried :=
  carryConnection tunnel.json tunnel.client tunnel.clientId tunnel.connectionId tunnel.request
    tunnel.backends tunnel.clientMode tunnel.acme tunnel.tcpPassthrough callback

/-- The first line of the callback. -/
def Tunnel.prefixLine (tunnel : Tunnel Key) : Except AnyError (List UInt8) :=
  (SharedPrefix.PrefixEnvelope.new tunnel.clientId tunnel.connectionId).encodeLine tunnel.json

/-- The four streams of a tunnel. -/
structure Flow where
  /-- From the ingress to the client over the callback connection. -/
  toClient : Seq UInt8
  /-- From the client to the ingress over the callback connection. -/
  toIngress : Seq UInt8
  /-- To the public peer. -/
  toPublic : Seq UInt8
  /-- To the backend. -/
  toBackend : Seq UInt8

/-- Both hosts copy, and each reads from the callback connection what the
other one writes. -/
structure Tunnel.Wired (tunnel : Tunnel Key) (s : State) (carried : Carried) (flow : Flow) :
    Prop where
  /-- The ingress relays the callback. -/
  ingress : ∃ peer callback, handleClientData tunnel.json tunnel.ingressCopy tunnel.sockets s
    tunnel.ingressMode (.fresh flow.toIngress) = .ok (peer, callback) ∧
      peer.written = flow.toPublic ∧ callback.written = flow.toClient
  /-- The client carries the connection. -/
  client : tunnel.carry (.fresh flow.toClient) = .ok carried ∧
    ∃ callback backend, carried.sockets = some (callback, backend) ∧
      callback.written = flow.toIngress ∧ backend.written = flow.toBackend

/-- The backend receives exactly the public stream and the public peer
exactly the stream of the backend; behind local TLS termination these are
the streams of the session. -/
def Carried.Transparent (client : ClientSide) (stream : Seq UInt8) (flow : Flow) : Carried → Prop
  | .relayed address _ _ =>
    flow.toBackend = stream ∧ client.dial address = .ok flow.toPublic
  | .terminated session address _ _ => flow.toBackend = session.opened stream ∧
      ∃ sent, client.dial address = .ok sent ∧ flow.toPublic = session.sealed stream sent
  | .handled _ => False

end LfpPipe.RawTunnel
