import LfpPipe.ClientProxy
import LfpPipe.ConfigExpansion
import LfpPipe.SharedHttp

/-!
# Bridging accepted tunnel connections

Translated from `bridge_connection` of `client/src/lib.rs` and `bridge_tls`
of `client/src/acme.rs`. A connection is what the network does to it: the
bytes or the timeout seen by each inspection, the TLS handshake, and the
requests that the HTTP server reads. The result is every backend dial that
the connection causes.
-/

namespace LfpPipe.ClientBridge

open RustText Fallible SharedConfig SharedHttp HttpMessages ClientAuthorizer ClientSession
open ClientProxy ClientIdentity ConfigExpansion

variable {Key : Type}

/-- Outcome of the bounded wait for first bytes. -/
inductive Inspection where
  | available (bytes : List UInt8)
  | failed (error : AnyError)
  | timedOut

/-- Parts of a tunnel request that the bridge reads. -/
structure ConnectionRequest where
  /-- Detected hostname. -/
  hostname : Option String
  /-- Public peer address. -/
  clientIp : Option String
  /-- The public side used TLS. -/
  tls : Bool

/-- What the network does to one accepted connection. -/
structure Connection (Key : Type) where
  /-- Connecting to the ingress and writing the callback prefix. -/
  callback : Except AnyError Unit
  /-- Inspection of the tunneled bytes. -/
  peeked : Inspection
  /-- Requests read from the tunneled bytes. -/
  server : Server Key
  /-- Handing the connection to the certificate runtime. -/
  accepted : Except AnyError Unit
  /-- The local TLS handshake. -/
  handshake : Except AnyError Unit
  /-- Inspection of the terminated bytes. -/
  terminated : Inspection
  /-- Requests read from the terminated bytes. -/
  terminatedServer : Server Key

/-- How a connection is handled once its protocol is known. -/
inductive Handling where
  | serve (hostname : String) (scheme : String)
  | relay (address : String)
  | reject
  | fail (error : AnyError)
  deriving DecidableEq, Repr

/-- One dialed backend. -/
inductive Dial (Key : Type) where
  | relay (address : String)
  | forward (exchange : Exchange Key) (hostname : String) (scheme : String)
    (backend : BackendRuntime Key) (prepared : Request) (address : String)

/-- The dial of one answered request. -/
def forwardDial (hostname scheme : String) :
    Exchange Key × Outcome Key (Answer Key) → Option (Dial Key)
  | (exchange, answer) =>
    match answer.result with
    | .local _ => none
    | .dial backend prepared address =>
      some (.forward exchange hostname scheme backend prepared address)

/-- The dials of a handled connection. -/
def Handling.dials (ext : Externals Key) (server : Server Key) (clientIp : Option String)
    (backends : List (BackendRuntime Key)) : Handling → List (Dial Key)
  | .serve hostname scheme =>
    (ClientProxy.serve ext server hostname clientIp scheme backends).filterMap
      (forwardDial hostname scheme)
  | .relay address => [.relay address]
  | .reject => []
  | .fail _ => []

/-- The first matching backend without a path prefix. -/
def fallbackBackend (backends : List (BackendRuntime Key)) (hostname : Option String) :
    Option (BackendRuntime Key) :=
  backends.find? fun backend => backend.isFallback hostname

/-- Whether some rule needs requests to be inspected. -/
def inspectsRequests (backends : List (BackendRuntime Key)) : Bool :=
  backends.any fun backend => backend.rule.pathPrefix.isSome || backend.rule.proxyHeaders ||
    backend.rule.backendHost.isSome || backend.authorization.isSome

/-- Whether terminated traffic begins like HTTP, when that is inspected. -/
def terminatedHttp (inspectHttp : Bool) (inspection : Inspection) : Except AnyError Bool :=
  if !inspectHttp then .ok false
  else
    match inspection with
    | .available bytes => .ok (!bytes.isEmpty && looksLikeHttpPrefix bytes)
    | .failed error => .error ("inspect terminated TLS protocol" :: error)
    | .timedOut => .ok false

/-- Handle a locally terminated connection. -/
def bridgeTls (inspection : Inspection) (hostname : String)
    (backends : List (BackendRuntime Key)) (tcpPassthrough : Bool) : Handling :=
  match fallbackBackend backends (some hostname) with
  | none => .fail ["matching route has no fallback backend"]
  | some fallback =>
    match terminatedHttp (!tcpPassthrough || inspectsRequests backends) inspection with
    | .error error => .fail error
    | .ok http =>
      if !protocolAllowed http tcpPassthrough then .reject
      else if !http then .relay fallback.rule.resolvedBackendAddr
      else .serve hostname "https"

/-- The dials of a connection that was handed to the certificate runtime. -/
def acceptTls (ext : Externals Key) (connection : Connection Key) (acme : AcmeRuntime Key)
    (clientIp : Option String) : List (Dial Key) :=
  match connection.accepted, connection.handshake with
  | .ok (), .ok () =>
    (bridgeTls connection.terminated acme.config.domain acme.backends
      acme.tcpPassthrough).dials ext connection.terminatedServer clientIp acme.backends
  | _, _ => []

/-- Whether tunneled bytes begin like plaintext HTTP; at most 24 are looked
at. -/
def connectionIsPlaintextHttp (inspection : Inspection) (inspectHttp : Bool) :
    Except AnyError Bool :=
  if !inspectHttp then .ok false
  else
    match inspection with
    | .available bytes => .ok (!(bytes.take 24).isEmpty && looksLikeHttpPrefix (bytes.take 24))
    | .failed error => .error ("failed to inspect tunneled protocol" :: error)
    | .timedOut => .ok false

/-- Handle a connection that stays with the bridge. -/
def bridgePlaintext (request : ConnectionRequest) (backends : List (BackendRuntime Key))
    (inspectHttp plaintextHttp tcpPassthrough : Bool) : Handling :=
  if !protocolAllowed plaintextHttp tcpPassthrough then .reject
  else
    match fallbackBackend backends request.hostname with
    | none => .fail ["matching route has no fallback backend"]
    | some fallback =>
      if plaintextHttp && inspectHttp then
        match request.hostname with
        | none => .fail ["HTTP request has no hostname"]
        | some hostname => .serve hostname (if request.tls then "https" else "http")
      else if plaintextHttp then .relay fallback.rule.resolvedHttpBackendAddr
      else .relay fallback.rule.resolvedBackendAddr

/-- Whether tunneled bytes are inspected for plaintext HTTP. -/
def inspectsPlaintext (backends : List (BackendRuntime Key)) (acme : Option (AcmeRuntime Key))
    (tcpPassthrough : Bool) : Bool :=
  !tcpPassthrough || acme.isSome ||
    backends.any (fun backend => backend.rule.httpBackendAddr.isSome ||
      backend.rule.pathPrefix.isSome || backend.rule.proxyHeaders ||
      backend.rule.backendHost.isSome || backend.authorization.isSome)

/-- How bridging an accepted connection ends. -/
inductive Ending (Key : Type) where
  /-- The network failed before the protocol was known. -/
  | failed (error : AnyError)
  /-- The certificate runtime takes the connection. -/
  | handoff (runtime : AcmeRuntime Key)
  /-- The bridge itself handles the connection. -/
  | handled (handling : Handling)

/-- What bridging does with a connection. -/
def bridgeEnding (connection : Connection Key) (request : ConnectionRequest)
    (backends : List (BackendRuntime Key)) (acme : Option (AcmeRuntime Key))
    (tcpPassthrough : Bool) : Ending Key :=
  match connection.callback with
  | .error error => .failed error
  | .ok () =>
    let inspectHttp := inspectsPlaintext backends acme tcpPassthrough
    match connectionIsPlaintextHttp connection.peeked inspectHttp with
    | .error error => .failed error
    | .ok plaintextHttp =>
      match acme, plaintextHttp with
      | some runtime, false => .handoff runtime
      | _, _ => .handled (bridgePlaintext request backends inspectHttp plaintextHttp tcpPassthrough)

/-- What is done with the bytes of a connection: by the bridge itself, or after
local TLS termination by the certificate runtime. -/
def Ending.handling (connection : Connection Key) : Ending Key → Handling
  | .failed error => .fail error
  | .handoff runtime =>
    bridgeTls connection.terminated runtime.config.domain runtime.backends runtime.tcpPassthrough
  | .handled handling => handling

/-- The dials of an ending. -/
def Ending.dials (ext : Externals Key) (connection : Connection Key) (request : ConnectionRequest)
    (backends : List (BackendRuntime Key)) : Ending Key → List (Dial Key)
  | .failed _ => []
  | .handoff runtime => acceptTls ext connection runtime request.clientIp
  | .handled handling => handling.dials ext connection.server request.clientIp backends

/-- All dials of one accepted connection. -/
def bridgeConnection (ext : Externals Key) (connection : Connection Key)
    (request : ConnectionRequest) (backends : List (BackendRuntime Key))
    (acme : Option (AcmeRuntime Key)) (tcpPassthrough : Bool) : List (Dial Key) :=
  (bridgeEnding connection request backends acme tcpPassthrough).dials ext connection request
    backends

/-- All dials of an accepted claim of a started session. -/
def bridgeSession (ext : Externals Key) (connection : Connection Key)
    (request : ConnectionRequest) (state : AppState Key) : List (Dial Key) :=
  bridgeConnection ext connection request state.backends state.acme state.config.tcpPassthrough

/-- A dial of a connection that is not relayed is a forwarded request of the
hostname and the scheme that it is served under. -/
theorem mem_dials_of_not_relay {ext : Externals Key} {server : Server Key}
    {clientIp : Option String} {backends : List (BackendRuntime Key)} {handling : Handling}
    (hrelay : ∀ address, handling ≠ .relay address) {dial : Dial Key}
    (hd : dial ∈ handling.dials ext server clientIp backends) :
    ∃ exchange hostname scheme backend prepared,
      dial = .forward exchange hostname scheme backend prepared
        backend.rule.resolvedHttpBackendAddr ∧
      handling = .serve hostname scheme ∧ exchange ∈ server (requestLimits backends) ∧
      (handleRequestInner ext exchange.world exchange.request hostname clientIp scheme
        backends).result = .ok (.forward backend prepared) := by
  cases handling with
  | relay address => exact absurd rfl (hrelay address)
  | reject => simp [Handling.dials] at hd
  | fail error => simp [Handling.dials] at hd
  | serve hostname scheme =>
    obtain ⟨⟨exchange, answer⟩, hm, hforward⟩ := List.mem_filterMap.mp hd
    unfold forwardDial at hforward
    dsimp only at hforward
    split at hforward
    · cases hforward
    · next backend prepared address hdial =>
      obtain ⟨hinner, rfl⟩ := serve_dial hm hdial
      obtain ⟨read, hread, heq⟩ := List.mem_map.mp hm
      cases heq
      cases hforward
      exact ⟨exchange, hostname, scheme, backend, prepared, rfl, rfl, hread, hinner⟩

/-- Without passthrough a terminated connection is never relayed. -/
theorem bridgeTls_http_only {inspection : Inspection} {hostname : String}
    {backends : List (BackendRuntime Key)} (address : String) :
    bridgeTls inspection hostname backends false ≠ .relay address := by
  unfold bridgeTls
  cases fallbackBackend backends (some hostname) with
  | none => simp
  | some fallback =>
    cases terminatedHttp (!false || inspectsRequests backends) inspection with
    | error error => simp
    | ok http => cases http <;> simp [protocolAllowed]

/-- Without passthrough a plaintext connection is inspected and never
relayed. -/
theorem bridgePlaintext_http_only {request : ConnectionRequest}
    {backends : List (BackendRuntime Key)} {plaintextHttp : Bool} (address : String) :
    bridgePlaintext request backends true plaintextHttp false ≠ .relay address := by
  unfold bridgePlaintext
  cases plaintextHttp with
  | false => simp [protocolAllowed]
  | true =>
    cases fallbackBackend backends request.hostname with
    | none => simp [protocolAllowed]
    | some fallback => cases request.hostname <;> simp [protocolAllowed]

/-- A connection that the bridge serves itself is inspected plaintext HTTP, is
served under the hostname of its request, and has a fallback. -/
theorem bridgePlaintext_serve {backends : List (BackendRuntime Key)} {request : ConnectionRequest}
    {inspectHttp plaintextHttp tcpPassthrough : Bool} {hostname scheme : String}
    (h : bridgePlaintext request backends inspectHttp plaintextHttp tcpPassthrough =
      .serve hostname scheme) :
    plaintextHttp = true ∧ request.hostname = some hostname ∧
      scheme = (if request.tls then "https" else "http") ∧
      ∃ fallback, fallbackBackend backends (some hostname) = some fallback := by
  unfold bridgePlaintext at h
  split at h
  · cases h
  · split at h
    · cases h
    · rename_i fallback hfallback
      split at h
      · rename_i hinspected
        split at h
        · cases h
        · rename_i name hname
          cases h
          rw [hname] at hfallback
          rw [Bool.and_eq_true] at hinspected
          exact ⟨hinspected.1, hname, rfl, fallback, hfallback⟩
      · split at h
        · cases h
        · cases h

/-- A terminated connection that is served begins like HTTP, is served under the
hostname of the certificate, and has a fallback. -/
theorem bridgeTls_serve {backends : List (BackendRuntime Key)} {inspection : Inspection}
    {domain : String} {tcpPassthrough : Bool} {hostname scheme : String}
    (h : bridgeTls inspection domain backends tcpPassthrough = .serve hostname scheme) :
    terminatedHttp (!tcpPassthrough || inspectsRequests backends) inspection = .ok true ∧
      hostname = domain ∧ scheme = "https" ∧
      ∃ fallback, fallbackBackend backends (some hostname) = some fallback := by
  unfold bridgeTls at h
  split at h
  · cases h
  · rename_i fallback hfallback
    split at h
    · cases h
    · rename_i http hhttp
      split at h
      · cases h
      · split at h
        · cases h
        · rename_i hserved
          cases h
          rw [Bool.not_eq_true', Bool.not_eq_false] at hserved
          rw [hserved] at hhttp
          exact ⟨hhttp, rfl, rfl, fallback, hfallback⟩

/-- How a request is read from a connection, with the hostname and the scheme that
its handler is given: from tunneled bytes that begin like HTTP under the hostname of
the tunnel request, or from terminated ones under the domain of the certificate. -/
inductive ReadUnder (connection : Connection Key) (request : ConnectionRequest)
    (domain : Option String) (limits : ℕ × ℕ) (exchange : Exchange Key) : String → String → Prop
  | tunneled {hostname : String} (hopened : connection.callback = .ok ())
      (hhttp : connectionIsPlaintextHttp connection.peeked true = .ok true)
      (hhostname : request.hostname = some hostname) (hread : exchange ∈ connection.server limits) :
      ReadUnder connection request domain limits exchange hostname
        (if request.tls then "https" else "http")
  | terminated {hostname : String} (hopened : connection.callback = .ok ())
      (hother : connectionIsPlaintextHttp connection.peeked true = .ok false)
      (haccepted : connection.accepted = .ok ()) (hhandshake : connection.handshake = .ok ())
      (hhttp : terminatedHttp true connection.terminated = .ok true)
      (hdomain : domain = some hostname) (hread : exchange ∈ connection.terminatedServer limits) :
      ReadUnder connection request domain limits exchange hostname "https"

/-- A dial made by forwarding a request of the connection. -/
def ForwardedFrom (ext : Externals Key) (connection : Connection Key)
    (request : ConnectionRequest) (domain : Option String) (backends : List (BackendRuntime Key))
    (dial : Dial Key) : Prop :=
  ∃ exchange hostname scheme backend prepared,
    dial = .forward exchange hostname scheme backend prepared
      backend.rule.resolvedHttpBackendAddr ∧
    ReadUnder connection request domain (requestLimits backends) exchange hostname scheme ∧
    (handleRequestInner ext exchange.world exchange.request hostname request.clientIp scheme
      backends).result = .ok (.forward backend prepared)

/-- Without passthrough every dial is made by forwarding a request, whichever
of the four ways the connection takes. -/
theorem bridgeConnection_http_only {ext : Externals Key} {connection : Connection Key}
    {request : ConnectionRequest} {domain : Option String} {backends : List (BackendRuntime Key)}
    {acme : Option (AcmeRuntime Key)}
    (hacme : ∀ runtime, acme = some runtime → domain = some runtime.config.domain ∧
      runtime.backends = backends ∧ runtime.tcpPassthrough = false)
    {dial : Dial Key} (hd : dial ∈ bridgeConnection ext connection request backends acme false) :
    ForwardedFrom ext connection request domain backends dial := by
  have hinspect : inspectsPlaintext backends acme false = true := rfl
  rw [bridgeConnection, bridgeEnding, hinspect] at hd
  cases hcallback : connection.callback with
  | error error => simp [hcallback, Ending.dials] at hd
  | ok _ =>
    rw [hcallback] at hd
    dsimp only at hd
    cases hpeek : connectionIsPlaintextHttp connection.peeked true with
    | error error => simp [hpeek, Ending.dials] at hd
    | ok plaintextHttp =>
      rw [hpeek] at hd
      have hplain : dial ∈ (bridgePlaintext request backends true plaintextHttp false).dials ext
          connection.server request.clientIp backends →
          ForwardedFrom ext connection request domain backends dial := by
        intro hm
        obtain ⟨exchange, hostname, scheme, backend, prepared, hdial, hserve, hread, hinner⟩ :=
          mem_dials_of_not_relay bridgePlaintext_http_only hm
        obtain ⟨rfl, hhostname, rfl, -⟩ := bridgePlaintext_serve hserve
        exact ⟨exchange, hostname, _, backend, prepared, hdial,
          .tunneled hcallback hpeek hhostname hread, hinner⟩
      cases acme with
      | none => exact hplain hd
      | some runtime =>
        cases plaintextHttp with
        | true => exact hplain hd
        | false =>
          obtain ⟨hdomain, hruntime, hpass⟩ := hacme runtime rfl
          dsimp only [Ending.dials] at hd
          unfold acceptTls at hd
          split at hd
          · rename_i haccepted hhandshake
            rw [hruntime, hpass] at hd
            obtain ⟨exchange, hostname, scheme, backend, prepared, hdial, hserve, hread, hinner⟩ :=
              mem_dials_of_not_relay bridgeTls_http_only hd
            obtain ⟨hhttp, rfl, rfl, -⟩ := bridgeTls_serve hserve
            exact ⟨exchange, _, _, backend, prepared, hdial,
              .terminated hcallback hpeek haccepted hhandshake hhttp hdomain hread, hinner⟩
          · cases hd

/-- A path that is reserved by no loaded policy is reserved by no attached
one. -/
theorem not_reserved_of_attached {ext : Externals Key} {env : LoadEnv Key} {config : ClientConfig}
    {backends : List (BackendRuntime Key)}
    (hbackends : List.Forall₂ (BackendOf ext env config) config.backendRules backends)
    {path : String} (hfree : NotReserved backends path) {rule : BackendRule}
    (hrule : rule ∈ config.backendRules) {policy : ClientAuthorizationConfig}
    (hpolicy : attachedPolicy config rule = some policy) (hoidc : policy.oidcEnabled = true) :
    path ≠ policy.oidcCallbackPath ∧ path ≠ policy.oidcLogoutPath := by
  obtain ⟨backend, hm, -, hattached, hloaded⟩ := exists_mem_of_forall₂ hbackends.flip hrule
  rw [hpolicy] at hattached
  obtain ⟨authorizer, ha, rfl⟩ := Option.map_eq_some_iff.mp hattached
  obtain ⟨acme, -, hload⟩ := hloaded authorizer ha
  refine hfree backend hm authorizer ha ?_
  rw [Authorizer.load_oidc hload]
  exact hoidc

/-- On an HTTP-only route every dial is made for a request of this
connection that was forwarded: the dialed backend is the one that the hostname of
the tunnel request, or of the certificate, and the path select, its policy allowed
this very request, what is forwarded is this request prepared for that caller, and
the path is no callback or logout path of any browser policy of the route. -/
theorem http_only_dials_mediated {ext : Externals Key} {env : LoadEnv Key} {config : ClientConfig}
    {state : AppState Key} (hstart : processMessages ext env config = .ok state)
    (hpass : config.tcpPassthrough = false) (connection : Connection Key)
    (request : ConnectionRequest) {dial : Dial Key}
    (hd : dial ∈ bridgeSession ext connection request state) :
    ∃ exchange hostname scheme backend prepared,
      dial = .forward exchange hostname scheme backend prepared
        backend.rule.resolvedHttpBackendAddr ∧
      ReadUnder connection request (config.acme.map fun settings => settings.domain)
        (requestLimits state.backends) exchange hostname scheme ∧
      (handleRequestInner ext exchange.world exchange.request hostname request.clientIp scheme
        state.backends).result = .ok (.forward backend prepared) ∧
      selectRuntimeForPath state.backends (some hostname) exchange.request.uri.path =
        some backend ∧
      (backend.authorization = none → prepareRequest exchange.request backend.rule
        request.clientIp scheme none = .ok prepared) ∧
      (∀ authorizer, backend.authorization = some authorizer →
        ∃ credential identity, (authorizer.authorize ext exchange.world exchange.request.method
            exchange.request.uri exchange.request.headers).result = .allow credential identity ∧
          prepareRequest (withoutAuthorization authorizer exchange.request) backend.rule
            request.clientIp scheme identity = .ok prepared) ∧
      ∀ rule ∈ config.backendRules, ∀ policy, attachedPolicy config rule = some policy →
        policy.oidcEnabled = true → exchange.request.uri.path ≠ policy.oidcCallbackPath ∧
          exchange.request.uri.path ≠ policy.oidcLogoutPath := by
  obtain ⟨hconfig, hacme, hbackends⟩ := processMessages_backends hstart
  have hruntime : ∀ runtime, state.acme = some runtime →
      (config.acme.map fun settings => settings.domain) = some runtime.config.domain ∧
        runtime.backends = state.backends ∧ runtime.tcpPassthrough = false := by
    intro runtime hr
    rw [hr] at hacme
    obtain ⟨hsettings, hsame, hflag⟩ := startAcme_runtime hacme
    rw [hsettings]
    exact ⟨rfl, hsame, hflag.trans hpass⟩
  rw [bridgeSession, hconfig, hpass] at hd
  obtain ⟨exchange, hostname, scheme, backend, prepared, hdial, hread, hinner⟩ :=
    bridgeConnection_http_only hruntime hd
  have hmediated := handleRequestInner_forward hinner
  refine ⟨exchange, hostname, scheme, backend, prepared, hdial, hread, hinner,
    hmediated.selected, hmediated.unprotected, hmediated.allowed, ?_⟩
  intro rule hrule policy hpolicy hoidc
  exact not_reserved_of_attached hbackends hmediated.notReserved hrule hpolicy hoidc

/-- A bearer policy that asks for the reader role. -/
def readerPolicy : ClientAuthorizationConfig :=
  resolvedPolicy [{ audiences := some ["docs"], requiredRoles := some ["reader"] }]
    "https://login.example"

/-- Certificates of the reader's hostname. -/
def readerAcme : ClientAcmeConfig := ⟨"docs.example", [], "cache", false, none⟩

/-- The fallback rule of the reader's hostname. -/
def readerRule : BackendRule :=
  ⟨"docs.example", none, false, true, ":8080", none, none, some readerPolicy⟩

/-- A flat file with this one rule. -/
def readerConfig (tcpPassthrough : Bool) : ClientConfig where
  clientId := "docs-client"
  natsUrl := "nats://control.example"
  natsTokenFile := none
  oauth := none
  acme := some readerAcme
  authorization := none
  tcpPassthrough := tcpPassthrough
  relayMode := .auto
  requestSubject := defaultRequestSubject
  claimAckTimeoutMs := defaultClaimAckTimeoutMs
  backendRules := [readerRule]

/-- The started backend of that rule. -/
def readerBackends : List (BackendRuntime Unit) :=
  [⟨readerRule, some ⟨readerPolicy, some ⟨readerPolicy, [.asymmetric "RS256"]⟩, none⟩⟩]

/-- The started certificate runtime. -/
def readerRuntime (tcpPassthrough : Bool) : AcmeRuntime Unit :=
  ⟨readerAcme, "cache/docs.example", readerBackends, tcpPassthrough⟩

/-- The started session. -/
def readerState (tcpPassthrough : Bool) : AppState Unit :=
  ⟨readerConfig tcpPassthrough, some (readerRuntime tcpPassthrough), readerBackends⟩

/-- The flat file is accepted. -/
theorem readerConfig_accepted (tcpPassthrough : Bool) :
    parseClientConfigs (.legacy (readerConfig tcpPassthrough)) =
      .ok [readerConfig tcpPassthrough] := by
  cases tcpPassthrough <;> decide +kernel

/-- It starts. -/
theorem readerConfig_starts (tcpPassthrough : Bool) :
    processMessages sampleExternals sampleEnv (readerConfig tcpPassthrough) =
      .ok (readerState tcpPassthrough) := by
  cases tcpPassthrough <;> rfl

/-- A verifier that knows one token of a reader. -/
def readerWorld : World Unit where
  now := 0
  freshState := "state"
  freshNonce := "nonce"
  freshVerifier := "verifier"
  freshCookie := 0
  authorizeUrl _ := .ok "https://login.example/authorize"
  exchangeCode _ _ _ := .error ["unknown code"]
  decodeToken _ token :=
    if token = "alice-token" then
      .ok (.object [("sub", .string "alice"), ("groups", .array [.string "reader"])])
    else .error ["unknown token"]

/-- A request of that reader. -/
def readerRequest : Request :=
  ⟨"GET", ⟨"/", none⟩, (HeaderMap.empty.insert "host" (ascii "docs.example")).insert
    "authorization" (ascii "Bearer alice-token")⟩

/-- A TLS connection with one request of the reader. -/
def readerConnection : Connection Unit where
  callback := .ok ()
  peeked := .available [22, 3, 1]
  server _ := []
  accepted := .ok ()
  handshake := .ok ()
  terminated := .available (ascii "GET / HTTP/1.1")
  terminatedServer _ := [⟨readerWorld, readerRequest⟩]

/-- The dials of the reader's connection. -/
def readerDials : List (Dial Unit) :=
  bridgeSession sampleExternals readerConnection ⟨some "docs.example", none, true⟩
    (readerState false)

/-- The reader reaches a backend, and only by a forwarded request that is read
under the domain of the certificate. -/
theorem http_only_dials_mediated_reader :
    0 < readerDials.length ∧ ∀ dial ∈ readerDials,
      ∃ exchange backend prepared address,
        dial = .forward exchange "docs.example" "https" backend prepared address ∧
        selectRuntimeForPath readerBackends (some "docs.example") exchange.request.uri.path =
          some backend := by
  refine ⟨by decide +kernel, ?_⟩
  intro dial hd
  obtain ⟨exchange, hostname, scheme, backend, prepared, hdial, hread, -, hselect, -⟩ :=
    http_only_dials_mediated (readerConfig_starts false) rfl readerConnection
      ⟨some "docs.example", none, true⟩ hd
  cases hread with
  | tunneled _ hhttp => cases hhttp
  | terminated _ _ _ _ _ hdomain =>
    cases hdomain
    exact ⟨exchange, backend, prepared, _, hdial, hselect⟩

end LfpPipe.ClientBridge
