import LfpPipe.StartupValidation
import LfpPipe.ClientInspection
import LfpPipe.PatternCase

/-!
# Claimed connections have somewhere to go

A client claims a connection when one of its rules matches the hostname. After
the claim it looks for a rule without path prefix, looks at the first bytes and
may hand the connection to the proxy, which looks for a rule again. The checks
of the configuration and of the start make every claimed connection routable.
What stays is the refusal of plaintext HTTP without a hostname, and a flat file
that spells one wildcard pattern in two ways.
-/

namespace LfpPipe.RoutableClaims

open RustText Fallible SharedConfig SharedRouting SharedHttp PatternCase HttpMessages
open ClientAuthorizer ClientSession ClientProxy ClientBridge ConfigExpansion PolicyResolution
open ClientIdentity

variable {Key : Type}

/-- How a session deals with one tunnel request. -/
inductive Handled (Key : Type) where
  /-- The request cannot be read, or its claim cannot be submitted. -/
  | failed (error : AnyError)
  /-- No rule matches the hostname. -/
  | unmatched
  /-- The ingress selected another client. -/
  | lost
  /-- The claim was accepted and the connection bridged. -/
  | bridged (ending : Ending Key)

/-- Deal with one message of the request subject: claim the connection when a
rule matches, and bridge it when the claim is accepted. -/
def handleRequest (state : AppState Key) (payload : Except AnyError ConnectionRequest)
    (ack : Except AnyError Bool) (connection : Connection Key) : Handled Key :=
  match payload with
  | .error error => .failed error
  | .ok request =>
    if !state.backends.any fun backend => backend.matchesHostname request.hostname then .unmatched
    else
      match ack with
      | .error error => .failed error
      | .ok false => .lost
      | .ok true =>
        .bridged (bridgeEnding connection request state.backends state.acme
          state.config.tcpPassthrough)

/-- A bridged connection was matched by a rule. -/
theorem handleRequest_bridged {state : AppState Key} {request : ConnectionRequest}
    {ack : Except AnyError Bool} {connection : Connection Key} {ending : Ending Key}
    (h : handleRequest state (.ok request) ack connection = .bridged ending) :
    (∃ backend ∈ state.backends, backend.matchesHostname request.hostname = true) ∧
      ending = bridgeEnding connection request state.backends state.acme
        state.config.tcpPassthrough := by
  unfold handleRequest at h
  dsimp only at h
  split at h
  · cases h
  · rename_i hmatched
    rw [Bool.not_eq_true', Bool.not_eq_false, List.any_eq_true] at hmatched
    refine ⟨hmatched, ?_⟩
    split at h
    · cases h
    · cases h
    · cases h
      rfl

/-- A wildcard pattern of a path rule is spelled as that of the fallback. -/
def SpelledAlike (config : ClientConfig) : Prop :=
  ∀ rule ∈ config.backendRules, ∀ fallback ∈ config.backendRules,
    rule.pathPrefix.isSome = true → fallback.pathPrefix = none →
      startsWith rule.pattern "*." = true → fallback.pattern = rule.pattern

/-- A route of a multi-route file has one pattern. -/
theorem spelledAlike_of_expanded {defaults : ClientConfigDefaults} {route : ClientRouteConfig}
    {config : ClientConfig} (h : ExpandedFrom defaults route config) : SpelledAlike config := by
  obtain ⟨backendAddr, pathRules, hrules, hpaths⟩ := h.backendRules
  have hpattern : ∀ rule ∈ config.backendRules,
      rule.pattern = route.pattern.getD route.hostname := by
    intro rule hm
    rw [hrules] at hm
    rcases List.mem_cons.mp hm with rfl | hm
    · rfl
    · obtain ⟨pathRoute, -, hexpanded⟩ := exists_mem_of_forall₂ hpaths hm
      exact (expandPathRoute_resolves hexpanded).2.1
  intro rule hm fallback hfallback _ _ _
  rw [hpattern rule hm, hpattern fallback hfallback]

/-- The configurations of a multi-route file spell their patterns alike. -/
theorem spelledAlike_of_document {document : ClientConfigDocument} {configs : List ClientConfig}
    (h : documentConfigs document = .ok configs) {i : ℕ} {config : ClientConfig}
    (hi : configs[i]? = some config)
    (halike : ∀ written, document = .legacy written → SpelledAlike config) :
    SpelledAlike config := by
  cases document with
  | legacy written => exact halike written rfl
  | multiRoute file =>
    obtain ⟨route, -, hexpanded⟩ := exists_getElem?_of_forall₂ (documentConfigs_multiRoute h) hi
    exact spelledAlike_of_expanded hexpanded

/-- A valid configuration with a path rule terminates TLS and has a fallback. -/
theorem validateClientConfig_fallback {config : ClientConfig}
    (h : validateClientConfig config = .ok ()) {rule : BackendRule}
    (hm : rule ∈ config.backendRules) (hpath : rule.pathPrefix.isSome = true) :
    config.acme.isSome = true ∧ ∃ fallback ∈ config.backendRules, fallback.pathPrefix = none := by
  simp only [validateClientConfig, bind_eq_ok, ensure_eq_ok] at h
  obtain ⟨_, hacme, _, hcount, -⟩ := h
  have hpaths : (config.backendRules.any fun rule => rule.pathPrefix.isSome) = true :=
    List.any_eq_true.mpr ⟨rule, hm, hpath⟩
  rw [hpaths] at hacme hcount
  refine ⟨hacme, ?_⟩
  have hone : (config.backendRules.filter fun rule => rule.pathPrefix.isNone).length = 1 :=
    beq_iff_eq.mp hcount
  obtain ⟨fallback, hfallback⟩ := List.exists_mem_of_length_pos (by rw [hone]; exact Nat.one_pos)
  obtain ⟨hfound, hnone⟩ := List.mem_filter.mp hfallback
  exact ⟨fallback, hfound, Option.isNone_iff_eq_none.mp hnone⟩

/-- The rules of a started session with a certificate agree with its domain. -/
theorem startAcme_patterns {env : LoadEnv Key} {config : ClientConfig}
    {backends : List (BackendRuntime Key)} {acme : Option (AcmeRuntime Key)}
    {settings : ClientAcmeConfig} (h : startAcme env config backends = .ok acme)
    (hacme : config.acme = some settings) :
    ∀ backend ∈ backends, eqIgnoreAsciiCase backend.rule.pattern settings.domain = true := by
  rw [startAcme, hacme] at h
  simp only [bind_eq_ok, ensure_eq_ok] at h
  obtain ⟨_, -, _, hall, -⟩ := h
  exact List.all_eq_true.mp hall

/-- A claimed connection has a fallback. -/
theorem claimed_fallback {ext : Externals Key} {env : LoadEnv Key} {config : ClientConfig}
    {state : AppState Key} (hvalid : validateClientConfig config = .ok ())
    (hstart : processMessages ext env config = .ok state) (halike : SpelledAlike config)
    {hostname : Option String} {backend : BackendRuntime Key} (hm : backend ∈ state.backends)
    (hmatch : backend.matchesHostname hostname = true) :
    ∃ fallback, fallbackBackend state.backends hostname = some fallback := by
  obtain ⟨-, hacme, hbackends⟩ := processMessages_backends hstart
  have hfound : ∃ fallback ∈ state.backends, fallback.isFallback hostname = true := by
    by_cases hpath : backend.rule.pathPrefix = none
    · refine ⟨backend, hm, ?_⟩
      rw [BackendRuntime.isFallback, hmatch, hpath]
      rfl
    · obtain ⟨rule, hrule, hof⟩ := exists_mem_of_forall₂ hbackends hm
      have hprefix : rule.pathPrefix.isSome = true := by
        rw [← hof.1]
        exact Option.isSome_iff_ne_none.mpr hpath
      obtain ⟨hsome, fallbackRule, hfallback, hnone⟩ :=
        validateClientConfig_fallback hvalid hrule hprefix
      obtain ⟨settings, hsettings⟩ := Option.isSome_iff_exists.mp hsome
      have hpatterns := startAcme_patterns hacme hsettings
      obtain ⟨fallback, hfm, hfof⟩ := exists_mem_of_forall₂ hbackends.flip hfallback
      have hsame : eqIgnoreAsciiCase backend.rule.pattern fallback.rule.pattern = true := by
        have hleft := beq_iff_eq.mp (hpatterns backend hm)
        have hright := beq_iff_eq.mp (hpatterns fallback hfm)
        exact beq_iff_eq.mpr (hleft.trans hright.symm)
      have hfmatch : fallback.matchesHostname hostname = true := by
        by_cases hwild : startsWith backend.rule.pattern "*." = true
        · have hequal : fallback.rule.pattern = backend.rule.pattern := by
            rw [hfof.1, hof.1]
            rw [hof.1] at hwild
            exact halike rule hrule fallbackRule hfallback hprefix hnone hwild
          rw [BackendRuntime.matchesHostname, hequal]
          exact hmatch
        · exact matchesPattern_of_eqIgnoreAsciiCase hsame (Bool.not_eq_true _ ▸ hwild) hmatch
      refine ⟨fallback, hfm, ?_⟩
      rw [BackendRuntime.isFallback, hfmatch, hfof.1, hnone]
      rfl
  have hsome : (fallbackBackend state.backends hostname).isSome = true :=
    List.find?_isSome.mpr hfound
  exact Option.isSome_iff_exists.mp hsome

/-- The error of a request without backend. -/
def noMatchingBackend : AnyError := ["HTTP request has no matching backend"]

/-- A computation that does not fail for want of a backend. -/
def HasBackend {α : Type} (x : Except AnyError α) : Prop := x ≠ .error noMatchingBackend

/-- A value is no failure. -/
theorem hasBackend_ok {α : Type} (a : α) : HasBackend (.ok a) := by
  intro h
  cases h

/-- A sequence fails only as its parts do. -/
theorem HasBackend.bind {α β : Type} {x : Except AnyError α} {f : α → Except AnyError β}
    (hx : HasBackend x) (hf : ∀ a, HasBackend (f a)) : HasBackend (x >>= f) := by
  cases x with
  | error error =>
    intro h
    exact hx (congrArg Except.error (Except.error.inj h))
  | ok a => exact hf a

/-- A missing value fails with its own message. -/
theorem hasBackend_orMissing {α : Type} {message : String} (value : Option α)
    (h : message ≠ "HTTP request has no matching backend") :
    HasBackend (orMissing message value) := by
  cases value with
  | some a => exact hasBackend_ok a
  | none =>
    intro herror
    exact h (List.head_eq_of_cons_eq (Except.error.inj herror))

/-- Setting headers fails with messages about their values. -/
theorem hasBackend_setHeaders (headers : HeaderMap) (values : List (String × String)) :
    HasBackend (setHeaders headers values) := by
  induction values generalizing headers with
  | nil => exact hasBackend_ok headers
  | cons entry values ih =>
    obtain ⟨name, value⟩ := entry
    have hmessage : "invalid " ++ name ++ " value" ≠ "HTTP request has no matching backend" := by
      intro h
      have hhead := congrArg (fun s : String => s.toList.head?) h
      rw [String.toList_append, String.toList_append] at hhead
      have hletter : some 'i' = some 'H' := hhead
      exact absurd hletter (by decide)
    have hset : HasBackend (setHeader headers name value) :=
      HasBackend.bind (hasBackend_orMissing _ hmessage) fun encoded => hasBackend_ok _
    exact hset.bind fun set => ih set

/-- The target of a stripped rule fails with messages about its prefix. -/
theorem hasBackend_backendUri (rule : BackendRule) (uri : Uri) :
    HasBackend (backendUri rule uri) := by
  rw [backendUri]
  split
  · refine HasBackend.bind (hasBackend_orMissing _ (by decide)) fun pathPrefix => ?_
    exact HasBackend.bind (hasBackend_orMissing _ (by decide)) fun remainder => hasBackend_ok _
  · exact hasBackend_ok uri

/-- Preparing a request fails with messages about its headers. -/
theorem hasBackend_prepareRequest (request : Request) (rule : BackendRule)
    (clientIp : Option String) (scheme : String) (identity : Option AuthenticatedIdentity) :
    HasBackend (prepareRequest request rule clientIp scheme identity) := by
  have hproxy : ∀ headers originalHost,
      HasBackend (proxyHeaders rule headers clientIp scheme originalHost) := by
    intro headers originalHost
    rw [proxyHeaders]
    split
    · refine HasBackend.bind (hasBackend_setHeaders _ _) fun addressed => ?_
      exact HasBackend.bind (hasBackend_orMissing _ (by decide)) fun proto => hasBackend_ok _
    · exact hasBackend_ok headers
  have hhost : ∀ headers, HasBackend (backendHostHeader rule headers) := by
    intro headers
    rw [backendHostHeader]
    split
    · exact hasBackend_ok headers
    · exact HasBackend.bind (hasBackend_orMissing _ (by decide)) fun value => hasBackend_ok _
  refine HasBackend.bind (hasBackend_orMissing _ (by decide)) fun originalHost => ?_
  refine HasBackend.bind (hasBackend_setHeaders _ _) fun identified => ?_
  refine HasBackend.bind (hasBackend_backendUri rule request.uri) fun uri => ?_
  refine HasBackend.bind (hproxy identified originalHost) fun proxied => ?_
  exact HasBackend.bind (hhost proxied) fun headers => hasBackend_ok _

/-- Forwarding fails with messages about the redirect or the headers. -/
theorem hasBackend_forwardAction (request : Request) (backend : BackendRuntime Key)
    (clientIp : Option String) (scheme : String) (identity : Option AuthenticatedIdentity) :
    HasBackend (forwardAction request backend clientIp scheme identity) := by
  have hredirect : HasBackend (canonicalPrefixRedirect request.uri backend.rule) := by
    rw [canonicalPrefixRedirect]
    split
    · exact hasBackend_ok none
    · refine HasBackend.bind ?_ fun trimmed => ?_
      · exact HasBackend.bind (hasBackend_orMissing _ (by decide)) fun pathPrefix => hasBackend_ok _
      · rw [prefixRedirect]
        split
        · exact hasBackend_ok none
        · exact HasBackend.bind (hasBackend_orMissing _ (by decide)) fun target => hasBackend_ok _
  refine HasBackend.bind hredirect fun redirect => ?_
  cases redirect with
  | some response => exact hasBackend_ok _
  | none =>
    refine HasBackend.bind ?_ fun prepared => hasBackend_ok _
    exact hasBackend_prepareRequest request backend.rule clientIp scheme identity

/-- With a fallback for the hostname the proxy always finds a backend. -/
theorem hasBackend_handleRequestInner {backends : List (BackendRuntime Key)} {hostname : String}
    {fallback : BackendRuntime Key}
    (hfallback : fallbackBackend backends (some hostname) = some fallback) (ext : Externals Key)
    (world : World Key) (request : Request) (clientIp : Option String) (scheme : String) :
    HasBackend (handleRequestInner ext world request hostname clientIp scheme backends).result := by
  unfold handleRequestInner
  cases endpointAuthorizer backends request.uri.path with
  | some authorizer =>
    dsimp only
    cases (authorizer.authorize ext world request.method request.uri request.headers).result with
    | respond response => exact hasBackend_ok _
    | allow credential identity =>
      intro h
      exact absurd (Except.error.inj h) (by decide)
  | none =>
    have hm : fallback ∈ backends := List.mem_of_find?_eq_some hfallback
    have hserves : fallback.isFallback (some hostname) = true := by
      rw [fallbackBackend] at hfallback
      have hfound := List.find?_some hfallback
      exact hfound
    obtain ⟨selected, hselected⟩ := exists_selectRuntimeForPath hm hserves
    dsimp only
    rw [hselected]
    dsimp only
    cases selected.authorization with
    | none => exact hasBackend_forwardAction _ _ _ _ _
    | some authorizer =>
      dsimp only
      cases (authorizer.authorize ext world request.method request.uri request.headers).result with
      | respond response => exact hasBackend_ok _
      | allow credential identity => exact hasBackend_forwardAction _ _ _ _ _

/-- A connection that is handed over, proxied, relayed or rejected. -/
inductive Routed : Ending Key → Prop where
  | handoff (runtime : AcmeRuntime Key) : Routed (.handoff runtime)
  | serve (hostname scheme : String) : Routed (.handled (.serve hostname scheme))
  | relay (address : String) : Routed (.handled (.relay address))
  | reject : Routed (.handled .reject)

/-- Plaintext HTTP without a hostname. -/
def UnnamedHttp (connection : Connection Key) (request : ConnectionRequest) (state : AppState Key) :
    Prop :=
  request.hostname = none ∧ connectionIsPlaintextHttp connection.peeked
    (inspectsPlaintext state.backends state.acme state.config.tcpPassthrough) = .ok true

/-- A connection with a fallback is routed by the bridge itself, except for
inspected plaintext HTTP without a hostname. -/
theorem bridgePlaintext_routed {backends : List (BackendRuntime Key)}
    {request : ConnectionRequest} {fallback : BackendRuntime Key}
    (hfallback : fallbackBackend backends request.hostname = some fallback)
    {inspectHttp plaintextHttp tcpPassthrough : Bool}
    (hnamed : ¬ (request.hostname = none ∧ plaintextHttp = true)) :
    Routed (.handled (bridgePlaintext request backends inspectHttp plaintextHttp tcpPassthrough) :
      Ending Key) := by
  unfold bridgePlaintext
  rw [hfallback]
  split
  · exact .reject
  · dsimp only
    split
    · rename_i hinspected
      rw [Bool.and_eq_true] at hinspected
      cases hname : request.hostname with
      | none => exact absurd ⟨hname, hinspected.1⟩ hnamed
      | some hostname => exact .serve _ _
    · split
      · exact .relay _
      · exact .relay _

/-- Inspected plaintext HTTP without a hostname is refused as such. -/
theorem bridgePlaintext_unnamed {backends : List (BackendRuntime Key)}
    {request : ConnectionRequest} {fallback : BackendRuntime Key}
    (hfallback : fallbackBackend backends request.hostname = some fallback)
    (hname : request.hostname = none) (tcpPassthrough : Bool) :
    bridgePlaintext request backends true true tcpPassthrough =
      .fail ["HTTP request has no hostname"] := by
  rw [bridgePlaintext, hfallback, hname]
  rfl

/-- Bytes are only found to be HTTP when they are inspected. -/
theorem inspected_of_plaintextHttp {inspection : Inspection} {inspectHttp : Bool}
    (h : connectionIsPlaintextHttp inspection inspectHttp = .ok true) : inspectHttp = true := by
  cases inspectHttp with
  | true => rfl
  | false => cases h

/-- What the inspection of a connection whose network works leads to. -/
theorem bridgeEnding_cases {connection : Connection Key} (request : ConnectionRequest)
    (backends : List (BackendRuntime Key)) (acme : Option (AcmeRuntime Key))
    (tcpPassthrough : Bool) (hcallback : connection.callback = .ok ())
    (hpeek : ∀ error, connection.peeked ≠ .failed error) :
    ∃ plaintextHttp, connectionIsPlaintextHttp connection.peeked
        (inspectsPlaintext backends acme tcpPassthrough) = .ok plaintextHttp ∧
      ((∃ runtime, acme = some runtime ∧ plaintextHttp = false ∧
        bridgeEnding connection request backends acme tcpPassthrough = .handoff runtime) ∨
      bridgeEnding connection request backends acme tcpPassthrough = .handled
        (bridgePlaintext request backends (inspectsPlaintext backends acme tcpPassthrough)
          plaintextHttp tcpPassthrough)) := by
  have hknown : ∃ plaintextHttp, connectionIsPlaintextHttp connection.peeked
      (inspectsPlaintext backends acme tcpPassthrough) = .ok plaintextHttp := by
    unfold connectionIsPlaintextHttp
    split
    · exact ⟨false, rfl⟩
    · cases hpeeked : connection.peeked with
      | available bytes => exact ⟨_, rfl⟩
      | failed error => exact absurd hpeeked (hpeek error)
      | timedOut => exact ⟨false, rfl⟩
  obtain ⟨plaintextHttp, hplaintext⟩ := hknown
  refine ⟨plaintextHttp, hplaintext, ?_⟩
  rw [bridgeEnding, hcallback]
  dsimp only
  rw [hplaintext]
  cases acme with
  | none => exact .inr rfl
  | some runtime =>
    cases plaintextHttp with
    | false => exact .inl ⟨runtime, rfl, rfl, rfl⟩
    | true => exact .inr rfl

/-- A claimed connection is handed over, proxied, relayed or rejected whatever
its first bytes are, except that plaintext HTTP without a hostname is refused as
such; and the proxy finds a backend for every request that it reads. -/
theorem claimed_connection_routable {ext : Externals Key} {env : LoadEnv Key}
    {document : ClientConfigDocument} {configs : List ClientConfig}
    (hparse : parseClientConfigs document = .ok configs) {i : ℕ} {config : ClientConfig}
    (hi : configs[i]? = some config) {state : AppState Key}
    (hstart : processMessages ext env config = .ok state)
    (halike : ∀ written, document = .legacy written → SpelledAlike config)
    {request : ConnectionRequest} {ack : Except AnyError Bool} {connection : Connection Key}
    {ending : Ending Key}
    (hclaimed : handleRequest state (.ok request) ack connection = .bridged ending)
    (hcallback : connection.callback = .ok ())
    (hpeek : ∀ error, connection.peeked ≠ .failed error) :
    (¬ UnnamedHttp connection request state → Routed ending) ∧
    (UnnamedHttp connection request state →
      ending = .handled (.fail ["HTTP request has no hostname"])) ∧
    ∀ hostname scheme, ending.handling connection = .serve hostname scheme →
      ∀ world httpRequest clientIp, (handleRequestInner ext world httpRequest hostname clientIp
        scheme state.backends).result ≠ .error ["HTTP request has no matching backend"] := by
  obtain ⟨hconfigs, hvalid⟩ := parseClientConfigs_eq_ok.mp hparse
  obtain ⟨-, hacme, -⟩ := processMessages_backends hstart
  obtain ⟨⟨backend, hm, hmatch⟩, rfl⟩ := handleRequest_bridged hclaimed
  have hspelled := spelledAlike_of_document hconfigs hi halike
  obtain ⟨fallback, hfallback⟩ :=
    claimed_fallback (hvalid config (List.mem_of_getElem? hi)) hstart hspelled hm hmatch
  obtain ⟨plaintextHttp, hplaintext, hending⟩ := bridgeEnding_cases request state.backends
    state.acme state.config.tcpPassthrough hcallback hpeek
  rcases hending with ⟨runtime, hruntime, rfl, hhandoff⟩ | hhandled
  · rw [hhandoff]
    refine ⟨fun _ => .handoff runtime, ?_, ?_⟩
    · intro hunnamed
      cases hplaintext.symm.trans hunnamed.2
    · intro hostname scheme hserve world httpRequest clientIp
      rw [hruntime] at hacme
      have hshared := (startAcme_runtime hacme).2.1
      obtain ⟨-, -, -, found, hfound⟩ := bridgeTls_serve hserve
      rw [hshared] at hfound
      exact hasBackend_handleRequestInner hfound ext world httpRequest clientIp scheme
  · rw [hhandled]
    refine ⟨?_, ?_, ?_⟩
    · intro hnamed
      refine bridgePlaintext_routed hfallback ?_
      rintro ⟨hnone, rfl⟩
      exact hnamed ⟨hnone, hplaintext⟩
    · intro hunnamed
      cases hplaintext.symm.trans hunnamed.2
      rw [inspected_of_plaintextHttp hplaintext,
        bridgePlaintext_unnamed hfallback hunnamed.1]
    · intro hostname scheme hserve world httpRequest clientIp
      obtain ⟨-, -, -, found, hfound⟩ := bridgePlaintext_serve hserve
      exact hasBackend_handleRequestInner hfound ext world httpRequest clientIp scheme

/-- A flat file whose fallback and path rule have one wildcard pattern. -/
def wildcardConfig : ClientConfig :=
  { readerConfig true with
    acme := some ⟨"*.docs.example", [], "cache", false, none⟩
    backendRules := [
      ⟨"*.docs.example", none, false, true, ":8080", none, none, none⟩,
      ⟨"*.docs.example", some "/admin", false, true, ":9090", none, none, none⟩] }

/-- Its started session. -/
def wildcardState : AppState Unit :=
  let backends := wildcardConfig.backendRules.map fun rule => ⟨rule, none⟩
  ⟨wildcardConfig, some ⟨⟨"*.docs.example", [], "cache", false, none⟩, "cache/_.docs.example",
    backends, true⟩, backends⟩

/-- A connection whose first bytes are a text. -/
def textConnection (text : String) : Connection Unit :=
  { readerConnection with peeked := .available (ascii text) }

/-- A plaintext request below the wildcard is routed. -/
theorem claimed_connection_routable_wildcard :
    ∃ ending, handleRequest wildcardState (.ok ⟨some "a.docs.example", none, false⟩) (.ok true)
      (textConnection "GET /admin HTTP/1.1") = .bridged ending ∧ Routed ending := by
  have hparse : parseClientConfigs (.legacy wildcardConfig) = .ok [wildcardConfig] := by
    decide +kernel
  have hpattern : ∀ rule ∈ wildcardConfig.backendRules, rule.pattern = "*.docs.example" := by
    intro rule hm
    rcases List.mem_cons.mp hm with rfl | hm
    · rfl
    · rw [List.mem_singleton.mp hm]
  have halike : ∀ written, ClientConfigDocument.legacy wildcardConfig = .legacy written →
      SpelledAlike wildcardConfig := by
    intro written _ rule hm fallback hfallback _ _ _
    rw [hpattern rule hm, hpattern fallback hfallback]
  refine ⟨_, rfl, ?_⟩
  refine (@claimed_connection_routable Unit sampleExternals sampleEnv (.legacy wildcardConfig)
    [wildcardConfig] hparse 0 wildcardConfig rfl wildcardState rfl halike
    ⟨some "a.docs.example", none, false⟩ (.ok true) (textConnection "GET /admin HTTP/1.1") _ rfl
    rfl ?_).1 ?_
  · intro error h
    cases h
  · intro hunnamed
    cases hunnamed.1

/-- A flat file with the default pattern. -/
def unnamedConfig : ClientConfig :=
  { readerConfig true with
    acme := none
    backendRules := [⟨"", none, false, true, ":8080", none, none, none⟩] }

/-- Its started session. -/
def unnamedState : AppState Unit :=
  ⟨unnamedConfig, none, unnamedConfig.backendRules.map fun rule => ⟨rule, none⟩⟩

/-- A claimed request without a hostname whose first bytes are HTTP is not
routed. -/
theorem unnamed_http_refused :
    parseClientConfigs (.legacy unnamedConfig) = .ok [unnamedConfig] ∧
      processMessages sampleExternals sampleEnv unnamedConfig = .ok unnamedState ∧
      ∃ ending, handleRequest unnamedState (.ok ⟨none, none, false⟩) (.ok true)
          (textConnection "GET / HTTP/1.0") = .bridged ending ∧
        ending = .handled (.fail ["HTTP request has no hostname"]) ∧ ¬ Routed ending := by
  have hrefused : bridgeEnding (textConnection "GET / HTTP/1.0") ⟨none, none, false⟩
      unnamedState.backends unnamedState.acme unnamedState.config.tcpPassthrough =
      .handled (.fail ["HTTP request has no hostname"]) := rfl
  refine ⟨by decide +kernel, rfl, _, rfl, hrefused, ?_⟩
  rw [hrefused]
  intro hrouted
  cases hrouted

end LfpPipe.RoutableClaims
