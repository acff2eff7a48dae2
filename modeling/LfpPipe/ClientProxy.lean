import LfpPipe.ClientSession

/-!
# Request-level HTTP proxying for routed and authenticated backends

Translated from `client/src/http_proxy.rs`. The HTTP server and the backend
connection belong to other crates: a served connection is the sequence of
requests that the server reads from it, each with its own world. What is
decided here is which request is forwarded, to which backend and with which
headers.
-/

namespace LfpPipe.ClientProxy

open RustText Fallible SharedConfig ClientIdentity HttpMessages ClientAuthorizer ClientSession

variable {Key : Type}

/-- Headers that only the proxy may set. -/
def IDENTITY_HEADERS : List String :=
  ["x-forwarded-user", "x-forwarded-email", "x-forwarded-groups", "x-auth-request-user",
    "x-auth-request-email", "x-auth-request-groups", "x-auth-request-preferred-username",
    "x-authentik-uid", "x-authentik-username", "x-authentik-name", "x-authentik-email",
    "x-authentik-groups"]

/-- What is done with one request. -/
inductive RequestAction (Key : Type) where
  | respond (response : AuthResponse)
  | forward (backend : BackendRuntime Key) (prepared : Request)

/-- Size and time limits of the request head: the smallest of all policies. -/
def requestLimits (backends : List (BackendRuntime Key)) : ℕ × ℕ :=
  (backends.filterMap fun backend => backend.authorization).foldl
    (fun limits authorizer => (min limits.1 authorizer.config.maxHeaderBytes,
      min limits.2 authorizer.config.headerTimeoutMs)) (32 * 1024, 5000)

/-- The prefix of a rule without trailing slashes. -/
def requiredPrefix (rule : BackendRule) : Except AnyError String := do
  let pathPrefix ← orMissing "missing path_prefix" rule.pathPrefix
  .ok (trimEndMatches '/' pathPrefix)

/-- The redirect of the exact prefix to the prefix with a slash. -/
def prefixRedirect (uri : Uri) (trimmed : String) : Except AnyError (Option AuthResponse) :=
  if trimmed.isEmpty || trimmed == "/" || uri.path != trimmed then .ok none
  else do
    let location := match uri.query with
      | some query => trimmed ++ "/?" ++ query
      | none => trimmed ++ "/"
    let target ← orMissing "invalid canonical path redirect" (fromStr location)
    .ok (some ⟨308, HeaderMap.empty.insert "location" target, ""⟩)

/-- Keep relative browser URLs beneath a stripped path route. -/
def canonicalPrefixRedirect (uri : Uri) (rule : BackendRule) :
    Except AnyError (Option AuthResponse) :=
  if !rule.stripPathPrefix then .ok none else requiredPrefix rule >>= prefixRedirect uri

/-- The target below a prefix. -/
def stripUriPrefix (uri : Uri) (pathPrefix : String) : Except AnyError Uri := do
  let trimmed := trimEndMatches '/' pathPrefix
  let remainder ← orMissing "HTTP request path does not match configured prefix"
    ((stripStart uri.path trimmed).filter fun value => value.isEmpty || startsWith value "/")
  .ok ⟨if remainder.isEmpty then "/" else remainder, uri.query⟩

/-- The target that the backend sees. -/
def backendUri (rule : BackendRule) (uri : Uri) : Except AnyError Uri :=
  if rule.stripPathPrefix then
    orMissing "missing path_prefix" rule.pathPrefix >>= stripUriPrefix uri
  else .ok uri

/-- Drop every value of the named headers. -/
def removeAll (headers : HeaderMap) (names : List String) : HeaderMap :=
  names.foldl HeaderMap.remove headers

/-- Replace one header by a text. -/
def setHeader (headers : HeaderMap) (name value : String) : Except AnyError HeaderMap := do
  let encoded ← orMissing ("invalid " ++ name ++ " value") (fromStr value)
  .ok (headers.insert name encoded)

/-- Replace headers one after another. -/
def setHeaders (headers : HeaderMap) : List (String × String) → Except AnyError HeaderMap
  | [] => .ok headers
  | (name, value) :: rest => setHeader headers name value >>= fun set => setHeaders set rest

/-- The headers of a verified identity, in the order in which they are set. -/
def identityHeaders (identity : AuthenticatedIdentity) : List (String × String) :=
  [("x-forwarded-user", identity.username), ("x-auth-request-user", identity.username),
    ("x-auth-request-preferred-username", identity.username),
    ("x-authentik-uid", identity.subject), ("x-authentik-username", identity.username),
    ("x-authentik-name", identity.name.getD identity.username)] ++
  (match identity.email with
    | some email => [("x-forwarded-email", email), ("x-auth-request-email", email),
        ("x-authentik-email", email)]
    | none => []) ++
  (if identity.groups.isEmpty then []
    else [("x-forwarded-groups", String.intercalate "," identity.groups),
      ("x-auth-request-groups", String.intercalate "," identity.groups),
      ("x-authentik-groups", String.intercalate "|" identity.groups)])

/-- Headers that describe the tunnel connection. -/
def FORWARDING_HEADERS : List String :=
  ["forwarded", "x-forwarded-for", "x-forwarded-proto", "x-forwarded-host"]

/-- Replace the forwarding headers by trusted ones. -/
def setForwardingHeaders (headers : HeaderMap) (clientIp : Option String) (scheme : String)
    (originalHost : HeaderValue) : Except AnyError HeaderMap := do
  let addressed ← setHeaders (removeAll headers FORWARDING_HEADERS)
    ((clientIp.filter fun value => !isBlank value).toList.map fun value =>
      ("x-forwarded-for", value))
  let proto ← orMissing "invalid forwarded scheme" (fromStr scheme)
  let named := (addressed.insert "x-forwarded-proto" proto).insert "x-forwarded-host" originalHost
  .ok (if named.containsKey "accept-encoding" then named
    else named.insert "accept-encoding" (ascii "gzip"))

/-- Forwarding headers of rules that ask for them. -/
def proxyHeaders (rule : BackendRule) (headers : HeaderMap) (clientIp : Option String)
    (scheme : String) (originalHost : HeaderValue) : Except AnyError HeaderMap :=
  if rule.proxyHeaders then setForwardingHeaders headers clientIp scheme originalHost
  else .ok headers

/-- The host header that the backend sees. -/
def backendHostHeader (rule : BackendRule) (headers : HeaderMap) : Except AnyError HeaderMap :=
  match rule.backendHost with
  | none => .ok headers
  | some host => do
    let value ← orMissing "invalid backend Host header" (fromStr host)
    .ok (headers.insert "host" value)

/-- The request as the backend receives it. -/
def prepareRequest (request : Request) (rule : BackendRule) (clientIp : Option String)
    (scheme : String) (identity : Option AuthenticatedIdentity) : Except AnyError Request := do
  let originalHost ← orMissing "HTTP request must contain a Host header"
    (request.headers.get "host")
  let identified ← setHeaders (removeAll request.headers IDENTITY_HEADERS)
    ((identity.map identityHeaders).getD [])
  let uri ← backendUri rule request.uri
  let proxied ← proxyHeaders rule identified clientIp scheme originalHost
  let headers ← backendHostHeader rule proxied
  .ok ⟨request.method, uri, headers⟩

/-- The authorizer that owns a reserved endpoint. -/
def endpointAuthorizer (backends : List (BackendRuntime Key)) (path : String) :
    Option (Authorizer Key) :=
  (backends.filterMap fun backend => backend.authorization).find? fun authorizer =>
    authorizer.handlesEndpoint path

/-- Redirect to the canonical prefix, or prepare the request for its backend. -/
def forwardAction (request : Request) (backend : BackendRuntime Key) (clientIp : Option String)
    (scheme : String) (identity : Option AuthenticatedIdentity) :
    Except AnyError (RequestAction Key) := do
  let redirect ← canonicalPrefixRedirect request.uri backend.rule
  match redirect with
  | some response => .ok (.respond response)
  | none => do
    let prepared ← prepareRequest request backend.rule clientIp scheme identity
    .ok (.forward backend prepared)

/-- The request of an allowed caller: the bearer token goes no further
unless the policy says so. -/
def withoutAuthorization (authorizer : Authorizer Key) (request : Request) : Request :=
  if authorizer.config.forwardAuthorization then request
  else { request with headers := request.headers.remove "authorization" }

/-- Decide about one request: reserved endpoints first, then the policy of
the selected backend. -/
def handleRequestInner (ext : Externals Key) (world : World Key) (request : Request)
    (hostname : String) (clientIp : Option String) (scheme : String)
    (backends : List (BackendRuntime Key)) : Outcome Key (Except AnyError (RequestAction Key)) :=
  match endpointAuthorizer backends request.uri.path with
  | some authorizer =>
    let decided := authorizer.authorize ext world request.method request.uri request.headers
    match decided.result with
    | .respond response => ⟨.ok (.respond response), decided.created⟩
    | .allow _ _ => ⟨.error ["OIDC endpoint was not handled"], decided.created⟩
  | none =>
    match selectRuntimeForPath backends (some hostname) request.uri.path with
    | none => ⟨.error ["HTTP request has no matching backend"], []⟩
    | some backend =>
      match backend.authorization with
      | none => ⟨forwardAction request backend clientIp scheme none, []⟩
      | some authorizer =>
        let decided := authorizer.authorize ext world request.method request.uri request.headers
        match decided.result with
        | .respond response => ⟨.ok (.respond response), decided.created⟩
        | .allow _ identity =>
          ⟨forwardAction (withoutAuthorization authorizer request) backend clientIp scheme identity,
            decided.created⟩

/-- A fixed JSON error of the proxy itself. -/
def errorResponse (status : ℕ) (message : String) : AuthResponse :=
  ⟨status, HeaderMap.empty.insert "content-type" (ascii "application/json"),
    "\x7b\"error\":\"" ++ message ++ "\"\x7d\n"⟩

/-- How a request is answered: locally, or by a dialed backend. -/
inductive Answer (Key : Type) where
  | local (response : AuthResponse)
  | dial (backend : BackendRuntime Key) (prepared : Request) (address : String)

/-- Answer one request; a failure is a bad gateway. -/
def handleRequest (ext : Externals Key) (world : World Key) (request : Request)
    (hostname : String) (clientIp : Option String) (scheme : String)
    (backends : List (BackendRuntime Key)) : Outcome Key (Answer Key) :=
  let handled := handleRequestInner ext world request hostname clientIp scheme backends
  match handled.result with
  | .ok (.respond response) => ⟨.local response, handled.created⟩
  | .ok (.forward backend prepared) =>
    ⟨.dial backend prepared backend.rule.resolvedHttpBackendAddr, handled.created⟩
  | .error _ => ⟨.local (errorResponse 502 "bad gateway"), handled.created⟩

/-- One request that the server reads from a connection, with its world. -/
structure Exchange (Key : Type) where
  /-- Time, randomness and provider answers. -/
  world : World Key
  /-- The parsed request. -/
  request : Request

/-- The requests that the HTTP server reads from one connection under limits
of the request head. -/
abbrev Server (Key : Type) := ℕ × ℕ → List (Exchange Key)

/-- Answer the requests of one kept-alive connection, each on its own. -/
def serve (ext : Externals Key) (server : Server Key) (hostname : String)
    (clientIp : Option String) (scheme : String) (backends : List (BackendRuntime Key)) :
    List (Exchange Key × Outcome Key (Answer Key)) :=
  (server (requestLimits backends)).map fun exchange => (exchange,
    handleRequest ext exchange.world exchange.request hostname clientIp scheme backends)

/-- No reserved path of a loaded browser policy. -/
def NotReserved (backends : List (BackendRuntime Key)) (path : String) : Prop :=
  ∀ backend ∈ backends, ∀ authorizer, backend.authorization = some authorizer →
    authorizer.oidc.isSome = true →
      path ≠ authorizer.config.oidcCallbackPath ∧ path ≠ authorizer.config.oidcLogoutPath

/-- Why a request may be forwarded to a backend: it selects that backend,
its path is not reserved, a policy of the backend allowed it, and what is
forwarded is this request, prepared for the caller that the policy allowed. -/
structure Mediated (ext : Externals Key) (exchange : Exchange Key) (hostname : String)
    (clientIp : Option String) (scheme : String) (backends : List (BackendRuntime Key))
    (backend : BackendRuntime Key) (prepared : Request) : Prop where
  /-- The backend is the selected one. -/
  selected :
    selectRuntimeForPath backends (some hostname) exchange.request.uri.path = some backend
  /-- The path is no reserved endpoint. -/
  notReserved : NotReserved backends exchange.request.uri.path
  /-- Without a policy the request itself is prepared. -/
  unprotected : backend.authorization = none →
    prepareRequest exchange.request backend.rule clientIp scheme none = .ok prepared
  /-- The policy of the backend allowed this request. -/
  allowed : ∀ authorizer, backend.authorization = some authorizer →
    ∃ credential identity, (authorizer.authorize ext exchange.world exchange.request.method
        exchange.request.uri exchange.request.headers).result = .allow credential identity ∧
      prepareRequest (withoutAuthorization authorizer exchange.request) backend.rule clientIp
        scheme identity = .ok prepared

/-- A path without an endpoint authorizer is not reserved. -/
theorem notReserved_of_endpointAuthorizer {backends : List (BackendRuntime Key)} {path : String}
    (h : endpointAuthorizer backends path = none) : NotReserved backends path := by
  intro backend hm authorizer ha hoidc
  have hmem : authorizer ∈ backends.filterMap fun backend => backend.authorization :=
    List.mem_filterMap.mpr ⟨backend, hm, ha⟩
  have hnot := List.find?_eq_none.mp h authorizer hmem
  rw [Authorizer.handlesEndpoint, hoidc] at hnot
  simpa using hnot

/-- Only the given backend is forwarded to, and only a prepared request. -/
theorem forwardAction_forward {request prepared : Request} {backend target : BackendRuntime Key}
    {clientIp : Option String} {scheme : String} {identity : Option AuthenticatedIdentity}
    (h : forwardAction request backend clientIp scheme identity = .ok (.forward target prepared)) :
    target = backend ∧
      prepareRequest request backend.rule clientIp scheme identity = .ok prepared := by
  simp only [forwardAction, bind_eq_ok] at h
  obtain ⟨redirect, -, h⟩ := h
  cases redirect with
  | some response => cases h
  | none =>
    simp only [bind_eq_ok, Except.ok.injEq, RequestAction.forward.injEq] at h
    obtain ⟨ready, hready, rfl, rfl⟩ := h
    exact ⟨rfl, hready⟩

/-- Every forwarded request is mediated. -/
theorem handleRequestInner_forward {ext : Externals Key} {exchange : Exchange Key}
    {hostname : String} {clientIp : Option String} {scheme : String}
    {backends : List (BackendRuntime Key)} {backend : BackendRuntime Key} {prepared : Request}
    (h : (handleRequestInner ext exchange.world exchange.request hostname clientIp scheme
      backends).result = .ok (.forward backend prepared)) :
    Mediated ext exchange hostname clientIp scheme backends backend prepared := by
  unfold handleRequestInner at h
  cases he : endpointAuthorizer backends exchange.request.uri.path with
  | some authorizer =>
    rw [he] at h
    dsimp only at h
    split at h <;> cases h
  | none =>
    rw [he] at h
    have hreserved := notReserved_of_endpointAuthorizer he
    cases hs : selectRuntimeForPath backends (some hostname) exchange.request.uri.path with
    | none =>
      rw [hs] at h
      cases h
    | some selected =>
      rw [hs] at h
      dsimp only at h
      cases ha : selected.authorization with
      | none =>
        rw [ha] at h
        obtain ⟨rfl, hprepared⟩ := forwardAction_forward h
        refine ⟨hs, hreserved, fun _ => hprepared, ?_⟩
        intro own hown
        rw [ha] at hown
        cases hown
      | some authorizer =>
        rw [ha] at h
        dsimp only at h
        split at h
        · cases h
        · next credential identity hallow =>
          obtain ⟨rfl, hprepared⟩ := forwardAction_forward h
          refine ⟨hs, hreserved, ?_, ?_⟩
          · intro hnone
            rw [ha] at hnone
            cases hnone
          · intro own hown
            rw [ha] at hown
            cases hown
            exact ⟨credential, identity, hallow, hprepared⟩

/-- Every dial of a served connection is a forwarded, mediated request. -/
theorem serve_dial {ext : Externals Key} {server : Server Key} {hostname : String}
    {clientIp : Option String} {scheme : String} {backends : List (BackendRuntime Key)}
    {exchange : Exchange Key} {answer : Outcome Key (Answer Key)} {backend : BackendRuntime Key}
    {prepared : Request} {address : String}
    (hm : (exchange, answer) ∈ serve ext server hostname clientIp scheme backends)
    (hd : answer.result = .dial backend prepared address) :
    (handleRequestInner ext exchange.world exchange.request hostname clientIp scheme
      backends).result = .ok (.forward backend prepared) ∧
    address = backend.rule.resolvedHttpBackendAddr := by
  obtain ⟨read, -, heq⟩ := List.mem_map.mp hm
  cases heq
  unfold handleRequest at hd
  dsimp only at hd
  split at hd
  · cases hd
  · next target ready hforward =>
    cases hd
    exact ⟨hforward, rfl⟩
  · cases hd

end LfpPipe.ClientProxy
