import Mathlib.Algebra.Group.Nat.Defs
import LfpPipe.ClientIdentity
import LfpPipe.HttpMessages

/-!
# Request authorization of one backend policy

Bearer and browser-session authorization, translated from
`client/src/authorization.rs`. Cookie encryption, serialization, URL query
decoding and the identity provider belong to other crates and services; they
are parameters. Time, random values and provider answers of one request are
its world. Every private cookie that a request creates is reported together
with the claims it came from, so that runs can be reasoned about.
-/

namespace LfpPipe.ClientAuthorizer

open RustText Fallible SharedConfig ClientIdentity HttpMessages

/-- A signature algorithm; only the symmetric ones are told apart. -/
inductive Algorithm where
  | HS256
  | HS384
  | HS512
  | asymmetric (name : String)
  deriving DecidableEq, Repr

/-- Login state kept by the browser between redirect and callback. -/
structure OidcFlow where
  /-- Anti-forgery value. -/
  state : String
  /-- Value expected in the identity token. -/
  nonce : String
  /-- Proof key of the code exchange. -/
  pkceVerifier : String
  /-- Page to return to. -/
  returnTo : String
  /-- Expiry in seconds. -/
  expiresUnix : ℕ
  deriving DecidableEq, Repr

/-- Functions of the external crates. -/
structure Externals (Key : Type) where
  /-- Encrypt a cookie value under a key, a name and fresh randomness. -/
  encrypt : Key → String → String → ℕ → String
  /-- Decrypt a cookie value under a key and a name. -/
  decrypt : Key → String → String → Option String
  /-- The header text of a cookie with its attributes and lifetime. -/
  renderCookie : String → String → ℕ → String
  /-- Serialize a login state. -/
  encodeFlow : OidcFlow → String
  /-- Read a login state back. -/
  decodeFlow : String → Except AnyError OidcFlow
  /-- Serialize a session identity. -/
  encodeIdentity : AuthenticatedIdentity → String
  /-- Read a session identity back. -/
  decodeIdentity : String → Except AnyError AuthenticatedIdentity
  /-- Decode a query into its pairs in order. -/
  parseQuery : String → List (String × String)
  /-- Sixteen hexadecimal digits of the hash of issuer, client and hostname. -/
  cookieNamespace : String → Option String → String → String
  /-- Parse an algorithm name. -/
  algorithmFromStr : String → Option Algorithm

/-- File-system and network answers while policies are loaded. -/
structure LoadEnv (Key : Type) where
  /-- Expand a leading home directory. -/
  expandHome : String → Except AnyError String
  /-- Read a secret file. -/
  readToString : String → Except AnyError String
  /-- Discover a provider and report the issuer that it names. -/
  discover : String → Except AnyError String
  /-- Read or create the cookie key at a path. -/
  loadOrCreateCookieKey : String → Except AnyError Key
  /-- Fetch the verification keys, or read a usable cache. -/
  loadKeys : ClientAuthorizationConfig → Except AnyError Unit
  /-- Create a private cache directory. -/
  prepareCacheDir : String → Except AnyError Unit

/-- A loaded bearer verifier. -/
structure JwtAuthorizer where
  /-- Its policy, with the cache path expanded. -/
  config : ClientAuthorizationConfig
  /-- Parsed algorithm allowlist. -/
  algorithms : List Algorithm

/-- A loaded browser login. -/
structure OidcAuthorizer (Key : Type) where
  /-- Its policy. -/
  config : ClientAuthorizationConfig
  /-- Public hostname of the route. -/
  hostname : String
  /-- Secret of a confidential client. -/
  clientSecret : Option String
  /-- Key of its private cookies. -/
  cookieKey : Key
  /-- Name of the login-state cookie. -/
  flowCookie : String
  /-- Name of the session cookie. -/
  sessionCookie : String

/-- A loaded policy. -/
structure Authorizer (Key : Type) where
  /-- The policy as configured. -/
  config : ClientAuthorizationConfig
  /-- Bearer verifier, when active. -/
  bearer : Option JwtAuthorizer
  /-- Browser login, when active. -/
  oidc : Option (OidcAuthorizer Key)

/-- Time, randomness and provider answers of one request. -/
structure World (Key : Type) where
  /-- Current time in seconds. -/
  now : ℕ
  /-- Fresh anti-forgery value. -/
  freshState : String
  /-- Fresh token nonce. -/
  freshNonce : String
  /-- Fresh proof key. -/
  freshVerifier : String
  /-- Fresh encryption randomness. -/
  freshCookie : ℕ
  /-- Login page address of the provider, or why it cannot be built. -/
  authorizeUrl : OidcAuthorizer Key → Except AnyError String
  /-- Exchange a code and verify the identity token and its access-token
  hash for a login state; the answer is the verified claims. -/
  exchangeCode : OidcAuthorizer Key → String → OidcFlow → Except AnyError Value
  /-- Verify a bearer token up to and including its registered claims. -/
  decodeToken : JwtAuthorizer → String → Except AnyError Value

/-- Where a private cookie came from. -/
inductive Origin where
  | flow
  | session (policy : ClientAuthorizationConfig) (claims : Value)

/-- One private cookie that was created. -/
structure PrivateCookie (Key : Type) where
  /-- Key it was encrypted under. -/
  key : Key
  /-- Name it was encrypted under. -/
  name : String
  /-- Its content. -/
  plaintext : String
  /-- Its encrypted value. -/
  value : String
  /-- What it was created for. -/
  origin : Origin

/-- A result with the private cookies created on the way. -/
structure Outcome (Key α : Type) where
  /-- The result. -/
  result : α
  /-- Created cookies. -/
  created : List (PrivateCookie Key)

/-- The credential that allowed a request. -/
inductive Credential where
  | bearer
  | session
  deriving DecidableEq, Repr

/-- Result of applying a policy to one request. -/
inductive AuthorizationDecision where
  | allow (credential : Credential) (identity : Option AuthenticatedIdentity)
  | respond (response : AuthResponse)

variable {Key : Type}

/-- Addition of unsigned 64-bit values that stops at the largest one. -/
def saturatingAdd (left right : ℕ) : ℕ := min (left + right) (2 ^ 64 - 1)

/-- Only asymmetric algorithms may be allowed. -/
def parseAlgorithm (ext : Externals Key) (value : String) : Except AnyError Algorithm := do
  let algorithm ← orMissing ("unsupported JWT algorithm " ++ value) (ext.algorithmFromStr value)
  ensure (algorithm != .HS256 && algorithm != .HS384 && algorithm != .HS512)
    "symmetric JWT algorithms are not accepted for JWKS authorization"
  .ok algorithm

/-- Load a bearer verifier. -/
def JwtAuthorizer.load (ext : Externals Key) (env : LoadEnv Key)
    (config : ClientAuthorizationConfig) : Except AnyError JwtAuthorizer := do
  let cacheFile ← env.expandHome config.jwksCacheFile
  let expanded := { config with jwksCacheFile := cacheFile }
  let algorithms ← collect (parseAlgorithm ext) config.algorithms
  ensure (!algorithms.isEmpty) "JWT algorithm allowlist cannot be empty"
  env.loadKeys expanded
  .ok ⟨expanded, algorithms⟩

/-- Read the client secret of a confidential client. -/
def loadClientSecret (env : LoadEnv Key) (config : ClientAuthorizationConfig) :
    Except AnyError (Option String) :=
  match config.oidcClientSecretFile.filter fun path => !isBlank path with
  | none => .ok none
  | some path => do
    let secretPath ← env.expandHome path
    let raw ← withContext ("read OIDC client secret " ++ secretPath) (env.readToString secretPath)
    let secret := trim raw
    ensure (!secret.isEmpty) "OIDC client secret file is empty"
    .ok (some secret)

/-- Load a browser login. Cookie names depend on the issuer, the client and
the hostname only; the key depends on the key file only. -/
def OidcAuthorizer.load (ext : Externals Key) (env : LoadEnv Key)
    (config : ClientAuthorizationConfig) (hostname : String) :
    Except AnyError (OidcAuthorizer Key) := do
  let clientSecret ← loadClientSecret env config
  let issuer ← withContext "discover OIDC provider" (env.discover config.issuer)
  ensure (issuer == config.issuer) "OIDC discovery issuer does not exactly match configuration"
  let keyPath ← env.expandHome config.oidcSessionKeyFile
  let cookieKey ← env.loadOrCreateCookieKey keyPath
  let suffix := ext.cookieNamespace config.issuer config.oidcClientId hostname
  .ok ⟨config, hostname, clientSecret, cookieKey, "__Host-lfp_flow_" ++ suffix,
    "__Host-lfp_session_" ++ suffix⟩

/-- Load a fallible part only when it is active. -/
def loadWhen {α : Type} (active : Bool) (load : Except AnyError α) : Except AnyError (Option α) :=
  if active then load >>= fun value => .ok (some value) else .ok none

/-- Load a policy with the methods that it enables. -/
def Authorizer.load (ext : Externals Key) (env : LoadEnv Key)
    (config : ClientAuthorizationConfig) (hostname : String) :
    Except AnyError (Authorizer Key) := do
  let bearer ← loadWhen config.bearerEnabled (JwtAuthorizer.load ext env config)
  let oidc ← loadWhen config.oidcEnabled (OidcAuthorizer.load ext env config hostname)
  .ok ⟨config, bearer, oidc⟩

/-- Whether a path is one of the reserved endpoints of the policy. -/
def Authorizer.handlesEndpoint (authorizer : Authorizer Key) (path : String) : Bool :=
  authorizer.oidc.isSome &&
    (path == authorizer.config.oidcCallbackPath || path == authorizer.config.oidcLogoutPath)

/-- Value of the first cookie with the name, over all readable headers. -/
def requestCookie (headers : HeaderMap) (name : String) : Option String :=
  (((headers.getAll "cookie").filterMap toStr).flatMap (split ';')).findSome? fun pair =>
    match splitOnce '=' (trim pair) with
    | some (candidate, value) => if candidate = name then some value else none
    | none => none

/-- A return target on the same origin, or the root. -/
def safeReturnTo (uri : Uri) : String :=
  let value := uri.pathAndQuery.getD "/"
  if startsWith value "/" && !startsWith value "//" && value.utf8ByteSize ≤ 1024 then value
  else "/"

/-- A header that deletes a cookie. -/
def clearCookie (name : String) : String :=
  name ++ "=; Path=/; HttpOnly; SameSite=Lax; Secure; Max-Age=0"

/-- Add one cookie header per cookie. -/
def appendCookies (headers : HeaderMap) : List String → Except AnyError HeaderMap
  | [] => .ok headers
  | cookie :: rest => do
    let value ← orMissing "invalid Set-Cookie value" (fromStr cookie)
    appendCookies (headers.append "set-cookie" value) rest

/-- A redirect with cookies. -/
def redirectResponse (status : ℕ) (location : String) (cookies : List String) :
    Except AnyError AuthResponse := do
  let target ← orMissing "invalid redirect location" (fromStr location)
  let headers ← appendCookies ((HeaderMap.empty.insert "location" target).insert
    "cache-control" (ascii "no-store")) cookies
  .ok ⟨status, headers, ""⟩

/-- Encrypt a value into a cookie of at most 4096 bytes. -/
def OidcAuthorizer.encryptCookie (ext : Externals Key) (world : World Key)
    (oidc : OidcAuthorizer Key) (name plaintext : String) (maxAgeSeconds : ℕ) (origin : Origin) :
    Except AnyError (String × PrivateCookie Key) := do
  let value := ext.encrypt oidc.cookieKey name plaintext world.freshCookie
  let output := ext.renderCookie name value maxAgeSeconds
  ensure (output.utf8ByteSize ≤ 4096) "encrypted OIDC cookie exceeds 4096 bytes"
  .ok (output, ⟨oidc.cookieKey, name, plaintext, value, origin⟩)

/-- Decrypt and decode a cookie of the request. -/
def OidcAuthorizer.decryptCookie {α : Type} (ext : Externals Key) (oidc : OidcAuthorizer Key)
    (decode : String → Except AnyError α) (headers : HeaderMap) (name : String) :
    Except AnyError (Option α) :=
  match requestCookie headers name with
  | none => .ok none
  | some raw =>
    match ext.decrypt oidc.cookieKey name raw with
    | none => .ok none
    | some plaintext => decode plaintext >>= fun value => .ok (some value)

/-- The identity of a browser session that has not expired. -/
def OidcAuthorizer.session (ext : Externals Key) (world : World Key) (oidc : OidcAuthorizer Key)
    (headers : HeaderMap) : Except AnyError (Option AuthenticatedIdentity) := do
  let identity ← oidc.decryptCookie ext ext.decodeIdentity headers oidc.sessionCookie
  match identity with
  | none => .ok none
  | some identity => if identity.expiresUnix ≤ world.now then .ok none else .ok (some identity)

/-- Start a login: remember the flow in a cookie and redirect. -/
def OidcAuthorizer.loginInner (ext : Externals Key) (world : World Key)
    (oidc : OidcAuthorizer Key) (uri : Uri) :
    Except AnyError (AuthResponse × PrivateCookie Key) := do
  let url ← world.authorizeUrl oidc
  let flow : OidcFlow := ⟨world.freshState, world.freshNonce, world.freshVerifier,
    safeReturnTo uri, saturatingAdd world.now (10 * 60)⟩
  let (cookie, created) ←
    oidc.encryptCookie ext world oidc.flowCookie (ext.encodeFlow flow) (10 * 60) .flow
  let response ← redirectResponse 302 url [cookie]
  .ok (response, created)

/-- Start a login; a failure is an internal error. -/
def OidcAuthorizer.login (ext : Externals Key) (world : World Key) (oidc : OidcAuthorizer Key)
    (uri : Uri) : Outcome Key AuthResponse :=
  match oidc.loginInner ext world uri with
  | .ok (response, created) => ⟨response, [created]⟩
  | .error _ => ⟨internalErrorResponse, []⟩

/-- The last value of a query parameter. -/
def queryParam (ext : Externals Key) (query key : String) : Option String :=
  (ext.parseQuery query).reverse.lookup key

/-- The denied roles of a callback are an ordinary error there. -/
def rolesOrError (claims : Value) (policy : ClientAuthorizationConfig) : Except AnyError Unit :=
  match validateRoles claims policy with
  | .ok () => .ok ()
  | .error (.unauthorized error) => .error error
  | .error (.forbidden error) => .error error

/-- Finish a login: check the flow, exchange the code, check the roles and
create the session cookie. -/
def OidcAuthorizer.callbackInner (ext : Externals Key) (world : World Key)
    (oidc : OidcAuthorizer Key) (uri : Uri) (headers : HeaderMap) :
    Except AnyError (AuthResponse × PrivateCookie Key) := do
  let found ← oidc.decryptCookie ext ext.decodeFlow headers oidc.flowCookie
  let flow ← orMissing "OIDC flow cookie is missing or invalid" found
  ensure (world.now < flow.expiresUnix) "OIDC flow expired"
  let query ← orMissing "OIDC callback query is missing" uri.query
  ensure (queryParam ext query "error").isNone "OIDC provider returned an error"
  let state ← orMissing "OIDC state is missing" (queryParam ext query "state")
  ensure (state == flow.state) "OIDC state does not match"
  let code ← orMissing "OIDC code is missing" (queryParam ext query "code")
  let claims ← world.exchangeCode oidc code flow
  rolesOrError claims oidc.config
  let verified ← identityFromClaims claims oidc.config.rolesClaim
  let identity := { verified with
    expiresUnix := saturatingAdd world.now oidc.config.oidcSessionTtlSeconds }
  let (session, created) ← oidc.encryptCookie ext world oidc.sessionCookie
    (ext.encodeIdentity identity) oidc.config.oidcSessionTtlSeconds (.session oidc.config claims)
  let response ← redirectResponse 303 flow.returnTo [session, clearCookie oidc.flowCookie]
  .ok (response, created)

/-- Finish a login; a failure is unauthorized. -/
def OidcAuthorizer.callback (ext : Externals Key) (world : World Key) (oidc : OidcAuthorizer Key)
    (method : String) (uri : Uri) (headers : HeaderMap) : Outcome Key AuthResponse :=
  if method ≠ "GET" then ⟨methodNotAllowedResponse, []⟩
  else
    match oidc.callbackInner ext world uri headers with
    | .ok (response, created) => ⟨response, [created]⟩
    | .error _ => ⟨unauthorizedResponse, []⟩

/-- Delete both cookies and go to the root. -/
def OidcAuthorizer.logout (oidc : OidcAuthorizer Key) (method : String) : AuthResponse :=
  if method ≠ "GET" ∧ method ≠ "POST" then methodNotAllowedResponse
  else
    match redirectResponse 303 "/"
        [clearCookie oidc.sessionCookie, clearCookie oidc.flowCookie] with
    | .ok response => response
    | .error _ => internalErrorResponse

/-- Verify a bearer token and its roles. -/
def JwtAuthorizer.authorizeToken (world : World Key) (bearer : JwtAuthorizer) (token : String) :
    Except Denial Value :=
  match world.decodeToken bearer token with
  | .error error => .error (.unauthorized error)
  | .ok claims => validateRoles claims bearer.config >>= fun _ => .ok claims

/-- Read the first authorization header as a bearer token and verify it. -/
def JwtAuthorizer.authorizeHeaders (world : World Key) (bearer : JwtAuthorizer)
    (headers : HeaderMap) : Except Denial Value :=
  match headers.get "authorization" with
  | none => .error (.unauthorized ["Authorization header is required"])
  | some raw =>
    match toStr raw with
    | none => .error (.unauthorized ["Authorization header is invalid"])
    | some value =>
      match splitOnce ' ' (trim value) with
      | none => .error (.unauthorized ["Authorization header must use Bearer"])
      | some (scheme, token) =>
        if !eqIgnoreAsciiCase scheme "Bearer" || isBlank token then
          .error (.unauthorized ["Authorization header must use Bearer"])
        else bearer.authorizeToken world (trim token)

/-- Authorization by header, or else by browser session. -/
def Authorizer.authorizeCredentials (ext : Externals Key) (world : World Key)
    (authorizer : Authorizer Key) (uri : Uri) (headers : HeaderMap) :
    Outcome Key AuthorizationDecision :=
  if headers.containsKey "authorization" then
    match authorizer.bearer with
    | none => ⟨.respond unauthorizedResponse, []⟩
    | some bearer =>
      match bearer.authorizeHeaders world headers with
      | .ok claims =>
        ⟨.allow .bearer (identityFromClaims claims authorizer.config.rolesClaim).toOption, []⟩
      | .error (.forbidden _) => ⟨.respond forbiddenResponse, []⟩
      | .error (.unauthorized _) => ⟨.respond unauthorizedResponse, []⟩
  else
    match authorizer.oidc with
    | none => ⟨.respond unauthorizedResponse, []⟩
    | some oidc =>
      match oidc.session ext world headers with
      | .ok (some identity) => ⟨.allow .session (some identity), []⟩
      | .ok none | .error _ =>
        let started := oidc.login ext world uri
        ⟨.respond started.result, started.created⟩

/-- Apply the policy: reserved endpoints first, then the credentials. -/
def Authorizer.authorize (ext : Externals Key) (world : World Key) (authorizer : Authorizer Key)
    (method : String) (uri : Uri) (headers : HeaderMap) : Outcome Key AuthorizationDecision :=
  match authorizer.oidc with
  | none => authorizer.authorizeCredentials ext world uri headers
  | some oidc =>
    if uri.path = authorizer.config.oidcCallbackPath then
      let finished := oidc.callback ext world method uri headers
      ⟨.respond finished.result, finished.created⟩
    else if uri.path = authorizer.config.oidcLogoutPath then ⟨.respond (oidc.logout method), []⟩
    else authorizer.authorizeCredentials ext world uri headers

/-- A request that a policy allows is allowed for its credentials. -/
theorem authorizeCredentials_of_allow {ext : Externals Key} {world : World Key}
    {authorizer : Authorizer Key} {method : String} {uri : Uri} {headers : HeaderMap}
    {credential : Credential} {identity : Option AuthenticatedIdentity}
    (h : (authorizer.authorize ext world method uri headers).result =
      .allow credential identity) :
    (authorizer.authorizeCredentials ext world uri headers).result =
      .allow credential identity := by
  rw [Authorizer.authorize] at h
  cases hoidc : authorizer.oidc with
  | none =>
    rw [hoidc] at h
    exact h
  | some oidc =>
    rw [hoidc] at h
    dsimp only at h
    split at h
    · cases h
    · split at h
      · cases h
      · exact h

/-- Externals for concrete runs with a single cookie key. A cookie value
starts with the length of its name, which tells flows from sessions, and the
hash of the cookie names is cut short; identities are known by their
subject. -/
def sampleExternals : Externals Unit where
  encrypt _ name plaintext _ := toString name.length ++ "." ++ plaintext
  decrypt _ name value := stripStart value (toString name.length ++ ".")
  renderCookie name value _ := name ++ "=" ++ value
  encodeFlow flow := flow.state
  decodeFlow text := .ok ⟨text, "nonce", "verifier", "/", 600⟩
  encodeIdentity identity := identity.subject
  decodeIdentity text := .ok ⟨text, text, none, none, [], 28800⟩
  parseQuery query := (split '&' query).filterMap (splitOnce '=')
  cookieNamespace _ _ _ := "a1"
  algorithmFromStr name :=
    if name = "RS256" || name = "ES256" then some (.asymmetric name)
    else if name = "HS256" then some .HS256
    else none

/-- An environment in which every file and service answers. -/
def sampleEnv : LoadEnv Unit where
  expandHome path := .ok path
  readToString _ := .ok "secret"
  discover issuer := .ok issuer
  loadOrCreateCookieKey _ := .ok ()
  loadKeys _ := .ok ()
  prepareCacheDir _ := .ok ()

end LfpPipe.ClientAuthorizer
