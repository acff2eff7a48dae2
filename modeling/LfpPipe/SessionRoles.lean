import LfpPipe.ClientProxy
import LfpPipe.ConfigExpansion
import LfpPipe.TransitionRuns

/-!
# Browser sessions and the roles of the policy that accepts them

Roles are checked once, when a login is finished; later requests only show
the session cookie. Its name and key depend on the issuer, the client, the
hostname and the key file, not on the roles. This module follows the private
cookies over whole runs of requests and determines when a session is only
accepted by policies whose role requirement its login has passed.
-/

namespace LfpPipe.SessionRoles

open RustText Fallible SharedConfig ClientIdentity HttpMessages ClientAuthorizer ClientSession
open ClientProxy ConfigExpansion TransitionRuns

variable {Key : Type}

/-- One request of a run: any browser, any connection. -/
structure Visit (Key : Type) where
  /-- The request with its world. -/
  exchange : Exchange Key
  /-- Hostname of the connection. -/
  hostname : String
  /-- Public peer address. -/
  clientIp : Option String
  /-- Public scheme. -/
  scheme : String

/-- The answer to a visit. -/
def Visit.handled (ext : Externals Key) (backends : List (BackendRuntime Key))
    (visit : Visit Key) : Outcome Key (Except AnyError (RequestAction Key)) :=
  handleRequestInner ext visit.exchange.world visit.exchange.request visit.hostname
    visit.clientIp visit.scheme backends

/-- The path of a visit. -/
def Visit.path (visit : Visit Key) : String := visit.exchange.request.uri.path

/-- The private cookies created so far, extended by those of a visit. -/
def step (ext : Externals Key) (backends : List (BackendRuntime Key))
    (log : List (PrivateCookie Key)) (visit : Visit Key) : Option (List (PrivateCookie Key)) :=
  some (log ++ (visit.handled ext backends).created)

/-- A browser policy that the session has loaded. -/
def LoadedOidc (backends : List (BackendRuntime Key)) (authorizer : Authorizer Key)
    (oidc : OidcAuthorizer Key) : Prop :=
  ∃ backend ∈ backends, backend.authorization = some authorizer ∧ authorizer.oidc = some oidc

/-- Every cookie of the visit that decrypts under some key and name was
encrypted earlier under that key and name. -/
def Unforged (ext : Externals Key) (log : List (PrivateCookie Key)) (visit : Visit Key) : Prop :=
  ∀ key name value plaintext, requestCookie visit.exchange.request.headers name = some value →
    ext.decrypt key name value = some plaintext →
      ∃ cookie ∈ log, cookie.key = key ∧ cookie.name = name ∧ cookie.value = value

/-- A request finishes a login: it shows the cookie of a login that has not expired,
repeats the state of this login and has a code. -/
structure FinishesLogin (ext : Externals Key) (world : World Key) (oidc : OidcAuthorizer Key)
    (method : String) (uri : Uri) (headers : HeaderMap) (code : String) (flow : OidcFlow) :
    Prop where
  /-- The method of a callback. -/
  get : method = "GET"
  /-- The login of the shown cookie. -/
  shown : oidc.decryptCookie ext ext.decodeFlow headers oidc.flowCookie = .ok (some flow)
  /-- It has not expired. -/
  unexpired : world.now < flow.expiresUnix
  /-- The query has no error, the state of the login and the code. -/
  query : ∃ query, uri.query = some query ∧ queryParam ext query "error" = none ∧
    queryParam ext query "state" = some flow.state ∧ queryParam ext query "code" = some code

/-- A login that is finished at the callback of one policy, names a user and passes
the roles of the policy also passes the roles of every policy with the same session
cookie. -/
def SharersSatisfied (ext : Externals Key) (backends : List (BackendRuntime Key))
    (visit : Visit Key) : Prop :=
  ∀ authorizer oidc, LoadedOidc backends authorizer oidc →
    visit.path = authorizer.config.oidcCallbackPath →
    ∀ code flow claims, FinishesLogin ext visit.exchange.world oidc visit.exchange.request.method
        visit.exchange.request.uri visit.exchange.request.headers code flow →
      visit.exchange.world.exchangeCode oidc code flow = .ok claims →
      Succeeds (identityFromClaims claims oidc.config.rolesClaim) →
      validateRoles claims authorizer.config = .ok () →
      ∀ other otherOidc, LoadedOidc backends other otherOidc →
        otherOidc.cookieKey = oidc.cookieKey → otherOidc.sessionCookie = oidc.sessionCookie →
          validateRoles claims other.config = .ok ()

/-- Why a private cookie was created under a policy. -/
inductive CreatedBy (ext : Externals Key) (world : World Key) (method : String) (uri : Uri)
    (headers : HeaderMap) (authorizer : Authorizer Key) (oidc : OidcAuthorizer Key)
    (cookie : PrivateCookie Key) : Prop where
  /-- A login was started. -/
  | flow (hkey : cookie.key = oidc.cookieKey) (hname : cookie.name = oidc.flowCookie)
  /-- A login was finished and passed the roles. -/
  | session (claims : Value) (code : String) (login : OidcFlow)
    (hkey : cookie.key = oidc.cookieKey) (hname : cookie.name = oidc.sessionCookie)
    (horigin : cookie.origin = .session oidc.config claims)
    (hpath : uri.path = authorizer.config.oidcCallbackPath)
    (hfinishes : FinishesLogin ext world oidc method uri headers code login)
    (hclaims : world.exchangeCode oidc code login = .ok claims)
    (hidentity : Succeeds (identityFromClaims claims oidc.config.rolesClaim))
    (hroles : validateRoles claims oidc.config = .ok ())

/-- An encrypted cookie has the key, the name and the origin it was made for. -/
theorem encryptCookie_created {ext : Externals Key} {world : World Key}
    {oidc : OidcAuthorizer Key} {name plaintext text : String} {maxAge : ℕ} {origin : Origin}
    {cookie : PrivateCookie Key}
    (h : oidc.encryptCookie ext world name plaintext maxAge origin = .ok (text, cookie)) :
    cookie.key = oidc.cookieKey ∧ cookie.name = name ∧ cookie.origin = origin := by
  simp only [OidcAuthorizer.encryptCookie, bind_eq_ok, Except.ok.injEq, Prod.mk.injEq] at h
  obtain ⟨_, -, -, rfl⟩ := h
  exact ⟨rfl, rfl, rfl⟩

/-- A started login creates only its flow cookie. -/
theorem login_created {ext : Externals Key} {world : World Key} {oidc : OidcAuthorizer Key}
    {uri : Uri} {cookie : PrivateCookie Key} (h : cookie ∈ (oidc.login ext world uri).created) :
    cookie.key = oidc.cookieKey ∧ cookie.name = oidc.flowCookie := by
  unfold OidcAuthorizer.login at h
  cases hl : oidc.loginInner ext world uri with
  | error error =>
    rw [hl] at h
    simp at h
  | ok started =>
    obtain ⟨response, created⟩ := started
    rw [hl] at h
    simp only [List.mem_singleton] at h
    subst h
    simp only [OidcAuthorizer.loginInner, bind_eq_ok, Except.ok.injEq, Prod.mk.injEq,
      Prod.exists] at hl
    obtain ⟨_, -, _, created, hencrypt, _, -, -, rfl⟩ := hl
    obtain ⟨hkey, hname, -⟩ := encryptCookie_created hencrypt
    exact ⟨hkey, hname⟩

/-- Roles that are no error were satisfied. -/
theorem rolesOrError_eq_ok {claims : Value} {policy : ClientAuthorizationConfig} {u : Unit}
    (h : rolesOrError claims policy = .ok u) : validateRoles claims policy = .ok () := by
  unfold rolesOrError at h
  split at h
  · assumption
  · cases h
  · cases h

/-- A finished login creates only its session cookie, for claims that passed
the roles. -/
theorem callback_created {ext : Externals Key} {world : World Key} {oidc : OidcAuthorizer Key}
    {method : String} {uri : Uri} {headers : HeaderMap} {cookie : PrivateCookie Key}
    (h : cookie ∈ (oidc.callback ext world method uri headers).created) :
    ∃ claims code login, cookie.key = oidc.cookieKey ∧ cookie.name = oidc.sessionCookie ∧
      cookie.origin = .session oidc.config claims ∧
      FinishesLogin ext world oidc method uri headers code login ∧
      world.exchangeCode oidc code login = .ok claims ∧
      Succeeds (identityFromClaims claims oidc.config.rolesClaim) ∧
      validateRoles claims oidc.config = .ok () := by
  unfold OidcAuthorizer.callback at h
  split at h
  · simp at h
  · rename_i hmethod
    cases hc : oidc.callbackInner ext world uri headers with
    | error error =>
      rw [hc] at h
      simp at h
    | ok finished =>
      obtain ⟨response, created⟩ := finished
      rw [hc] at h
      simp only [List.mem_singleton] at h
      subst h
      simp only [OidcAuthorizer.callbackInner, bind_eq_ok, orMissing_eq_ok, ensure_eq_ok,
        Except.ok.injEq, Prod.mk.injEq, Prod.exists] at hc
      obtain ⟨_, hfound, login, rfl, _, hexpires, query, hquery, _, herror, state, hstate, _, hsame,
        code, hcode, claims, hclaims, _, hroles, identity, hidentity, _, created, hencrypt, _, -, -,
        rfl⟩ := hc
      obtain ⟨hkey, hname, horigin⟩ := encryptCookie_created hencrypt
      have hfinishes : FinishesLogin ext world oidc method uri headers code login :=
        { get := not_not.mp hmethod
          shown := hfound
          unexpired := of_decide_eq_true hexpires
          query := ⟨query, hquery, Option.isNone_iff_eq_none.mp herror,
            (beq_iff_eq.mp hsame) ▸ hstate, hcode⟩ }
      exact ⟨claims, code, login, hkey, hname, horigin, hfinishes, hclaims, ⟨identity, hidentity⟩,
        rolesOrError_eq_ok hroles⟩

/-- Credentials create at most the flow cookie of a started login. -/
theorem authorizeCredentials_created {ext : Externals Key} {world : World Key}
    {authorizer : Authorizer Key} {uri : Uri} {headers : HeaderMap} {cookie : PrivateCookie Key}
    (h : cookie ∈ (authorizer.authorizeCredentials ext world uri headers).created)
    (method : String) :
    ∃ oidc, authorizer.oidc = some oidc ∧
      CreatedBy ext world method uri headers authorizer oidc cookie := by
  unfold Authorizer.authorizeCredentials at h
  split at h
  · split at h
    · simp at h
    · split at h <;> simp at h
  · split at h
    · simp at h
    · next oidc ho =>
      split at h
      · simp at h
      · obtain ⟨hkey, hname⟩ := login_created h
        exact ⟨oidc, ho, .flow hkey hname⟩
      · obtain ⟨hkey, hname⟩ := login_created h
        exact ⟨oidc, ho, .flow hkey hname⟩

/-- A policy creates a session cookie only at its callback. -/
theorem authorize_created {ext : Externals Key} {world : World Key} {authorizer : Authorizer Key}
    {method : String} {uri : Uri} {headers : HeaderMap} {cookie : PrivateCookie Key}
    (h : cookie ∈ (authorizer.authorize ext world method uri headers).created) :
    ∃ oidc, authorizer.oidc = some oidc ∧
      CreatedBy ext world method uri headers authorizer oidc cookie := by
  unfold Authorizer.authorize at h
  cases ho : authorizer.oidc with
  | none =>
    rw [ho] at h
    obtain ⟨oidc, hsome, -⟩ := authorizeCredentials_created h method
    rw [ho] at hsome
    cases hsome
  | some oidc =>
    rw [ho] at h
    dsimp only at h
    split at h
    · next hpath =>
      obtain ⟨claims, code, login, hkey, hname, horigin, hfinishes, hclaims, hidentity, hroles⟩ :=
        callback_created h
      exact ⟨oidc, rfl, .session claims code login hkey hname horigin hpath hfinishes hclaims
        hidentity hroles⟩
    · split at h
      · simp at h
      · rw [←ho]
        exact authorizeCredentials_created h method

/-- Every cookie of a visit was created by a loaded browser policy. -/
theorem handled_created {ext : Externals Key} {backends : List (BackendRuntime Key)}
    {visit : Visit Key} {cookie : PrivateCookie Key}
    (h : cookie ∈ (visit.handled ext backends).created) :
    ∃ authorizer oidc, LoadedOidc backends authorizer oidc ∧
      CreatedBy ext visit.exchange.world visit.exchange.request.method visit.exchange.request.uri
        visit.exchange.request.headers authorizer oidc cookie := by
  unfold Visit.handled handleRequestInner at h
  cases he : endpointAuthorizer backends visit.exchange.request.uri.path with
  | some authorizer =>
    rw [he] at h
    obtain ⟨backend, hm, ha⟩ := List.mem_filterMap.mp (List.mem_of_find?_eq_some he)
    have hcreated : cookie ∈ (authorizer.authorize ext visit.exchange.world
        visit.exchange.request.method visit.exchange.request.uri
        visit.exchange.request.headers).created := by
      dsimp only at h
      split at h <;> exact h
    obtain ⟨oidc, ho, hby⟩ := authorize_created hcreated
    exact ⟨authorizer, oidc, ⟨backend, hm, ha, ho⟩, hby⟩
  | none =>
    rw [he] at h
    dsimp only at h
    cases hs : selectRuntimeForPath backends (some visit.hostname)
        visit.exchange.request.uri.path with
    | none => simp [hs] at h
    | some backend =>
      rw [hs] at h
      dsimp only at h
      cases ha : backend.authorization with
      | none => simp [ha] at h
      | some authorizer =>
        rw [ha] at h
        have hcreated : cookie ∈ (authorizer.authorize ext visit.exchange.world
            visit.exchange.request.method visit.exchange.request.uri
            visit.exchange.request.headers).created := by
          dsimp only at h
          split at h <;> exact h
        obtain ⟨oidc, ho, hby⟩ := authorize_created hcreated
        exact ⟨authorizer, oidc, ⟨backend, mem_of_selectRuntimeForPath hs, ha, ho⟩, hby⟩

/-- What loading gives every browser policy: its own settings and cookie
names that tell flows and sessions apart. -/
structure WellLoaded (authorizer : Authorizer Key) (oidc : OidcAuthorizer Key) : Prop where
  /-- The login uses the settings of the policy. -/
  config : oidc.config = authorizer.config
  /-- Flow cookies have their own name. -/
  flowCookie : ∃ suffix, oidc.flowCookie = "__Host-lfp_flow_" ++ suffix
  /-- Session cookies have their own name. -/
  sessionCookie : ∃ suffix, oidc.sessionCookie = "__Host-lfp_session_" ++ suffix

/-- Every loaded browser policy is well loaded. -/
theorem wellLoaded_of_load {ext : Externals Key} {env : LoadEnv Key}
    {policy : ClientAuthorizationConfig} {hostname : String} {authorizer : Authorizer Key}
    (h : Authorizer.load ext env policy hostname = .ok authorizer) {oidc : OidcAuthorizer Key}
    (ho : authorizer.oidc = some oidc) : WellLoaded authorizer oidc := by
  simp only [Authorizer.load, bind_eq_ok, Except.ok.injEq] at h
  obtain ⟨bearer, -, found, hfound, rfl⟩ := h
  dsimp only at ho
  subst ho
  unfold loadWhen at hfound
  split at hfound
  · simp only [OidcAuthorizer.load, bind_eq_ok, Except.ok.injEq, Option.some.injEq] at hfound
    obtain ⟨loaded, ⟨_, -, _, -, _, -, _, -, _, -, rfl⟩, rfl⟩ := hfound
    exact ⟨rfl, ⟨_, rfl⟩, ⟨_, rfl⟩⟩
  · cases hfound

/-- A flow cookie is never taken for a session cookie. -/
theorem flow_ne_session (left right : String) :
    "__Host-lfp_flow_" ++ left ≠ "__Host-lfp_session_" ++ right := by
  intro h
  have htake := congrArg (fun text => text.toList.take 12) h
  simp at htake

/-- Every session cookie so far has passed the roles of every policy that
would accept it. -/
def SessionsHonoured (backends : List (BackendRuntime Key)) (log : List (PrivateCookie Key)) :
    Prop :=
  ∀ cookie ∈ log, ∀ authorizer oidc, LoadedOidc backends authorizer oidc →
    cookie.key = oidc.cookieKey → cookie.name = oidc.sessionCookie →
      ∃ minted claims, cookie.origin = .session minted claims ∧
        validateRoles claims authorizer.config = .ok ()

/-- A visit that satisfies its sharers keeps all sessions honoured. -/
theorem step_sessionsHonoured {ext : Externals Key} {backends : List (BackendRuntime Key)}
    (hloaded : ∀ authorizer oidc, LoadedOidc backends authorizer oidc → WellLoaded authorizer oidc)
    {log next : List (PrivateCookie Key)} {visit : Visit Key} (h : SessionsHonoured backends log)
    (hguard : SharersSatisfied ext backends visit) (hs : step ext backends log visit = some next) :
    SessionsHonoured backends next := by
  cases hs
  intro cookie hm authorizer oidc hl hkey hname
  rcases List.mem_append.mp hm with hm | hm
  · exact h cookie hm authorizer oidc hl hkey hname
  · obtain ⟨creator, creatorOidc, hcreator, hby⟩ := handled_created hm
    cases hby with
    | flow hk hn =>
      obtain ⟨left, hleft⟩ := (hloaded creator creatorOidc hcreator).flowCookie
      obtain ⟨right, hright⟩ := (hloaded authorizer oidc hl).sessionCookie
      rw [hn, hleft, hright] at hname
      exact absurd hname (flow_ne_session left right)
    | session claims code login hk hn horigin hpath hfinishes hclaims hidentity hroles =>
      rw [(hloaded creator creatorOidc hcreator).config] at hroles
      exact ⟨creatorOidc.config, claims, horigin,
        hguard creator creatorOidc hcreator hpath code login claims hfinishes hclaims hidentity
          hroles authorizer oidc hl (hkey.symm.trans hk) (hname.symm.trans hn)⟩

/-- A session is read from the cookie of its name, which must decrypt. -/
theorem session_eq_some {ext : Externals Key} {world : World Key} {oidc : OidcAuthorizer Key}
    {headers : HeaderMap} {identity : AuthenticatedIdentity}
    (h : oidc.session ext world headers = .ok (some identity)) :
    ∃ raw plaintext, requestCookie headers oidc.sessionCookie = some raw ∧
      ext.decrypt oidc.cookieKey oidc.sessionCookie raw = some plaintext := by
  simp only [OidcAuthorizer.session, bind_eq_ok] at h
  obtain ⟨found, hfound, hidentity⟩ := h
  unfold OidcAuthorizer.decryptCookie at hfound
  split at hfound
  · cases hfound
    cases hidentity
  · next raw hraw =>
    split at hfound
    · cases hfound
      cases hidentity
    · next plaintext hplain => exact ⟨raw, plaintext, hraw, hplain⟩

/-- A request is allowed through a session only with a valid session cookie
of the policy. -/
theorem allow_session_cookie {ext : Externals Key} {world : World Key}
    {authorizer : Authorizer Key} {method : String} {uri : Uri} {headers : HeaderMap}
    {identity : Option AuthenticatedIdentity}
    (h : (authorizer.authorize ext world method uri headers).result = .allow .session identity) :
    ∃ oidc raw plaintext, authorizer.oidc = some oidc ∧
      requestCookie headers oidc.sessionCookie = some raw ∧
      ext.decrypt oidc.cookieKey oidc.sessionCookie raw = some plaintext := by
  have hcredentials := authorizeCredentials_of_allow h
  unfold Authorizer.authorizeCredentials at hcredentials
  split at hcredentials
  · split at hcredentials
    · cases hcredentials
    · split at hcredentials <;> cases hcredentials
  · split at hcredentials
    · cases hcredentials
    · next oidc ho =>
      split at hcredentials
      · next found hsession =>
        obtain ⟨raw, plaintext, hraw, hplain⟩ := session_eq_some hsession
        exact ⟨oidc, raw, plaintext, ho, hraw, hplain⟩
      · cases hcredentials
      · cases hcredentials

/-- Over every run of visits in which finished logins satisfy the roles of
all policies with the same session cookie, a request that is allowed through
its session cookie shows a cookie whose login passed the roles of the policy
of the selected backend itself. -/
theorem session_roles_held {ext : Externals Key} {env : LoadEnv Key} {config : ClientConfig}
    {state : AppState Key} (hstart : processMessages ext env config = .ok state)
    {visits : List (Visit Key)} {log : List (PrivateCookie Key)}
    (hguard : Guarded (step ext state.backends) (fun _ => SharersSatisfied ext state.backends) []
      visits)
    (hrun : run (step ext state.backends) [] visits = some log) {visit : Visit Key}
    (hunforged : Unforged ext log visit) {backend : BackendRuntime Key}
    (hselect : selectRuntimeForPath state.backends (some visit.hostname) visit.path =
      some backend)
    {authorizer : Authorizer Key} (hauth : backend.authorization = some authorizer)
    {identity : Option AuthenticatedIdentity}
    (hallow : (authorizer.authorize ext visit.exchange.world visit.exchange.request.method
      visit.exchange.request.uri visit.exchange.request.headers).result =
        .allow .session identity) :
    ∃ oidc cookie minted claims, authorizer.oidc = some oidc ∧ cookie ∈ log ∧
      requestCookie visit.exchange.request.headers oidc.sessionCookie = some cookie.value ∧
      cookie.origin = .session minted claims ∧
      validateRoles claims authorizer.config = .ok () := by
  have hloaded : ∀ authorizer oidc, LoadedOidc state.backends authorizer oidc →
      WellLoaded authorizer oidc := by
    rintro authorizer oidc ⟨backend, hm, ha, ho⟩
    obtain ⟨-, -, hbackends⟩ := processMessages_backends hstart
    obtain ⟨rule, -, -, -, hself⟩ := exists_mem_of_forall₂ hbackends hm
    obtain ⟨acme, -, hload⟩ := hself authorizer ha
    exact wellLoaded_of_load hload ho
  have hhonoured : SessionsHonoured state.backends log :=
    run_invariant_guarded
      (fun log visit next h hg hs => step_sessionsHonoured hloaded h hg hs)
      (by intro cookie hm; cases hm) hguard hrun
  obtain ⟨oidc, raw, plaintext, ho, hraw, hplain⟩ := allow_session_cookie hallow
  obtain ⟨cookie, hm, hkey, hname, hvalue⟩ := hunforged _ _ _ _ hraw hplain
  have hl : LoadedOidc state.backends authorizer oidc :=
    ⟨backend, mem_of_selectRuntimeForPath hselect, hauth, ho⟩
  obtain ⟨minted, claims, horigin, hroles⟩ := hhonoured cookie hm authorizer oidc hl hkey hname
  exact ⟨oidc, cookie, minted, claims, ho, hm, by rw [hraw, hvalue], horigin, hroles⟩

/-- A browser policy without roles. -/
def openPolicy : ClientAuthorizationConfig :=
  resolvedPolicy [{ bearer := some false, oidcClientId := some "docs" }] "https://login.example"

/-- A browser policy of the same client that asks for a role and has its own
endpoints. -/
def adminPolicy : ClientAuthorizationConfig :=
  { openPolicy with
    requiredRoles := ["admin"]
    oidcCallbackPath := "/_lfp/auth/admin/callback"
    oidcLogoutPath := "/_lfp/auth/admin/logout" }

/-- A flat file with an open hostname and a protected path. -/
def twoPolicies : ClientConfig where
  clientId := "docs-client"
  natsUrl := "nats://control.example"
  natsTokenFile := none
  oauth := none
  acme := some ⟨"docs.example", [], "cache", false, none⟩
  authorization := none
  tcpPassthrough := true
  relayMode := .auto
  requestSubject := defaultRequestSubject
  claimAckTimeoutMs := defaultClaimAckTimeoutMs
  backendRules :=
    [⟨"docs.example", none, false, true, ":8080", none, none, some openPolicy⟩,
      ⟨"docs.example", some "/admin", false, true, ":9090", none, none, some adminPolicy⟩]

/-- A loaded browser policy of the flat file. -/
def loadedPolicy (policy : ClientAuthorizationConfig) : Authorizer Unit :=
  ⟨policy, none, some ⟨policy, "docs.example", none, (), "__Host-lfp_flow_a1",
    "__Host-lfp_session_a1"⟩⟩

/-- The protected backend. -/
def adminBackend : BackendRuntime Unit :=
  ⟨⟨"docs.example", some "/admin", false, true, ":9090", none, none, some adminPolicy⟩,
    some (loadedPolicy adminPolicy)⟩

/-- Both started backends. -/
def twoBackends : List (BackendRuntime Unit) :=
  [⟨⟨"docs.example", none, false, true, ":8080", none, none, some openPolicy⟩,
    some (loadedPolicy openPolicy)⟩, adminBackend]

/-- The started session. -/
def twoPoliciesState : AppState Unit :=
  ⟨twoPolicies, some ⟨⟨"docs.example", [], "cache", false, none⟩, "cache/docs.example",
    twoBackends, true⟩, twoBackends⟩

/-- A provider that answers every code with the same claims. -/
def providerWorld (claims : Value) : World Unit where
  now := 0
  freshState := "state"
  freshNonce := "nonce"
  freshVerifier := "verifier"
  freshCookie := 0
  authorizeUrl _ := .ok "https://login.example/authorize"
  exchangeCode _ _ _ := .ok claims
  decodeToken _ _ := .error ["unknown token"]

/-- A browser request with one cookie header. -/
def browserVisit (claims : Value) (uri : Uri) (cookie : String) : Visit Unit :=
  ⟨⟨providerWorld claims, ⟨"GET", uri, (HeaderMap.empty.insert "host"
    (ascii "docs.example")).insert "cookie" (ascii cookie)⟩⟩, "docs.example", none, "https"⟩

/-- The browser opens the hostname and is sent to the provider. -/
def loginVisit (claims : Value) : Visit Unit := browserVisit claims ⟨"/", none⟩ ""

/-- The browser returns to the callback of the open policy. -/
def callbackVisit (claims : Value) : Visit Unit :=
  browserVisit claims ⟨"/_lfp/auth/callback", some "state=state&code=code"⟩
    "__Host-lfp_flow_a1=18.state"

/-- The browser opens the protected path with its session. -/
def adminVisit (claims : Value) : Visit Unit :=
  browserVisit claims ⟨"/admin/users", none⟩
    "__Host-lfp_session_a1=21.alice"

/-- Cookies created by login and callback. -/
def browserLog (claims : Value) : List (PrivateCookie Unit) :=
  ((loginVisit claims).handled sampleExternals twoBackends).created ++
    ((callbackVisit claims).handled sampleExternals twoBackends).created

/-- The flat file is accepted. -/
theorem twoPolicies_accepted :
    parseClientConfigs (.legacy twoPolicies) = .ok [twoPolicies] := by decide +kernel

/-- It starts. -/
theorem twoPolicies_starts :
    processMessages sampleExternals sampleEnv twoPolicies = .ok twoPoliciesState := by rfl

/-- The last visit shows exactly one cookie. -/
theorem adminVisit_cookie {claims : Value} {name value : String}
    (h : requestCookie (adminVisit claims).exchange.request.headers name = some value) :
    name = "__Host-lfp_session_a1" ∧
      value = "21.alice" := by
  have hpairs : (((adminVisit claims).exchange.request.headers.getAll "cookie").filterMap
      toStr).flatMap (split ';') =
      ["__Host-lfp_session_a1=21.alice"] := by
    have hraw : toStr (ascii "__Host-lfp_session_a1=21.alice") =
        some "__Host-lfp_session_a1=21.alice" := toStr_ascii (by decide)
    change ([ascii "__Host-lfp_session_a1=21.alice"].filterMap toStr).flatMap (split ';') = _
    rw [List.filterMap_cons_some hraw]
    rfl
  have hsplit : splitOnce '='
      (trim "__Host-lfp_session_a1=21.alice") =
      some ("__Host-lfp_session_a1",
        "21.alice") := by rfl
  rw [requestCookie, hpairs] at h
  simp only [List.findSome?_cons, List.findSome?_nil, hsplit] at h
  split at h
  · next hname =>
    split at hname
    · next heq =>
      cases hname
      cases h
      exact ⟨heq.symm, rfl⟩
    · cases hname
  · cases h

/-- A session cookie with that value in the log makes the last visit
unforged. -/
theorem adminVisit_unforged {claims : Value} {log : List (PrivateCookie Unit)}
    (h : (log.any fun cookie => cookie.name == "__Host-lfp_session_a1" &&
      cookie.value == "21.alice") = true) :
    Unforged sampleExternals log (adminVisit claims) := by
  intro key name value plaintext hcookie _
  obtain ⟨rfl, rfl⟩ := adminVisit_cookie hcookie
  obtain ⟨cookie, hm, hmatch⟩ := List.any_eq_true.mp h
  simp only [Bool.and_eq_true, beq_iff_eq] at hmatch
  exact ⟨cookie, hm, rfl, hmatch.1, hmatch.2⟩

/-- The protected policy accepts the session of the last visit, whatever the
provider says by then. -/
theorem adminVisit_allowed (claims : Value) :
    ∃ identity, ((loadedPolicy adminPolicy).authorize sampleExternals (providerWorld claims)
      "GET" (adminVisit claims).exchange.request.uri
      (adminVisit claims).exchange.request.headers).result = .allow .session identity :=
  ⟨_, rfl⟩

/-- Claims of an administrator. -/
def adminClaims : Value :=
  .object [("sub", .string "alice"), ("groups", .array [.string "admin"])]

/-- Claims of a user without roles. -/
def plainClaims : Value := .object [("sub", .string "alice")]

/-- The role of the protected policy is read from the groups claim. -/
theorem groups_of_adminRoles {claims : Value} (h : validateRoles claims adminPolicy = .ok ()) :
    (claims.get "groups").isSome = true := by
  have hclaim : adminPolicy.rolesClaim = "groups" := rfl
  have hpath : split '.' "groups" = ["groups"] := by decide
  rcases validateRoles_eq_ok.mp h with hnone | ⟨roles, hroles, -⟩
  · cases hnone
  · rw [claimStrings, hclaim, hpath, bind_eq_ok] at hroles
    obtain ⟨value, hvalue, -⟩ := hroles
    rw [claimAt, bind_eq_ok] at hvalue
    obtain ⟨_, -, hvalue⟩ := hvalue
    obtain ⟨inner, hinner, -⟩ := bind_eq_ok.mp hvalue
    rw [orMissing_eq_ok.mp hinner]
    rfl

/-- Claims that pass every loaded policy satisfy all sharers. -/
theorem sharersSatisfied_of_all {ext : Externals Unit} {backends : List (BackendRuntime Unit)}
    {claims : Value} {uri : Uri} {cookie : String}
    (h : ∀ backend ∈ backends, ∀ authorizer, backend.authorization = some authorizer →
      validateRoles claims authorizer.config = .ok ()) :
    SharersSatisfied ext backends (browserVisit claims uri cookie) := by
  rintro authorizer oidc - - code flow answer - hanswer - - other otherOidc ⟨backend, hm, ha, -⟩ - -
  cases hanswer
  exact h backend hm other ha

/-- The session of an administrator is accepted on the protected path, and
its login passed the role of that path. -/
theorem session_roles_held_admin :
    ∃ oidc cookie minted claims, (loadedPolicy adminPolicy).oidc = some oidc ∧
      cookie ∈ browserLog adminClaims ∧
      requestCookie (adminVisit adminClaims).exchange.request.headers oidc.sessionCookie =
        some cookie.value ∧
      cookie.origin = .session minted claims ∧ validateRoles claims adminPolicy = .ok () := by
  have hall : ∀ backend ∈ twoBackends, ∀ authorizer, backend.authorization = some authorizer →
      validateRoles adminClaims authorizer.config = .ok () := by
    intro backend hm authorizer ha
    simp only [twoBackends, List.mem_cons, List.not_mem_nil, or_false] at hm
    rcases hm with rfl | rfl
    · cases ha
      rfl
    · cases ha
      have hclaim : adminPolicy.rolesClaim = "groups" := rfl
      refine validateRoles_eq_ok.mpr (.inr ⟨["admin"], ?_, rfl⟩)
      change claimStrings adminClaims adminPolicy.rolesClaim = _
      rw [hclaim]
      rfl
  obtain ⟨identity, hallow⟩ := adminVisit_allowed adminClaims
  exact @session_roles_held Unit sampleExternals sampleEnv twoPolicies twoPoliciesState
    twoPolicies_starts [loginVisit adminClaims, callbackVisit adminClaims] (browserLog adminClaims)
    ⟨sharersSatisfied_of_all hall, fun _ _ => ⟨sharersSatisfied_of_all hall, fun _ _ => trivial⟩⟩
    rfl (adminVisit adminClaims) (adminVisit_unforged (by decide +kernel)) adminBackend rfl
    (loadedPolicy adminPolicy) rfl identity hallow

/-- A user without roles logs in at the open policy and is then allowed on
the path that requires the administrator role: no session in the log has
passed that role. -/
theorem plain_session_accepted_by_admin_policy :
    parseClientConfigs (.legacy twoPolicies) = .ok [twoPolicies] ∧
    processMessages sampleExternals sampleEnv twoPolicies = .ok twoPoliciesState ∧
    run (step sampleExternals twoBackends) [] [loginVisit plainClaims, callbackVisit plainClaims] =
      some (browserLog plainClaims) ∧
    Unforged sampleExternals (browserLog plainClaims) (adminVisit plainClaims) ∧
    selectRuntimeForPath twoBackends (some "docs.example") (adminVisit plainClaims).path =
      some adminBackend ∧
    (∃ identity, ((loadedPolicy adminPolicy).authorize sampleExternals (providerWorld plainClaims)
      "GET" (adminVisit plainClaims).exchange.request.uri
      (adminVisit plainClaims).exchange.request.headers).result = .allow .session identity) ∧
    ¬ ∃ cookie ∈ browserLog plainClaims, ∃ minted claims,
      cookie.origin = .session minted claims ∧ validateRoles claims adminPolicy = .ok () := by
  refine ⟨twoPolicies_accepted, twoPolicies_starts, rfl, adminVisit_unforged (by decide +kernel),
    rfl, adminVisit_allowed plainClaims, ?_⟩
  rintro ⟨cookie, hm, minted, claims, horigin, hroles⟩
  have hdenied : ((browserLog plainClaims).all fun cookie =>
      match cookie.origin with
      | .flow => true
      | .session _ claims => (claims.get "groups").isNone) = true := by
    decide +kernel
  have hthis := List.all_eq_true.mp hdenied cookie hm
  rw [horigin] at hthis
  have hgroups := groups_of_adminRoles hroles
  rw [Option.isNone_iff_eq_none.mp hthis] at hgroups
  cases hgroups

end LfpPipe.SessionRoles
