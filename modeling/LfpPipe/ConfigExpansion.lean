import LfpPipe.SharedConfig

/-!
# Inheritance, expansion and validation of client documents

Translated from `shared/src/config.rs`. A multi-route file is expanded into
one concrete configuration for each route, with every inherited value
resolved; a flat file only hands its policy to its path rules. Both shapes
then pass the same validation.
-/

namespace LfpPipe.ConfigExpansion

open RustText Fallible SharedConfig

/-- First layer with a string that is not blank. -/
def nonBlankStringValue (layers : List ClientAuthorizationDefaults)
    (select : ClientAuthorizationDefaults → Option String) : Option String :=
  layers.findSome? fun settings => (select settings).filter fun value => !isBlank value

/-- A string that some layer must supply. -/
def requiredStringValue (layers : List ClientAuthorizationDefaults)
    (select : ClientAuthorizationDefaults → Option String) (name : String) :
    Except AnyError String :=
  orMissing ("authorization." ++ name ++
    " is required in the route or [defaults.authorization]") (nonBlankStringValue layers select)

/-- First layer with a list, possibly an empty one. -/
def listValue (layers : List ClientAuthorizationDefaults)
    (select : ClientAuthorizationDefaults → Option (List String)) : Option (List String) :=
  layers.findSome? select

/-- First layer with a list that has an element. -/
def nonEmptyListValue (layers : List ClientAuthorizationDefaults)
    (select : ClientAuthorizationDefaults → Option (List String)) : Option (List String) :=
  layers.findSome? fun settings => (select settings).filter fun value => !value.isEmpty

/-- The resolved policy once its issuer is known. An explicit empty secret
file is kept: it turns an inherited confidential client into a public one. -/
def resolvedPolicy (layers : List ClientAuthorizationDefaults) (issuer : String) :
    ClientAuthorizationConfig where
  bearer := layers.findSome? (·.bearer)
  oidc := layers.findSome? (·.oidc)
  issuer := issuer
  audiences := (nonEmptyListValue layers (·.audiences)).getD []
  jwksUri := layers.findSome? (·.jwksUri)
  jwksCacheFile := (nonBlankStringValue layers (·.jwksCacheFile)).getD defaultJwksCacheFile
  rolesClaim := (nonBlankStringValue layers (·.rolesClaim)).getD defaultRolesClaim
  requiredRoles := (listValue layers (·.requiredRoles)).getD []
  forwardAuthorization := (layers.findSome? (·.forwardAuthorization)).getD false
  roleMatch := (layers.findSome? (·.roleMatch)).getD RoleMatch.any
  algorithms := (nonEmptyListValue layers (·.algorithms)).getD defaultJwtAlgorithms
  leewaySeconds := (layers.findSome? (·.leewaySeconds)).getD defaultJwtLeewaySeconds
  jwksRefreshSeconds := (layers.findSome? (·.jwksRefreshSeconds)).getD defaultJwksRefreshSeconds
  jwksMaxStaleSeconds :=
    (layers.findSome? (·.jwksMaxStaleSeconds)).getD defaultJwksMaxStaleSeconds
  headerTimeoutMs := (layers.findSome? (·.headerTimeoutMs)).getD defaultAuthHeaderTimeoutMs
  maxHeaderBytes := (layers.findSome? (·.maxHeaderBytes)).getD defaultAuthMaxHeaderBytes
  oidcClientId := nonBlankStringValue layers (·.oidcClientId)
  oidcClientSecretFile := layers.findSome? (·.oidcClientSecretFile)
  oidcScopes := (nonEmptyListValue layers (·.oidcScopes)).getD defaultBrowserOidcScopes
  oidcCallbackPath := (nonBlankStringValue layers (·.oidcCallbackPath)).getD defaultOidcCallbackPath
  oidcLogoutPath := (nonBlankStringValue layers (·.oidcLogoutPath)).getD defaultOidcLogoutPath
  oidcSessionKeyFile :=
    (nonBlankStringValue layers (·.oidcSessionKeyFile)).getD defaultOidcSessionKeyFile
  oidcSessionTtlSeconds :=
    (layers.findSome? (·.oidcSessionTtlSeconds)).getD defaultOidcSessionTtlSeconds

/-- Resolve authorization settings from highest to lowest precedence. -/
def mergeAuthorizationLayers (layers : List ClientAuthorizationDefaults) :
    Except AnyError (Option ClientAuthorizationConfig) :=
  if layers.isEmpty then .ok none
  else if !(layers.findSome? (·.enabled)).getD true then .ok none
  else do
    let issuer ← requiredStringValue layers (·.issuer) "issuer"
    .ok (some (resolvedPolicy layers issuer))

/-- Resolve the hostname policy from its route and the machine defaults. -/
def mergeAuthorizationDefaults (defaults route : Option ClientAuthorizationDefaults) :
    Except AnyError (Option ClientAuthorizationConfig) :=
  mergeAuthorizationLayers ([route, defaults].filterMap id)

/-- A value of the route, or else of the machine defaults. -/
def layered {Settings Value : Type} (defaults route : Option Settings)
    (select : Settings → Option Value) : Option Value :=
  (route.bind select).or (defaults.bind select)

/-- Resolve certificate settings; the certificate name is the hostname. -/
def mergeAcmeDefaults (defaults route : Option ClientAcmeDefaults) (hostname : String) :
    Except AnyError (Option ClientAcmeConfig) :=
  if defaults.isNone && route.isNone then .ok none
  else if !(layered defaults route (·.enabled)).getD true then .ok none
  else do
    let cacheDir := (layered defaults route (·.cacheDir)).getD defaultAcmeCacheDir
    ensure (!isBlank cacheDir) "acme.cache_dir cannot be empty"
    .ok (some {
      domain := hostname
      contacts := (layered defaults route (·.contacts)).getD []
      cacheDir := cacheDir
      production := (layered defaults route (·.production)).getD false
      directoryUrl := layered defaults route (·.directoryUrl) })

/-- An exchange value that the route or the defaults must supply. -/
def requiredOAuthValue (defaults route : Option ClientOAuthDefaults)
    (select : ClientOAuthDefaults → Option String) (name : String) : Except AnyError String :=
  orMissing ("oauth." ++ name ++ " is required in the route or [defaults.oauth]")
    (layered defaults route select)

/-- Resolve exchange settings; the ticket hostname is the route's. -/
def mergeOAuthDefaults (defaults route : Option ClientOAuthDefaults) (hostname : String) :
    Except AnyError (Option ClientOAuthConfig) :=
  if defaults.isNone && route.isNone then .ok none
  else do
    let tokenUrl ← requiredOAuthValue defaults route (·.tokenUrl) "token_url"
    let providerClientId ←
      requiredOAuthValue defaults route (·.providerClientId) "provider_client_id"
    let username ← requiredOAuthValue defaults route (·.username) "username"
    let clientSecretFile ←
      requiredOAuthValue defaults route (·.clientSecretFile) "client_secret_file"
    let controlPlaneUrl ← requiredOAuthValue defaults route (·.controlPlaneUrl) "control_plane_url"
    .ok (some {
      tokenUrl := tokenUrl
      providerClientId := providerClientId
      username := username
      clientSecretFile := clientSecretFile
      controlPlaneUrl := controlPlaneUrl
      hostname := hostname
      scopes := (layered defaults route (·.scopes)).getD defaultOAuthScopes
      renewBeforeSeconds :=
        (layered defaults route (·.renewBeforeSeconds)).getD defaultOAuthRenewBeforeSeconds })

/-- The policy layers of one path, nearest first. -/
def pathLayers (defaults : ClientConfigDefaults) (route : ClientRouteConfig)
    (pathRoute : ClientPathRouteConfig) : List ClientAuthorizationDefaults :=
  [pathRoute.authorization, route.authorization, defaults.authorization].filterMap id

/-- The backend rule of one path. -/
def expandPathRoute (defaults : ClientConfigDefaults) (route : ClientRouteConfig)
    (pattern : String) (pathRoute : ClientPathRouteConfig) : Except AnyError BackendRule := do
  let pathAuthorization ← mergeAuthorizationLayers (pathLayers defaults route pathRoute)
  .ok {
    pattern := pattern
    pathPrefix := some pathRoute.pathPrefix
    stripPathPrefix := pathRoute.stripPathPrefix
    proxyHeaders :=
      ((pathRoute.proxyHeaders.or route.proxyHeaders).or defaults.proxyHeaders).getD true
    backendAddr := pathRoute.backendAddr
    backendHost := pathRoute.backendHost
    httpBackendAddr := none
    authorization := pathAuthorization }

/-- The backend rule of the hostname itself. -/
def fallbackRule (defaults : ClientConfigDefaults) (route : ClientRouteConfig)
    (pattern backendAddr : String) : BackendRule where
  pattern := pattern
  pathPrefix := none
  stripPathPrefix := false
  proxyHeaders := (route.proxyHeaders.or defaults.proxyHeaders).getD true
  backendAddr := backendAddr
  backendHost := route.backendHost.or defaults.backendHost
  httpBackendAddr := route.httpBackendAddr.or defaults.httpBackendAddr
  authorization := none

/-- Expand one route into a concrete client configuration. -/
def expandClientRoute (defaults : ClientConfigDefaults) (route : ClientRouteConfig) :
    Except AnyError ClientConfig := do
  ensure (!isBlank route.clientId) "client_id cannot be empty"
  ensure (!isBlank route.hostname) "hostname cannot be empty"
  let natsUrl ← orMissing "nats_url is required in the route or [defaults]"
    (route.natsUrl.or defaults.natsUrl)
  let backendAddr ← orMissing "backend_addr is required in the route or [defaults]"
    (route.backendAddr.or defaults.backendAddr)
  let oauth ← mergeOAuthDefaults defaults.oauth route.oauth route.hostname
  let acme ← mergeAcmeDefaults defaults.acme route.acme route.hostname
  let authorization ← mergeAuthorizationDefaults defaults.authorization route.authorization
  let pattern := route.pattern.getD route.hostname
  let pathRules ← collect (expandPathRoute defaults route pattern) route.pathRoutes
  .ok {
    clientId := route.clientId
    natsUrl := natsUrl
    natsTokenFile := route.natsTokenFile.or defaults.natsTokenFile
    oauth := oauth
    acme := acme
    authorization := authorization
    tcpPassthrough := (route.tcpPassthrough.or defaults.tcpPassthrough).getD true
    relayMode := (route.relayMode.or defaults.relayMode).getD RelayMode.auto
    requestSubject := (route.requestSubject.or defaults.requestSubject).getD defaultRequestSubject
    claimAckTimeoutMs :=
      (route.claimAckTimeoutMs.or defaults.claimAckTimeoutMs).getD defaultClaimAckTimeoutMs
    backendRules := fallbackRule defaults route pattern backendAddr :: pathRules }

/-- Expand routes in order while collecting the client identifiers seen. -/
def expandRoutesFrom (defaults : ClientConfigDefaults) (seen : List String) (index : ℕ) :
    List ClientRouteConfig → Except AnyError (List ClientConfig)
  | [] => .ok []
  | route :: rest => do
    ensure (!seen.contains route.clientId)
      ("route " ++ toString (index + 1) ++ " repeats client_id " ++ route.clientId)
    let config ← withContext ("route " ++ toString (index + 1)) (expandClientRoute defaults route)
    let configs ← expandRoutesFrom defaults (route.clientId :: seen) (index + 1) rest
    .ok (config :: configs)

/-- Expand every route of a multi-route file. -/
def expandClientRoutes (document : MultiRouteClientConfig) :
    Except AnyError (List ClientConfig) := do
  ensure (!document.routes.isEmpty) "at least one [[routes]] entry is required"
  expandRoutesFrom document.defaults [] 0 document.routes

/-- A reserved browser endpoint path without query or fragment. -/
def validOidcPath (path : String) : Bool :=
  startsWith path "/_lfp/auth/" && !containsAny path ['?', '#']

/-- The check of one reserved path, naming its field. -/
def validateOidcPath (name path : String) : Except AnyError Unit :=
  ensure (validOidcPath path)
    ("authorization." ++ name ++ " must be a reserved /_lfp/auth/ path without query or fragment")

/-- Checks that apply only while bearer authorization is active. -/
def validateBearer (authorization : ClientAuthorizationConfig) : Except AnyError Unit := do
  ensure (!authorization.audiences.isEmpty)
    "authorization.audiences cannot be empty when bearer is enabled"
  ensure (!isBlank authorization.jwksCacheFile) "authorization.jwks_cache_file cannot be empty"
  ensure (!authorization.algorithms.isEmpty) "authorization.algorithms cannot be empty"

/-- Checks that apply only while browser login is active. -/
def validateOidc (authorization : ClientAuthorizationConfig) : Except AnyError Unit := do
  ensure (!isBlank (authorization.oidcClientId.getD ""))
    "authorization.oidc_client_id is required when oidc is enabled"
  ensure (authorization.oidcScopes.any fun scope => scope == "openid")
    "authorization.oidc_scopes must contain openid"
  validateOidcPath "oidc_callback_path" authorization.oidcCallbackPath
  validateOidcPath "oidc_logout_path" authorization.oidcLogoutPath
  ensure (authorization.oidcCallbackPath != authorization.oidcLogoutPath)
    "authorization OIDC callback and logout paths must differ"
  ensure (!isBlank authorization.oidcSessionKeyFile)
    "authorization.oidc_session_key_file cannot be empty"
  ensure (0 < authorization.oidcSessionTtlSeconds)
    "authorization.oidc_session_ttl_seconds must be positive"

/-- Static checks of one policy. -/
def validateAuthorization (authorization : ClientAuthorizationConfig) : Except AnyError Unit := do
  ensure (authorization.bearerEnabled || authorization.oidcEnabled)
    "authorization must enable bearer, oidc, or both"
  ensure (!isBlank authorization.issuer) "authorization.issuer cannot be empty"
  checkWhen authorization.bearerEnabled (validateBearer authorization)
  checkWhen authorization.oidcEnabled (validateOidc authorization)
  ensure (0 < authorization.headerTimeoutMs) "authorization.header_timeout_ms must be positive"
  ensure (8192 ≤ authorization.maxHeaderBytes)
    "authorization.max_header_bytes must be at least 8192"

/-- Checks of one path prefix against those seen before. -/
def validatePathPrefix (prefixes : List String) (pathPrefix : String) : Except AnyError Unit := do
  ensure (startsWith pathPrefix "/" && !containsAny pathPrefix ['?', '#'])
    "backend path_prefix must start with '/' and omit query/fragment"
  ensure (!prefixes.contains pathPrefix)
    ("backend path_prefix " ++ pathPrefix ++ " is duplicated")

/-- Checks of the ordered rules; a prefix may occur only once. -/
def validateRules (prefixes : List String) : List BackendRule → Except AnyError Unit
  | [] => .ok ()
  | rule :: rest => do
    checkSome (validatePathPrefix prefixes) rule.pathPrefix
    checkSome validateAuthorization rule.authorization
    validateRules (rule.pathPrefix.toList ++ prefixes) rest

/-- Static checks of one concrete client configuration. -/
def validateClientConfig (config : ClientConfig) : Except AnyError Unit := do
  let hasPathRoutes := config.backendRules.any fun rule => rule.pathPrefix.isSome
  let hasAuthorization := config.authorization.isSome ||
    config.backendRules.any fun rule => rule.authorization.isSome
  ensure ((!hasPathRoutes && !hasAuthorization) || config.acme.isSome)
    "path routing and authorization require [acme] so HTTPS can be inspected"
  let fallbackCount := (config.backendRules.filter fun rule => rule.pathPrefix.isNone).length
  ensure (!hasPathRoutes || fallbackCount == 1)
    "path routing requires exactly one fallback backend without path_prefix"
  validateRules [] config.backendRules
  checkSome validateAuthorization config.authorization

/-- A flat file hands its policy to path rules that have none. -/
def inheritLegacyPolicy (config : ClientConfig) : ClientConfig :=
  { config with backendRules := config.backendRules.map fun rule =>
      if rule.pathPrefix.isSome && rule.authorization.isNone then
        { rule with authorization := config.authorization }
      else rule }

/-- The concrete configurations of a document, before validation. -/
def documentConfigs : ClientConfigDocument → Except AnyError (List ClientConfig)
  | .legacy config => .ok [inheritLegacyPolicy config]
  | .multiRoute config =>
    withContext "invalid multi-route client config" (expandClientRoutes config)

/-- Resolve and validate a client document. -/
def parseClientConfigs (document : ClientConfigDocument) :
    Except AnyError (List ClientConfig) := do
  let configs ← documentConfigs document
  checkAll validateClientConfig configs
  .ok configs

/-- The layers ask for a policy: one is there and the first switch is not
off. -/
def Demanded (layers : List ClientAuthorizationDefaults) : Prop :=
  layers ≠ [] ∧ (layers.findSome? (·.enabled)).getD true = true

/-- Layers resolve to nothing when no policy is demanded, and otherwise to
the policy of the first issuer that is not blank. -/
theorem mergeAuthorizationLayers_eq_ok_iff {layers : List ClientAuthorizationDefaults}
    {policy : Option ClientAuthorizationConfig} :
    mergeAuthorizationLayers layers = .ok policy ↔
      (¬ Demanded layers ∧ policy = none) ∨
        ∃ issuer, Demanded layers ∧ nonBlankStringValue layers (·.issuer) = some issuer ∧
          policy = some (resolvedPolicy layers issuer) := by
  rw [mergeAuthorizationLayers, Demanded]
  by_cases hempty : layers = []
  · rw [hempty]
    simp [eq_comm]
  · have hfull : layers.isEmpty = false := by simpa using hempty
    rw [hfull, if_neg (by decide)]
    cases hswitch : (layers.findSome? (·.enabled)).getD true with
    | false => simp [eq_comm]
    | true =>
      simp only [Bool.not_true, Bool.false_eq_true, if_false, requiredStringValue, bind_eq_ok,
        orMissing_eq_ok, Except.ok.injEq, hempty, ne_eq, not_false_eq_true, and_self, not_true,
        false_and, false_or, true_and]
      constructor
      · rintro ⟨issuer, hissuer, rfl⟩
        exact ⟨issuer, hissuer, rfl⟩
      · rintro ⟨issuer, hissuer, rfl⟩
        exact ⟨issuer, hissuer, rfl⟩

/-- What an expanded route keeps of its document. -/
structure ExpandedFrom (defaults : ClientConfigDefaults) (route : ClientRouteConfig)
    (config : ClientConfig) : Prop where
  /-- The certificate settings are the layered ones of the hostname. -/
  acme : mergeAcmeDefaults defaults.acme route.acme route.hostname = .ok config.acme
  /-- The policy of the hostname is the layered one. -/
  authorization :
    mergeAuthorizationDefaults defaults.authorization route.authorization =
      .ok config.authorization
  /-- The copy implementation is the nearest one. -/
  relayMode : config.relayMode = (route.relayMode.or defaults.relayMode).getD RelayMode.auto
  /-- Passthrough is the nearest one. -/
  tcpPassthrough :
    config.tcpPassthrough = (route.tcpPassthrough.or defaults.tcpPassthrough).getD true
  /-- One fallback rule, then one rule for each path. -/
  backendRules : ∃ backendAddr pathRules,
    config.backendRules =
      fallbackRule defaults route (route.pattern.getD route.hostname) backendAddr :: pathRules ∧
    List.Forall₂ (fun pathRoute rule =>
      expandPathRoute defaults route (route.pattern.getD route.hostname) pathRoute = .ok rule)
      route.pathRoutes pathRules

/-- Expansion of one route resolves every inherited value. -/
theorem expandClientRoute_expanded {defaults : ClientConfigDefaults} {route : ClientRouteConfig}
    {config : ClientConfig} (h : expandClientRoute defaults route = .ok config) :
    ExpandedFrom defaults route config := by
  simp only [expandClientRoute, bind_eq_ok, Except.ok.injEq] at h
  obtain ⟨_, -, _, -, natsUrl, -, backendAddr, -, oauth, -, acme, hacme, authorization, hauth,
    pathRules, hrules, rfl⟩ := h
  exact ⟨hacme, hauth, rfl, rfl, backendAddr, pathRules, rfl, collect_eq_ok.mp hrules⟩

/-- Routes expand exactly when their identifiers are new and different and
each of them expands. -/
theorem expandRoutesFrom_eq_ok {defaults : ClientConfigDefaults} {seen : List String} {index : ℕ}
    {routes : List ClientRouteConfig} {configs : List ClientConfig} :
    expandRoutesFrom defaults seen index routes = .ok configs ↔
      (∀ route ∈ routes, route.clientId ∉ seen) ∧ (routes.map (·.clientId)).Nodup ∧
        List.Forall₂ (fun route config => expandClientRoute defaults route = .ok config)
          routes configs := by
  induction routes generalizing seen index configs with
  | nil =>
    rw [expandRoutesFrom, List.forall₂_nil_left_iff]
    simp [eq_comm]
  | cons route routes ih =>
    simp only [expandRoutesFrom, bind_eq_ok, ensure_eq_ok, withContext_eq_ok, ih, Except.ok.injEq,
      Bool.not_eq_true', List.contains_eq_mem, decide_eq_false_iff_not, List.forall_mem_cons,
      List.map_cons, List.nodup_cons, List.forall₂_cons_left_iff]
    constructor
    · rintro ⟨_, hnew, config, hconfig, rest, ⟨hseen, hdistinct, hrest⟩, rfl⟩
      refine ⟨⟨hnew, fun other hm hs => hseen other hm (List.mem_cons_of_mem _ hs)⟩,
        ⟨?_, hdistinct⟩, config, rest, hconfig, hrest, rfl⟩
      intro hm
      obtain ⟨other, hother, hsame⟩ := List.mem_map.mp hm
      exact hseen other hother (hsame ▸ List.mem_cons_self)
    · rintro ⟨⟨hnew, hseen⟩, ⟨hfirst, hdistinct⟩, config, rest, hconfig, hrest, rfl⟩
      refine ⟨(), hnew, config, hconfig, rest, ⟨?_, hdistinct, hrest⟩, rfl⟩
      intro other hm hs
      rcases List.mem_cons.mp hs with hsame | hs
      · exact hfirst (hsame ▸ List.mem_map_of_mem hm)
      · exact hseen other hm hs

/-- The concrete configurations of a multi-route file follow its routes. -/
theorem documentConfigs_multiRoute {file : MultiRouteClientConfig} {configs : List ClientConfig}
    (h : documentConfigs (.multiRoute file) = .ok configs) :
    List.Forall₂ (ExpandedFrom file.defaults) file.routes configs := by
  simp only [documentConfigs, withContext_eq_ok, expandClientRoutes, bind_eq_ok] at h
  obtain ⟨_, -, hroutes⟩ := h
  exact (expandRoutesFrom_eq_ok.mp hroutes).2.2.imp fun _ _ => expandClientRoute_expanded

/-- A document is accepted exactly when all its configurations are valid. -/
theorem parseClientConfigs_eq_ok {document : ClientConfigDocument} {configs : List ClientConfig} :
    parseClientConfigs document = .ok configs ↔
      documentConfigs document = .ok configs ∧
        ∀ config ∈ configs, validateClientConfig config = .ok () := by
  simp only [parseClientConfigs, bind_eq_ok, checkAll_eq_ok, Except.ok.injEq]
  constructor
  · rintro ⟨found, hfound, _, hvalid, rfl⟩
    exact ⟨hfound, hvalid⟩
  · rintro ⟨hfound, hvalid⟩
    exact ⟨configs, hfound, (), hvalid, rfl⟩

/-- A path that starts with a slash and has no query or fragment. -/
def ValidPrefix (pathPrefix : String) : Prop :=
  (startsWith pathPrefix "/" && !containsAny pathPrefix ['?', '#']) = true

/-- A prefix passes exactly when it is valid and new. -/
theorem validatePathPrefix_eq_ok {prefixes : List String} {pathPrefix : String} :
    validatePathPrefix prefixes pathPrefix = .ok () ↔
      ValidPrefix pathPrefix ∧ pathPrefix ∉ prefixes := by
  simp only [validatePathPrefix, bind_eq_ok, ensure_eq_ok, Bool.not_eq_true',
    List.contains_eq_mem, decide_eq_false_iff_not]
  constructor
  · rintro ⟨_, hvalid, hnew⟩
    exact ⟨hvalid, hnew⟩
  · rintro ⟨hvalid, hnew⟩
    exact ⟨(), hvalid, hnew⟩

/-- Rules pass exactly when their policies are valid and their prefixes are
valid, new and different. -/
theorem validateRules_eq_ok {prefixes : List String} {rules : List BackendRule} :
    validateRules prefixes rules = .ok () ↔
      (∀ rule ∈ rules, checkSome validateAuthorization rule.authorization = .ok ()) ∧
      (∀ pathPrefix ∈ rules.filterMap (·.pathPrefix),
        ValidPrefix pathPrefix ∧ pathPrefix ∉ prefixes) ∧
      (rules.filterMap (·.pathPrefix)).Nodup := by
  induction rules generalizing prefixes with
  | nil => simp [validateRules]
  | cons rule rules ih =>
    rw [validateRules, List.forall_mem_cons]
    cases hpathPrefix : rule.pathPrefix with
    | none =>
      rw [List.filterMap_cons_none hpathPrefix]
      constructor
      · intro h
        obtain ⟨_, -, h⟩ := bind_eq_ok.mp h
        obtain ⟨_, hpolicy, hrest⟩ := bind_eq_ok.mp h
        have hrest := ih.mp hrest
        exact ⟨⟨hpolicy, hrest.1⟩, hrest.2⟩
      · rintro ⟨⟨hpolicy, hpolicies⟩, hprefixes⟩
        exact bind_eq_ok.mpr ⟨(), rfl, bind_eq_ok.mpr ⟨(), hpolicy, ih.mpr ⟨hpolicies, hprefixes⟩⟩⟩
    | some pathPrefix =>
      rw [List.filterMap_cons_some hpathPrefix, List.forall_mem_cons, List.nodup_cons]
      constructor
      · intro h
        obtain ⟨_, hfirst, h⟩ := bind_eq_ok.mp h
        obtain ⟨_, hpolicy, hrest⟩ := bind_eq_ok.mp h
        obtain ⟨hpolicies, hprefixes, hdistinct⟩ := ih.mp hrest
        refine ⟨⟨hpolicy, hpolicies⟩, ⟨validatePathPrefix_eq_ok.mp hfirst, ?_⟩, ?_, hdistinct⟩
        · intro other hm
          exact ⟨(hprefixes other hm).1, fun hseen =>
            (hprefixes other hm).2 (List.mem_append_right _ hseen)⟩
        · intro hm
          exact (hprefixes pathPrefix hm).2 (List.mem_append_left _ List.mem_cons_self)
      · rintro ⟨⟨hpolicy, hpolicies⟩, ⟨hfirst, hprefixes⟩, hother, hdistinct⟩
        refine bind_eq_ok.mpr ⟨(), validatePathPrefix_eq_ok.mpr hfirst, bind_eq_ok.mpr
          ⟨(), hpolicy, ih.mpr ⟨hpolicies, ?_, hdistinct⟩⟩⟩
        intro other hm
        refine ⟨(hprefixes other hm).1, fun hseen => ?_⟩
        rcases List.mem_append.mp hseen with hsame | hseen
        · rw [List.mem_singleton.mp hsame] at hm
          exact hother hm
        · exact (hprefixes other hm).2 hseen

/-- A policy that occurs anywhere in a valid configuration is valid, and the
configuration terminates TLS locally. -/
theorem validateClientConfig_policy {config : ClientConfig}
    (h : validateClientConfig config = .ok ()) {policy : ClientAuthorizationConfig}
    (hp : config.authorization = some policy ∨
      ∃ rule ∈ config.backendRules, rule.authorization = some policy) :
    config.acme.isSome = true ∧ validateAuthorization policy = .ok () := by
  simp only [validateClientConfig, bind_eq_ok, ensure_eq_ok, checkSome_eq_ok] at h
  obtain ⟨_, hacme, _, -, _, hrules, hown⟩ := h
  have hsome : (config.authorization.isSome ||
      config.backendRules.any fun rule => rule.authorization.isSome) = true := by
    rcases hp with hp | ⟨rule, hm, hp⟩
    · simp [hp]
    · have hany : (config.backendRules.any fun rule => rule.authorization.isSome) = true :=
        List.any_eq_true.mpr ⟨rule, hm, by rw [hp]; rfl⟩
      rw [hany, Bool.or_true]
  constructor
  · simpa [hsome] using hacme
  · rcases hp with hp | ⟨rule, hm, hp⟩
    · exact hown policy hp
    · exact checkSome_eq_ok.mp ((validateRules_eq_ok.mp hrules).1 rule hm) policy hp

/-- A valid active bearer policy names some algorithm. -/
theorem validateAuthorization_algorithms {policy : ClientAuthorizationConfig}
    (h : validateAuthorization policy = .ok ()) (hb : policy.bearerEnabled = true) :
    policy.algorithms ≠ [] := by
  simp only [validateAuthorization, validateBearer, bind_eq_ok, ensure_eq_ok, checkWhen_eq_ok] at h
  obtain ⟨_, -, _, -, _, hbearer, -⟩ := h
  obtain ⟨_, -, _, -, halgorithms⟩ := hbearer hb
  simpa using halgorithms

end LfpPipe.ConfigExpansion
