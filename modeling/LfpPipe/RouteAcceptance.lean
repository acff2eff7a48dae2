import LfpPipe.StartupValidation

/-!
# When a multi-route file is accepted

Expansion and validation interleave their checks over routes, layers and
rules. The results below sort them by route: a file whose routes can all
fetch tickets is accepted exactly when its identifiers differ and every route
meets its own requirements.
-/

namespace LfpPipe.RouteAcceptance

open RustText Fallible SharedConfig ConfigExpansion PolicyResolution
open StartupValidation

/-- A demanded policy has an issuer and is valid. -/
def PolicyAccepted (layers : List ClientAuthorizationDefaults) : Prop :=
  Demanded layers → ∃ issuer, nonBlankStringValue layers (·.issuer) = some issuer ∧
    validateAuthorization (resolvedPolicy layers issuer) = .ok ()

/-- Layers are accepted exactly when they resolve to nothing or to a valid
policy. -/
theorem policyAccepted_iff {layers : List ClientAuthorizationDefaults} :
    PolicyAccepted layers ↔ ∃ policy, mergeAuthorizationLayers layers = .ok policy ∧
      checkSome validateAuthorization policy = .ok () := by
  constructor
  · intro haccepted
    by_cases hdemanded : Demanded layers
    · obtain ⟨issuer, hissuer, hvalid⟩ := haccepted hdemanded
      exact ⟨some (resolvedPolicy layers issuer),
        mergeAuthorizationLayers_eq_ok_iff.mpr (.inr ⟨issuer, hdemanded, hissuer, rfl⟩), hvalid⟩
    · exact ⟨none, mergeAuthorizationLayers_eq_ok_iff.mpr (.inl ⟨hdemanded, rfl⟩), rfl⟩
  · rintro ⟨policy, hmerge, hvalid⟩ hdemanded
    rcases mergeAuthorizationLayers_eq_ok_iff.mp hmerge with ⟨hnot, -⟩ | ⟨issuer, -, hissuer, rfl⟩
    · exact absurd hdemanded hnot
    · exact ⟨issuer, hissuer, hvalid⟩

/-- A policy that resolved is there exactly when it is demanded. -/
theorem isSome_of_merge {layers : List ClientAuthorizationDefaults}
    {policy : Option ClientAuthorizationConfig}
    (h : mergeAuthorizationLayers layers = .ok policy) :
    policy.isSome = true ↔ Demanded layers := by
  rcases mergeAuthorizationLayers_eq_ok_iff.mp h with ⟨hnot, rfl⟩ | ⟨issuer, hdemanded, -, rfl⟩
  · exact iff_of_false (by decide) hnot
  · exact iff_of_true rfl hdemanded

/-- The exchange settings that a ticket needs. -/
def oauthSettings : List (ClientOAuthDefaults → Option String) :=
  [(·.tokenUrl), (·.providerClientId), (·.username), (·.clientSecretFile), (·.controlPlaneUrl)]

/-- Exchange settings resolve exactly when each needed one is set. -/
theorem mergeOAuthDefaults_isSome_iff {defaults route : Option ClientOAuthDefaults}
    (hostname : String) :
    (∃ oauth, mergeOAuthDefaults defaults route hostname = .ok oauth ∧ oauth.isSome = true) ↔
      ∀ select ∈ oauthSettings, (layered defaults route select).isSome = true := by
  by_cases hnone : defaults.isNone && route.isNone
  · rw [mergeOAuthDefaults, if_pos hnone]
    rw [Bool.and_eq_true, Option.isNone_iff_eq_none, Option.isNone_iff_eq_none] at hnone
    rw [hnone.1, hnone.2]
    constructor
    · rintro ⟨oauth, hoauth, hsome⟩
      cases hoauth
      cases hsome
    · intro hset
      have htoken := hset (·.tokenUrl) (by simp [oauthSettings])
      cases htoken
  · rw [mergeOAuthDefaults, if_neg hnone]
    simp only [requiredOAuthValue, bind_eq_ok, orMissing_eq_ok, Except.ok.injEq, oauthSettings,
      List.forall_mem_cons, List.not_mem_nil, false_implies, implies_true, and_true,
      Option.isSome_iff_exists]
    constructor
    · rintro ⟨_, ⟨tokenUrl, htoken, provider, hprovider, username, husername, secret, hsecret,
        control, hcontrol, -⟩, -⟩
      exact ⟨⟨tokenUrl, htoken⟩, ⟨provider, hprovider⟩, ⟨username, husername⟩, ⟨secret, hsecret⟩,
        control, hcontrol⟩
    · rintro ⟨⟨tokenUrl, htoken⟩, ⟨provider, hprovider⟩, ⟨username, husername⟩, ⟨secret, hsecret⟩,
        control, hcontrol⟩
      exact ⟨_, ⟨tokenUrl, htoken, provider, hprovider, username, husername, secret, hsecret,
        control, hcontrol, rfl⟩, _, rfl⟩

/-- The layers ask for local TLS termination. -/
def TerminatesTls (defaults route : Option ClientAcmeDefaults) : Prop :=
  (defaults.isSome = true ∨ route.isSome = true) ∧
    (layered defaults route (·.enabled)).getD true = true

/-- Certificate settings resolve exactly when a terminating route has a cache
directory that is not blank. -/
theorem mergeAcmeDefaults_iff {defaults route : Option ClientAcmeDefaults} (hostname : String) :
    (∃ acme, mergeAcmeDefaults defaults route hostname = .ok acme) ↔
      (TerminatesTls defaults route →
        isBlank ((layered defaults route (·.cacheDir)).getD defaultAcmeCacheDir) = false) := by
  rw [mergeAcmeDefaults, TerminatesTls]
  by_cases hnone : defaults.isNone && route.isNone
  · rw [if_pos hnone]
    rw [Bool.and_eq_true, Option.isNone_iff_eq_none, Option.isNone_iff_eq_none] at hnone
    rw [hnone.1, hnone.2]
    simp
  · have hsome : defaults.isSome = true ∨ route.isSome = true := by
      cases defaults <;> cases route <;> simp_all
    rw [if_neg hnone]
    cases hswitch : (layered defaults route (·.enabled)).getD true with
    | false => simp
    | true => simp [hsome]

/-- Certificate settings that resolved are there exactly for a terminating
route. -/
theorem isSome_of_mergeAcme {defaults route : Option ClientAcmeDefaults} {hostname : String}
    {acme : Option ClientAcmeConfig} (h : mergeAcmeDefaults defaults route hostname = .ok acme) :
    acme.isSome = true ↔ TerminatesTls defaults route :=
  (mergeAcmeDefaults_active h).1

/-- An expanded configuration passes exactly when it terminates TLS where it
inspects requests, its paths pass and its own policy does. -/
theorem validateClientConfig_eq_ok {config : ClientConfig} {fallback : BackendRule}
    {pathRules : List BackendRule} (hrules : config.backendRules = fallback :: pathRules)
    (hfallback : fallback.pathPrefix = none) (hplain : fallback.authorization = none)
    (hpaths : ∀ rule ∈ pathRules, rule.pathPrefix.isSome = true) :
    validateClientConfig config = .ok () ↔
      (pathRules ≠ [] ∨ config.authorization.isSome = true → config.acme.isSome = true) ∧
      ((∀ rule ∈ pathRules, checkSome validateAuthorization rule.authorization = .ok ()) ∧
        (∀ pathPrefix ∈ pathRules.filterMap (·.pathPrefix), ValidPrefix pathPrefix) ∧
        (pathRules.filterMap (·.pathPrefix)).Nodup) ∧
      checkSome validateAuthorization config.authorization = .ok () := by
  have hprefixes : ((fallback :: pathRules).any fun rule => rule.pathPrefix.isSome) =
      !pathRules.isEmpty := by
    rw [List.any_cons, hfallback, Option.isSome_none, Bool.false_or]
    cases pathRules with
    | nil => rfl
    | cons rule rules => rw [List.any_cons, hpaths rule List.mem_cons_self]; rfl
  have hcount : ((fallback :: pathRules).filter fun rule => rule.pathPrefix.isNone).length = 1 := by
    have hnone : pathRules.filter (fun rule => rule.pathPrefix.isNone) = [] := by
      rw [List.filter_eq_nil_iff]
      intro rule hm hnone
      rw [Option.isNone_iff_eq_none] at hnone
      have hsome := hpaths rule hm
      rw [hnone] at hsome
      cases hsome
    rw [List.filter_cons_of_pos (by rw [hfallback]; rfl), hnone]
    rfl
  have hplainRule : checkSome validateAuthorization fallback.authorization = .ok () := by
    rw [hplain]
    rfl
  have htls : (((!!pathRules.isEmpty) && !(config.authorization.isSome ||
      (fallback :: pathRules).any fun rule => rule.authorization.isSome)) ||
        config.acme.isSome) = true ↔
      (pathRules ≠ [] ∨ config.authorization.isSome = true → config.acme.isSome = true) := by
    rw [List.any_cons, hplain, Option.isSome_none, Bool.false_or]
    cases pathRules with
    | nil => cases config.authorization <;> cases config.acme <;> simp
    | cons rule rules => cases config.acme <;> simp
  have hpass : validateRules [] (fallback :: pathRules) = .ok () ↔
      (∀ rule ∈ pathRules, checkSome validateAuthorization rule.authorization = .ok ()) ∧
        (∀ pathPrefix ∈ pathRules.filterMap (·.pathPrefix), ValidPrefix pathPrefix) ∧
        (pathRules.filterMap (·.pathPrefix)).Nodup := by
    simp only [validateRules_eq_ok, List.forall_mem_cons, hplainRule, true_and,
      List.filterMap_cons_none hfallback, List.not_mem_nil, not_false_eq_true, and_true]
  rw [validateClientConfig, hrules, hprefixes, hcount]
  simp only [bind_eq_ok, ensure_eq_ok, htls]
  constructor
  · rintro ⟨_, hacme, _, -, _, hrest, hown⟩
    exact ⟨hacme, hpass.mp hrest, hown⟩
  · rintro ⟨hacme, hrest, hown⟩
    exact ⟨(), hacme, (), by simp, (), hpass.mpr hrest, hown⟩

/-- What one route needs to be accepted with ticket exchange. -/
structure RouteAccepted (defaults : ClientConfigDefaults) (route : ClientRouteConfig) :
    Prop where
  /-- The client identifier is not blank. -/
  clientId : isBlank route.clientId = false
  /-- The hostname is not blank. -/
  hostname : isBlank route.hostname = false
  /-- There is a control-message server. -/
  natsUrl : (route.natsUrl.or defaults.natsUrl).isSome = true
  /-- There is a destination of raw traffic. -/
  backendAddr : (route.backendAddr.or defaults.backendAddr).isSome = true
  /-- Every needed exchange setting is set. -/
  oauth : ∀ select ∈ oauthSettings, (layered defaults.oauth route.oauth select).isSome = true
  /-- A terminating route has a cache directory that is not blank. -/
  cacheDir : TerminatesTls defaults.acme route.acme →
    isBlank ((layered defaults.acme route.acme (·.cacheDir)).getD defaultAcmeCacheDir) = false
  /-- A route that inspects requests terminates TLS. -/
  tls : route.pathRoutes ≠ [] ∨ Demanded (routeLayers defaults route) →
    TerminatesTls defaults.acme route.acme
  /-- The policy of the hostname is accepted. -/
  policy : PolicyAccepted (routeLayers defaults route)
  /-- The policies of the paths are accepted. -/
  pathPolicies : ∀ pathRoute ∈ route.pathRoutes,
    PolicyAccepted (pathLayers defaults route pathRoute)
  /-- The prefixes of the paths are valid. -/
  prefixes : ∀ pathRoute ∈ route.pathRoutes, ValidPrefix pathRoute.pathPrefix
  /-- The prefixes of the paths differ. -/
  distinct : (route.pathRoutes.map (·.pathPrefix)).Nodup

/-- The rules of expanded paths have the prefixes of the paths. -/
theorem filterMap_pathPrefix {defaults : ClientConfigDefaults} {route : ClientRouteConfig}
    {pattern : String} {pathRoutes : List ClientPathRouteConfig} {rules : List BackendRule}
    (h : List.Forall₂ (fun pathRoute rule =>
      expandPathRoute defaults route pattern pathRoute = .ok rule) pathRoutes rules) :
    rules.filterMap (·.pathPrefix) = pathRoutes.map (·.pathPrefix) := by
  induction h with
  | nil => rfl
  | cons hfirst hrest ih =>
    rw [List.filterMap_cons_some (expandPathRoute_resolves hfirst).1, List.map_cons, ih]

/-- The policies of expanded paths pass exactly when those of the paths are
accepted. -/
theorem pathPolicies_iff {defaults : ClientConfigDefaults} {route : ClientRouteConfig}
    (pattern : String) {pathRoutes : List ClientPathRouteConfig} :
    (∃ rules, collect (expandPathRoute defaults route pattern) pathRoutes = .ok rules ∧
      ∀ rule ∈ rules, checkSome validateAuthorization rule.authorization = .ok ()) ↔
    ∀ pathRoute ∈ pathRoutes, PolicyAccepted (pathLayers defaults route pathRoute) := by
  constructor
  · rintro ⟨rules, hrules, hvalid⟩ pathRoute hm
    obtain ⟨rule, hrule, hexpand⟩ := exists_mem_of_forall₂ (collect_eq_ok.mp hrules).flip hm
    exact policyAccepted_iff.mpr ⟨_,
      mergeAuthorizationLayers_eq_ok.mpr (expandPathRoute_resolves hexpand).2.2, hvalid rule hrule⟩
  · intro haccepted
    have hexpand : ∀ pathRoute ∈ pathRoutes,
        Succeeds (expandPathRoute defaults route pattern pathRoute) := by
      intro pathRoute hm
      obtain ⟨policy, hmerge, -⟩ := policyAccepted_iff.mp (haccepted pathRoute hm)
      rw [expandPathRoute, hmerge]
      exact succeeds_ok _
    obtain ⟨rules, hrules⟩ := succeeds_collect.mpr hexpand
    refine ⟨rules, hrules, ?_⟩
    intro rule hrule
    obtain ⟨pathRoute, hm, hone⟩ := exists_mem_of_forall₂ (collect_eq_ok.mp hrules) hrule
    obtain ⟨policy, hmerge, hvalid⟩ := policyAccepted_iff.mp (haccepted pathRoute hm)
    have hsame := mergeAuthorizationLayers_eq_ok.mpr (expandPathRoute_resolves hone).2.2
    rw [hmerge] at hsame
    cases hsame
    exact hvalid

/-- A route expands to a valid configuration with ticket exchange exactly
when it meets its requirements. -/
theorem routeAccepted_iff {defaults : ClientConfigDefaults} {route : ClientRouteConfig} :
    RouteAccepted defaults route ↔ ∃ config, expandClientRoute defaults route = .ok config ∧
      validateClientConfig config = .ok () ∧ config.oauth.isSome = true := by
  have hsome : ∀ {rules : List BackendRule}, List.Forall₂ (fun pathRoute rule =>
      expandPathRoute defaults route (route.pattern.getD route.hostname) pathRoute = .ok rule)
      route.pathRoutes rules → ∀ rule ∈ rules, rule.pathPrefix.isSome = true := by
    intro rules hforall rule hm
    obtain ⟨pathRoute, -, hone⟩ := exists_mem_of_forall₂ hforall hm
    rw [(expandPathRoute_resolves hone).1]
    rfl
  have hempty : ∀ {rules : List BackendRule}, List.Forall₂ (fun pathRoute rule =>
      expandPathRoute defaults route (route.pattern.getD route.hostname) pathRoute = .ok rule)
      route.pathRoutes rules → (rules ≠ [] ↔ route.pathRoutes ≠ []) := by
    intro rules hforall
    rw [← List.length_pos_iff, ← List.length_pos_iff, hforall.length_eq]
  constructor
  · intro haccepted
    obtain ⟨natsUrl, hnats⟩ := Option.isSome_iff_exists.mp haccepted.natsUrl
    obtain ⟨backendAddr, hbackend⟩ := Option.isSome_iff_exists.mp haccepted.backendAddr
    obtain ⟨oauth, hoauth, hticket⟩ :=
      (mergeOAuthDefaults_isSome_iff route.hostname).mpr haccepted.oauth
    obtain ⟨acme, hacme⟩ :=
      (mergeAcmeDefaults_iff route.hostname).mpr haccepted.cacheDir
    obtain ⟨authorization, hmerge, hown⟩ := policyAccepted_iff.mp haccepted.policy
    obtain ⟨rules, hrules, hpolicies⟩ :=
      (pathPolicies_iff (route.pattern.getD route.hostname)).mpr haccepted.pathPolicies
    have hforall := collect_eq_ok.mp hrules
    obtain ⟨config, hexpand, hconfigOAuth, hconfigAcme, hconfigPolicy, hconfigRules⟩ :
        ∃ config, expandClientRoute defaults route = .ok config ∧ config.oauth = oauth ∧
          config.acme = acme ∧ config.authorization = authorization ∧ config.backendRules =
            fallbackRule defaults route (route.pattern.getD route.hostname) backendAddr ::
              rules := by
      simp only [expandClientRoute, bind_eq_ok, ensure_eq_ok, orMissing_eq_ok]
      exact ⟨_, ⟨(), by rw [haccepted.clientId]; rfl, (), by rw [haccepted.hostname]; rfl,
        natsUrl, hnats, backendAddr, hbackend, oauth, hoauth, acme, hacme, authorization, hmerge,
        rules, hrules, rfl⟩, rfl, rfl, rfl, rfl⟩
    refine ⟨config, hexpand, ?_, hconfigOAuth ▸ hticket⟩
    refine (validateClientConfig_eq_ok hconfigRules rfl rfl (hsome hforall)).mpr
      ⟨?_, ⟨hpolicies, ?_, ?_⟩, hconfigPolicy ▸ hown⟩
    · rw [hconfigAcme, hconfigPolicy, hempty hforall, isSome_of_merge hmerge,
        isSome_of_mergeAcme hacme]
      exact haccepted.tls
    · rw [filterMap_pathPrefix hforall]
      intro pathPrefix hm
      obtain ⟨pathRoute, hroute, rfl⟩ := List.mem_map.mp hm
      exact haccepted.prefixes pathRoute hroute
    · rw [filterMap_pathPrefix hforall]
      exact haccepted.distinct
  · rintro ⟨config, hexpand, hvalid, hticket⟩
    simp only [expandClientRoute, bind_eq_ok, ensure_eq_ok, orMissing_eq_ok, Except.ok.injEq,
      Bool.not_eq_true'] at hexpand
    obtain ⟨_, hclient, _, hhostname, natsUrl, hnats, backendAddr, hbackend, oauth, hoauth, acme,
      hacme, authorization, hmerge, rules, hrules, rfl⟩ := hexpand
    have hforall := collect_eq_ok.mp hrules
    obtain ⟨htls, ⟨hpolicies, hprefixes, hdistinct⟩, hown⟩ :=
      (validateClientConfig_eq_ok rfl rfl rfl (hsome hforall)).mp hvalid
    rw [filterMap_pathPrefix hforall] at hprefixes hdistinct
    rw [hempty hforall, isSome_of_merge hmerge, isSome_of_mergeAcme hacme] at htls
    exact {
      clientId := hclient
      hostname := hhostname
      natsUrl := by rw [hnats]; rfl
      backendAddr := by rw [hbackend]; rfl
      oauth := (mergeOAuthDefaults_isSome_iff _).mp ⟨oauth, hoauth, hticket⟩
      cacheDir := (mergeAcmeDefaults_iff _).mp ⟨acme, hacme⟩
      tls := htls
      policy := policyAccepted_iff.mpr ⟨authorization, hmerge, hown⟩
      pathPolicies := (pathPolicies_iff _).mp ⟨rules, hrules, hpolicies⟩
      prefixes := fun pathRoute hm => hprefixes _ (List.mem_map_of_mem hm)
      distinct := hdistinct }

/-- A multi-route file is accepted with ticket exchange for every route
exactly when it has a route, the identifiers differ and every route meets its
requirements. -/
theorem fileAccepted_iff {file : MultiRouteClientConfig} :
    (∃ configs, parseClientConfigs (.multiRoute file) = .ok configs ∧
      ∀ config ∈ configs, config.oauth.isSome = true) ↔
    file.routes ≠ [] ∧ (file.routes.map (·.clientId)).Nodup ∧
      ∀ route ∈ file.routes, RouteAccepted file.defaults route := by
  simp only [parseClientConfigs_eq_ok, documentConfigs, withContext_eq_ok, expandClientRoutes,
    bind_eq_ok, ensure_eq_ok, Bool.not_eq_true', List.isEmpty_eq_false_iff, expandRoutesFrom_eq_ok]
  constructor
  · rintro ⟨configs, ⟨⟨_, hfull, -, hdistinct, hexpand⟩, hvalid⟩, hticket⟩
    refine ⟨hfull, hdistinct, ?_⟩
    intro route hm
    obtain ⟨config, hconfig, hone⟩ := exists_mem_of_forall₂ hexpand.flip hm
    exact routeAccepted_iff.mpr ⟨config, hone, hvalid config hconfig, hticket config hconfig⟩
  · rintro ⟨hfull, hdistinct, haccepted⟩
    have hexpand : ∀ route ∈ file.routes, Succeeds (expandClientRoute file.defaults route) := by
      intro route hm
      obtain ⟨config, hone, -⟩ := routeAccepted_iff.mp (haccepted route hm)
      exact ⟨config, hone⟩
    obtain ⟨configs, hconfigs⟩ := succeeds_collect.mpr hexpand
    have hforall := collect_eq_ok.mp hconfigs
    have hgood : ∀ config ∈ configs,
        validateClientConfig config = .ok () ∧ config.oauth.isSome = true := by
      intro config hm
      obtain ⟨route, hroute, hone⟩ := exists_mem_of_forall₂ hforall hm
      obtain ⟨found, hfound, hvalid, hticket⟩ := routeAccepted_iff.mp (haccepted route hroute)
      rw [hone] at hfound
      cases hfound
      exact ⟨hvalid, hticket⟩
    exact ⟨configs, ⟨⟨(), hfull, fun _ _ => List.not_mem_nil, hdistinct, hforall⟩,
      fun config hm => (hgood config hm).1⟩, fun config hm => (hgood config hm).2⟩

end LfpPipe.RouteAcceptance
