import LfpPipe.ClientSession
import LfpPipe.ConfigExpansion
import LfpPipe.LayeredSettings

/-!
# The effective policy of a request

What layered policy settings mean, stated field by field as first-defined
resolution, and the policy that a started session really attaches to the
backend of a request. The two agree for every accepted document, although
the code resolves policies in three different places.
-/

namespace LfpPipe.PolicyResolution

open RustText Fallible SharedConfig LayeredSettings ConfigExpansion SharedRouting
open ClientAuthorizer ClientSession

/-- A string setting that a blank text does not define. -/
def nonBlank (select : ClientAuthorizationDefaults → Option String)
    (settings : ClientAuthorizationDefaults) : Option String :=
  (select settings).filter fun value => !isBlank value

/-- A list setting that an empty list does not define. -/
def nonEmpty (select : ClientAuthorizationDefaults → Option (List String))
    (settings : ClientAuthorizationDefaults) : Option (List String) :=
  (select settings).filter fun value => !value.isEmpty

/-- Every field of a policy is the first defined one of the layers. -/
structure FieldsResolved (layers : List ClientAuthorizationDefaults)
    (policy : ClientAuthorizationConfig) : Prop where
  bearer : FirstDefined (·.bearer) layers policy.bearer
  oidc : FirstDefined (·.oidc) layers policy.oidc
  issuer : FirstDefined (nonBlank (·.issuer)) layers (some policy.issuer)
  audiences : DefinedOr (nonEmpty (·.audiences)) layers [] policy.audiences
  jwksUri : FirstDefined (·.jwksUri) layers policy.jwksUri
  jwksCacheFile :
    DefinedOr (nonBlank (·.jwksCacheFile)) layers defaultJwksCacheFile policy.jwksCacheFile
  rolesClaim : DefinedOr (nonBlank (·.rolesClaim)) layers defaultRolesClaim policy.rolesClaim
  requiredRoles : DefinedOr (·.requiredRoles) layers [] policy.requiredRoles
  forwardAuthorization :
    DefinedOr (·.forwardAuthorization) layers false policy.forwardAuthorization
  roleMatch : DefinedOr (·.roleMatch) layers RoleMatch.any policy.roleMatch
  algorithms : DefinedOr (nonEmpty (·.algorithms)) layers defaultJwtAlgorithms policy.algorithms
  leewaySeconds : DefinedOr (·.leewaySeconds) layers defaultJwtLeewaySeconds policy.leewaySeconds
  jwksRefreshSeconds :
    DefinedOr (·.jwksRefreshSeconds) layers defaultJwksRefreshSeconds policy.jwksRefreshSeconds
  jwksMaxStaleSeconds :
    DefinedOr (·.jwksMaxStaleSeconds) layers defaultJwksMaxStaleSeconds policy.jwksMaxStaleSeconds
  headerTimeoutMs :
    DefinedOr (·.headerTimeoutMs) layers defaultAuthHeaderTimeoutMs policy.headerTimeoutMs
  maxHeaderBytes :
    DefinedOr (·.maxHeaderBytes) layers defaultAuthMaxHeaderBytes policy.maxHeaderBytes
  oidcClientId : FirstDefined (nonBlank (·.oidcClientId)) layers policy.oidcClientId
  oidcClientSecretFile : FirstDefined (·.oidcClientSecretFile) layers policy.oidcClientSecretFile
  oidcScopes : DefinedOr (nonEmpty (·.oidcScopes)) layers defaultBrowserOidcScopes policy.oidcScopes
  oidcCallbackPath :
    DefinedOr (nonBlank (·.oidcCallbackPath)) layers defaultOidcCallbackPath policy.oidcCallbackPath
  oidcLogoutPath :
    DefinedOr (nonBlank (·.oidcLogoutPath)) layers defaultOidcLogoutPath policy.oidcLogoutPath
  oidcSessionKeyFile :
    DefinedOr (nonBlank (·.oidcSessionKeyFile)) layers defaultOidcSessionKeyFile
      policy.oidcSessionKeyFile
  oidcSessionTtlSeconds :
    DefinedOr (·.oidcSessionTtlSeconds) layers defaultOidcSessionTtlSeconds
      policy.oidcSessionTtlSeconds

/-- There is no layer, or the first explicit switch is off. -/
def SwitchedOff (layers : List ClientAuthorizationDefaults) : Prop :=
  layers = [] ∨ FirstDefined (·.enabled) layers (some false)

/-- The meaning of layered settings: no policy exactly when they are
switched off, and otherwise the field-wise resolution. -/
def Resolves (layers : List ClientAuthorizationDefaults) :
    Option ClientAuthorizationConfig → Prop
  | none => SwitchedOff layers
  | some policy => ¬ SwitchedOff layers ∧ FieldsResolved layers policy

/-- The resolved record has every field resolved. -/
theorem fieldsResolved_iff {layers : List ClientAuthorizationDefaults}
    {policy : ClientAuthorizationConfig} :
    FieldsResolved layers policy ↔
      nonBlankStringValue layers (·.issuer) = some policy.issuer ∧
        policy = resolvedPolicy layers policy.issuer := by
  constructor
  · intro h
    refine ⟨h.issuer.eq_findSome?.symm, ?_⟩
    cases policy
    simp only [resolvedPolicy, ClientAuthorizationConfig.mk.injEq]
    exact ⟨firstDefined_iff.mp h.bearer, firstDefined_iff.mp h.oidc, trivial,
      definedOr_iff.mp h.audiences, firstDefined_iff.mp h.jwksUri,
      definedOr_iff.mp h.jwksCacheFile, definedOr_iff.mp h.rolesClaim,
      definedOr_iff.mp h.requiredRoles, definedOr_iff.mp h.forwardAuthorization,
      definedOr_iff.mp h.roleMatch, definedOr_iff.mp h.algorithms,
      definedOr_iff.mp h.leewaySeconds, definedOr_iff.mp h.jwksRefreshSeconds,
      definedOr_iff.mp h.jwksMaxStaleSeconds, definedOr_iff.mp h.headerTimeoutMs,
      definedOr_iff.mp h.maxHeaderBytes, firstDefined_iff.mp h.oidcClientId,
      firstDefined_iff.mp h.oidcClientSecretFile, definedOr_iff.mp h.oidcScopes,
      definedOr_iff.mp h.oidcCallbackPath, definedOr_iff.mp h.oidcLogoutPath,
      definedOr_iff.mp h.oidcSessionKeyFile, definedOr_iff.mp h.oidcSessionTtlSeconds⟩
  · rintro ⟨hissuer, hpolicy⟩
    rw [hpolicy]
    constructor
    case issuer => exact firstDefined_iff.mpr hissuer.symm
    all_goals first
      | exact firstDefined_iff.mpr rfl
      | exact definedOr_iff.mpr rfl

/-- The switch read by the code is off exactly when the meaning says so. -/
theorem switchedOff_iff {layers : List ClientAuthorizationDefaults} (h : layers ≠ []) :
    SwitchedOff layers ↔ (layers.findSome? (·.enabled)).getD true = false := by
  unfold SwitchedOff
  rw [firstDefined_iff]
  cases hf : layers.findSome? (·.enabled) with
  | none => simp [h]
  | some value => cases value <;> simp [h]

/-- The merge of the code computes exactly the meaning of the layers. -/
theorem mergeAuthorizationLayers_eq_ok {layers : List ClientAuthorizationDefaults}
    {policy : Option ClientAuthorizationConfig} :
    mergeAuthorizationLayers layers = .ok policy ↔ Resolves layers policy := by
  unfold mergeAuthorizationLayers
  by_cases hl : layers = []
  · subst hl
    cases policy with
    | none => simp [Resolves, SwitchedOff]
    | some policy => simp [Resolves, SwitchedOff]
  have hne : layers.isEmpty = false := by simpa using hl
  rw [hne, if_neg Bool.false_ne_true]
  cases he : (layers.findSome? (·.enabled)).getD true with
  | false =>
    have hoff : SwitchedOff layers := (switchedOff_iff hl).mpr he
    cases policy with
    | none => simp [Resolves, hoff]
    | some policy => simp [Resolves, hoff]
  | true =>
    have hon : ¬ SwitchedOff layers := by
      rw [switchedOff_iff hl, he]
      exact Bool.false_ne_true ∘ Eq.symm
    simp only [Bool.not_true, Bool.false_eq_true, if_false, requiredStringValue, bind_eq_ok,
      orMissing_eq_ok, Except.ok.injEq]
    cases policy with
    | none => simp [Resolves, hon]
    | some policy =>
      simp only [Resolves, hon, not_false_eq_true, true_and, fieldsResolved_iff, Option.some.injEq]
      constructor
      · rintro ⟨issuer, hissuer, rfl⟩
        exact ⟨hissuer, rfl⟩
      · rintro ⟨hissuer, hpolicy⟩
        exact ⟨policy.issuer, hissuer, hpolicy.symm⟩

/-- Layers that exist and are nowhere switched off give a policy. -/
theorem Resolves.isSome {layers : List ClientAuthorizationDefaults}
    {policy : Option ClientAuthorizationConfig} (h : Resolves layers policy) (hl : layers ≠ [])
    (hon : ∀ layer ∈ layers, layer.enabled ≠ some false) : policy.isSome = true := by
  cases policy with
  | some policy => rfl
  | none =>
    rcases h with hempty | hfirst
    · exact absurd hempty hl
    · have hf := hfirst.eq_findSome?
      obtain ⟨layer, hm, hv⟩ := List.exists_of_findSome?_eq_some hf.symm
      exact absurd hv (hon layer hm)

/-- The policy layers of the hostname itself, nearest first. -/
def routeLayers (defaults : ClientConfigDefaults) (route : ClientRouteConfig) :
    List ClientAuthorizationDefaults :=
  [route.authorization, defaults.authorization].filterMap id

/-- The path prefix and the applicable layers of every rule of a route: the
hostname itself first, then its paths. -/
def ruleSources (defaults : ClientConfigDefaults) (route : ClientRouteConfig) :
    List (Option String × List ClientAuthorizationDefaults) :=
  (none, routeLayers defaults route) ::
    route.pathRoutes.map fun pathRoute =>
      (some pathRoute.pathPrefix, pathLayers defaults route pathRoute)

/-- The policy that a document gives to rule `j` of its route `i`: layered
resolution in a multi-route file, and the rule's own policy or else the
document's in a flat one. -/
def EffectivePolicy (document : ClientConfigDocument) (i j : ℕ) (pathPrefix : Option String)
    (policy : Option ClientAuthorizationConfig) : Prop :=
  match document with
  | .multiRoute file => ∃ route layers, file.routes[i]? = some route ∧
      (ruleSources file.defaults route)[j]? = some (pathPrefix, layers) ∧ Resolves layers policy
  | .legacy config => i = 0 ∧ ∃ written, config.backendRules[j]? = some written ∧
      written.pathPrefix = pathPrefix ∧ policy = written.authorization.or config.authorization

/-- Some layer applies to rule `j` of route `i` and none is switched off. -/
def PolicyDemanded (document : ClientConfigDocument) (i j : ℕ) : Prop :=
  match document with
  | .multiRoute file => ∃ route pathPrefix layers, file.routes[i]? = some route ∧
      (ruleSources file.defaults route)[j]? = some (pathPrefix, layers) ∧ layers ≠ [] ∧
        ∀ layer ∈ layers, layer.enabled ≠ some false
  | .legacy config => ∃ written, config.backendRules[j]? = some written ∧
      (written.authorization.isSome = true ∨ config.authorization.isSome = true)

/-- Route `i` of a document answers for a hostname. -/
def ServesHostname (document : ClientConfigDocument) (i : ℕ) (hostname : Option String) : Prop :=
  match document with
  | .multiRoute file => ∃ route, file.routes[i]? = some route ∧
      matchesPattern (route.pattern.getD route.hostname) hostname = true
  | .legacy config => i = 0 ∧ ∃ rule ∈ config.backendRules, rule.pathPrefix = none ∧
      matchesPattern rule.pattern hostname = true

/-- A demanded policy is there. -/
theorem EffectivePolicy.isSome {document : ClientConfigDocument} {i j : ℕ}
    {pathPrefix : Option String} {policy : Option ClientAuthorizationConfig}
    (h : EffectivePolicy document i j pathPrefix policy) (hd : PolicyDemanded document i j) :
    policy.isSome = true := by
  cases document with
  | multiRoute file =>
    obtain ⟨route, layers, hr, hs, hres⟩ := h
    obtain ⟨route', pathPrefix', layers', hr', hs', hl, hon⟩ := hd
    have hroute : route' = route := Option.some.inj (hr'.symm.trans hr)
    subst hroute
    have hsource := Option.some.inj (hs'.symm.trans hs)
    cases hsource
    exact hres.isSome hl hon
  | legacy config =>
    obtain ⟨-, written, hw, -, rfl⟩ := h
    obtain ⟨written', hw', hp⟩ := hd
    have hwritten : written' = written := Option.some.inj (hw'.symm.trans hw)
    subst hwritten
    rw [Option.isSome_or]
    simpa using hp

/-- The rule of an expanded path has its prefix and its resolved policy. -/
theorem expandPathRoute_resolves {defaults : ClientConfigDefaults} {route : ClientRouteConfig}
    {pattern : String} {pathRoute : ClientPathRouteConfig} {rule : BackendRule}
    (h : expandPathRoute defaults route pattern pathRoute = .ok rule) :
    rule.pathPrefix = some pathRoute.pathPrefix ∧ rule.pattern = pattern ∧
      Resolves (pathLayers defaults route pathRoute) rule.authorization := by
  simp only [expandPathRoute, bind_eq_ok, Except.ok.injEq] at h
  obtain ⟨policy, hpolicy, rfl⟩ := h
  exact ⟨rfl, rfl, mergeAuthorizationLayers_eq_ok.mp hpolicy⟩

/-- Rule by rule, an expanded route attaches the policy of its layers. -/
theorem expanded_attachedPolicy {defaults : ClientConfigDefaults} {route : ClientRouteConfig}
    {config : ClientConfig} (h : ExpandedFrom defaults route config) :
    List.Forall₂ (fun source rule => source.1 = rule.pathPrefix ∧
      Resolves source.2 (attachedPolicy config rule))
      (ruleSources defaults route) config.backendRules := by
  obtain ⟨backendAddr, pathRules, hrules, hpaths⟩ := h.backendRules
  rw [hrules]
  refine .cons ⟨rfl, mergeAuthorizationLayers_eq_ok.mp h.authorization⟩ ?_
  rw [List.forall₂_map_left_iff]
  refine hpaths.imp ?_
  intro pathRoute rule hexpand
  obtain ⟨hstarts, -, hres⟩ := expandPathRoute_resolves hexpand
  refine ⟨hstarts.symm, ?_⟩
  rw [attachedPolicy, hstarts]
  exact hres

/-- Rule by rule, a flat file attaches the rule's own policy or else the
document's. -/
theorem inheritLegacyPolicy_attached (config : ClientConfig) :
    List.Forall₂ (fun written rule => written.pathPrefix = rule.pathPrefix ∧
      written.pattern = rule.pattern ∧
      attachedPolicy (inheritLegacyPolicy config) rule =
        written.authorization.or config.authorization)
      config.backendRules (inheritLegacyPolicy config).backendRules := by
  simp only [inheritLegacyPolicy, List.forall₂_map_right_iff, List.forall₂_same]
  intro written _
  unfold attachedPolicy
  cases hp : written.pathPrefix with
  | none => simp [hp]
  | some pathPrefix =>
    cases ha : written.authorization with
    | none => simp
    | some policy => simp [hp, ha]

/-- Every rule of an accepted document is attached its effective policy. -/
theorem attachedPolicy_effective {document : ClientConfigDocument} {configs : List ClientConfig}
    (h : documentConfigs document = .ok configs) {i j : ℕ} {config : ClientConfig}
    (hi : configs[i]? = some config) {rule : BackendRule}
    (hj : config.backendRules[j]? = some rule) :
    EffectivePolicy document i j rule.pathPrefix (attachedPolicy config rule) := by
  cases document with
  | multiRoute file =>
    obtain ⟨route, hr, hexpanded⟩ := exists_getElem?_of_forall₂ (documentConfigs_multiRoute h) hi
    obtain ⟨⟨pathPrefix, layers⟩, hs, hp, hres⟩ :=
      exists_getElem?_of_forall₂ (expanded_attachedPolicy hexpanded) hj
    dsimp only at hp hres
    exact ⟨route, layers, hr, hp ▸ hs, hres⟩
  | legacy written =>
    cases h
    cases i with
    | succ i => simp at hi
    | zero =>
      cases hi
      obtain ⟨rule', hw, hp, -, ha⟩ :=
        exists_getElem?_of_forall₂ (inheritLegacyPolicy_attached written) hj
      exact ⟨rfl, rule', hw, hp, ha⟩

/-- A route that answers for a hostname has a matching fallback rule. -/
theorem ServesHostname.exists_fallback {document : ClientConfigDocument}
    {configs : List ClientConfig} (h : documentConfigs document = .ok configs) {i : ℕ}
    {config : ClientConfig} (hi : configs[i]? = some config) {hostname : Option String}
    (hs : ServesHostname document i hostname) :
    ∃ rule ∈ config.backendRules, rule.pathPrefix = none ∧
      matchesPattern rule.pattern hostname = true := by
  cases document with
  | multiRoute file =>
    obtain ⟨route, hr, hmatch⟩ := hs
    obtain ⟨route', hr', hexpanded⟩ := exists_getElem?_of_forall₂ (documentConfigs_multiRoute h) hi
    have hroute : route' = route := Option.some.inj (hr'.symm.trans hr)
    subst hroute
    obtain ⟨backendAddr, pathRules, hrules, -⟩ := hexpanded.backendRules
    refine ⟨fallbackRule file.defaults route' (route'.pattern.getD route'.hostname) backendAddr,
      ?_, rfl, hmatch⟩
    rw [hrules]
    exact List.mem_cons_self
  | legacy written =>
    obtain ⟨rfl, rule, hm, hp, hmatch⟩ := hs
    cases h
    cases hi
    refine ⟨rule, ?_, hp, hmatch⟩
    simp only [inheritLegacyPolicy, List.mem_map]
    exact ⟨rule, hm, by simp [hp]⟩

/-- The policy attached to the backend that a request selects is the
effective policy of the document for that rule, and a demanded policy is
there. A route that answers for the hostname selects some backend. -/
theorem selected_policy_effective {Key : Type} {ext : Externals Key} {env : LoadEnv Key}
    {document : ClientConfigDocument} {configs : List ClientConfig}
    (hparse : parseClientConfigs document = .ok configs) {i : ℕ} {config : ClientConfig}
    (hi : configs[i]? = some config) {state : AppState Key}
    (hstart : processMessages ext env config = .ok state) (hostname : Option String)
    (path : String) :
    (ServesHostname document i hostname →
      ∃ backend, selectRuntimeForPath state.backends hostname path = some backend) ∧
    ∀ backend, selectRuntimeForPath state.backends hostname path = some backend →
      ∃ j, state.backends[j]? = some backend ∧
        EffectivePolicy document i j backend.rule.pathPrefix
          (backend.authorization.map fun authorizer => authorizer.config) ∧
        (PolicyDemanded document i j → backend.authorization.isSome = true) := by
  have hconfigs := (parseClientConfigs_eq_ok.mp hparse).1
  obtain ⟨-, -, hbackends⟩ := processMessages_backends hstart
  constructor
  · intro hs
    obtain ⟨rule, hm, hp, hmatch⟩ := hs.exists_fallback hconfigs hi
    obtain ⟨j, hj⟩ := List.getElem?_of_mem hm
    obtain ⟨backend, hb, hof⟩ := exists_getElem?_of_forall₂ hbackends.flip hj
    apply exists_selectRuntimeForPath (List.mem_of_getElem? hb)
    rw [BackendRuntime.isFallback, BackendRuntime.matchesHostname, hof.1, hmatch, hp]
    rfl
  · intro backend hselect
    obtain ⟨j, hb⟩ := List.getElem?_of_mem (mem_of_selectRuntimeForPath hselect)
    obtain ⟨rule, hj, hrule, hpolicy, -⟩ := exists_getElem?_of_forall₂ hbackends hb
    have heffective := attachedPolicy_effective hconfigs hi hj
    rw [←hpolicy, ←hrule] at heffective
    refine ⟨j, hb, heffective, ?_⟩
    intro hd
    simpa using heffective.isSome hd

/-- A hostname with a role of its own and one path with another role; the
blank issuer of the route is filled from the machine defaults. -/
def sampleFile : MultiRouteClientConfig where
  defaults := {
    acme := some {}
    authorization :=
      some { issuer := some "https://login.example", audiences := some ["docs"] } }
  routes := [{
    clientId := "docs-client"
    hostname := "docs.example"
    natsUrl := some "nats://control.example"
    backendAddr := some ":8080"
    authorization := some { issuer := some " ", requiredRoles := some ["reader"] }
    pathRoutes := [{
      pathPrefix := "/admin"
      backendAddr := ":9090"
      authorization := some { requiredRoles := some ["admin"] } }] }]

/-- The sample file is accepted and starts, and the backend of an
administration request has its effective policy. -/
theorem selected_policy_effective_admin :
    ∃ configs config, ∃ state : AppState Unit, ∃ backend,
      parseClientConfigs (.multiRoute sampleFile) = .ok configs ∧ configs[0]? = some config ∧
      processMessages sampleExternals sampleEnv config = .ok state ∧
      selectRuntimeForPath state.backends (some "docs.example") "/admin/users" = some backend ∧
      ∃ j, EffectivePolicy (.multiRoute sampleFile) 0 j backend.rule.pathPrefix
        (backend.authorization.map fun authorizer => authorizer.config) := by
  refine ⟨_, _, _, _, rfl, rfl, rfl, rfl, ?_⟩
  obtain ⟨j, -, heffective, -⟩ := (@selected_policy_effective Unit sampleExternals sampleEnv
    (.multiRoute sampleFile) _ rfl 0 _ rfl _ rfl (some "docs.example") "/admin/users").2 _ rfl
  exact ⟨j, heffective⟩

end LfpPipe.PolicyResolution
