import LfpPipe.PolicyResolution

/-!
# Which accepted documents can start

Document validation is meant to be complete: a route session that starts
later should only depend on files and services, not on configuration checks
that could have been made up front. This module determines exactly which
accepted documents start in every environment in which all files and
services answer. The condition is about the written document.
-/

namespace LfpPipe.StartupValidation

open RustText Fallible SharedConfig ConfigExpansion SharedRouting
open ClientAuthorizer ClientSession PolicyResolution

variable {Key : Type}

/-- Every file and every service answers. -/
structure Available (env : LoadEnv Key) : Prop where
  /-- Home directories expand. -/
  expandHome : ∀ path, Succeeds (env.expandHome path)
  /-- Secret files hold a secret. -/
  readToString : ∀ path, ∃ text, env.readToString path = .ok text ∧ (trim text).isEmpty = false
  /-- Providers name the configured issuer. -/
  discover : ∀ issuer, env.discover issuer = .ok issuer
  /-- Cookie keys can be read or created. -/
  loadOrCreateCookieKey : ∀ path, Succeeds (env.loadOrCreateCookieKey path)
  /-- Verification keys can be fetched. -/
  loadKeys : ∀ policy, env.loadKeys policy = .ok ()
  /-- Cache directories can be created. -/
  prepareCacheDir : ∀ path, env.prepareCacheDir path = .ok ()

/-- No configuration check at session start rejects the configuration: it
starts whenever all files and services answer. -/
def PassesStartupChecks (ext : Externals Key) (config : ClientConfig) : Prop :=
  ∀ env, Available env → Succeeds (processMessages ext env config)

/-- Every algorithm name of an active bearer policy is a known asymmetric
algorithm. -/
def AlgorithmsParse (ext : Externals Key) (policy : ClientAuthorizationConfig) : Prop :=
  policy.bearerEnabled = true →
    ∀ name ∈ policy.algorithms, ∃ known, ext.algorithmFromStr name = some (.asymmetric known)

/-- Two policies are equal, or not both of them reserve a common path. -/
def Compatible (policy other : ClientAuthorizationConfig) : Prop :=
  policy = other ∨ ¬ (policy.oidcEnabled = true ∧ other.oidcEnabled = true ∧
    endpointsOverlap policy other = true)

/-- Policies that can be loaded side by side in one session. -/
structure Loadable (ext : Externals Key) (policies : ClientAuthorizationConfig → Prop) : Prop where
  /-- Their algorithm names parse. -/
  algorithms : ∀ policy, policies policy → AlgorithmsParse ext policy
  /-- Their reserved paths are distinct. -/
  compatible : ∀ policy other, policies policy → policies other → Compatible policy other

/-- Fewer policies load as well. -/
theorem Loadable.mono {ext : Externals Key} {few many : ClientAuthorizationConfig → Prop}
    (h : Loadable ext many) (hsub : ∀ policy, few policy → many policy) : Loadable ext few where
  algorithms policy hp := h.algorithms policy (hsub policy hp)
  compatible policy other hp ho := h.compatible policy other (hsub policy hp) (hsub other ho)

/-- Reserving a common path is symmetric. -/
theorem endpointsOverlap_comm (policy other : ClientAuthorizationConfig) :
    endpointsOverlap policy other = endpointsOverlap other policy := by
  unfold endpointsOverlap
  rw [Bool.eq_iff_iff]
  simp only [Bool.or_eq_true, beq_iff_eq]
  constructor
  · rintro (((h | h) | h) | h) <;> simp [h]
  · rintro (((h | h) | h) | h) <;> simp [h]

/-- Compatibility is symmetric. -/
theorem Compatible.symm {policy other : ClientAuthorizationConfig} (h : Compatible policy other) :
    Compatible other policy := by
  rcases h with h | h
  · exact .inl h.symm
  · right
    rintro ⟨ho, hp, hoverlap⟩
    rw [endpointsOverlap_comm] at hoverlap
    exact h ⟨hp, ho, hoverlap⟩

/-- An algorithm name is allowed exactly when it is known and asymmetric. -/
theorem succeeds_parseAlgorithm {ext : Externals Key} {name : String} :
    Succeeds (parseAlgorithm ext name) ↔
      ∃ known, ext.algorithmFromStr name = some (.asymmetric known) := by
  simp only [Succeeds, parseAlgorithm, bind_eq_ok, orMissing_eq_ok, ensure_eq_ok]
  constructor
  · rintro ⟨_, algorithm, ha, _, hs, -⟩
    cases algorithm with
    | asymmetric known => exact ⟨known, ha⟩
    | HS256 => exact absurd hs (by decide)
    | HS384 => exact absurd hs (by decide)
    | HS512 => exact absurd hs (by decide)
  · rintro ⟨known, ha⟩
    exact ⟨_, _, ha, (), by simp, rfl⟩

/-- A bearer verifier loads exactly when its algorithms parse. -/
theorem succeeds_loadBearer {ext : Externals Key} {env : LoadEnv Key} (henv : Available env)
    {policy : ClientAuthorizationConfig} (hne : policy.algorithms ≠ []) :
    Succeeds (JwtAuthorizer.load ext env policy) ↔
      ∀ name ∈ policy.algorithms,
        ∃ known, ext.algorithmFromStr name = some (.asymmetric known) := by
  have hcollect : Succeeds (collect (parseAlgorithm ext) policy.algorithms) ↔
      ∀ name ∈ policy.algorithms, Succeeds (parseAlgorithm ext name) := succeeds_collect
  simp only [succeeds_parseAlgorithm] at hcollect
  rw [←hcollect]
  simp only [JwtAuthorizer.load, succeeds_bind, ensure_eq_ok]
  constructor
  · rintro ⟨_, -, algorithms, ha, -⟩
    exact ⟨algorithms, ha⟩
  · rintro ⟨algorithms, ha⟩
    obtain ⟨path, hpath⟩ := henv.expandHome policy.jwksCacheFile
    have hlength := (collect_eq_ok.mp ha).length_eq
    have hsome : algorithms ≠ [] := by
      rintro rfl
      exact hne (List.length_eq_zero_iff.mp hlength)
    exact ⟨path, hpath, algorithms, ha, (), by simpa using hsome, (), henv.loadKeys _,
      succeeds_ok _⟩

/-- A client secret always loads. -/
theorem succeeds_loadClientSecret {env : LoadEnv Key} (henv : Available env)
    (policy : ClientAuthorizationConfig) : Succeeds (loadClientSecret env policy) := by
  unfold loadClientSecret
  split
  · exact succeeds_ok _
  · obtain ⟨secretPath, hpath⟩ := henv.expandHome ‹String›
    obtain ⟨text, htext, hne⟩ := henv.readToString secretPath
    simp only [succeeds_bind, withContext_eq_ok, ensure_eq_ok]
    exact ⟨secretPath, hpath, text, htext, (), by rw [hne]; rfl, succeeds_ok _⟩

/-- A browser login always loads. -/
theorem succeeds_loadOidc (ext : Externals Key) {env : LoadEnv Key} (henv : Available env)
    (policy : ClientAuthorizationConfig) (hostname : String) :
    Succeeds (OidcAuthorizer.load ext env policy hostname) := by
  obtain ⟨secret, hsecret⟩ := succeeds_loadClientSecret henv policy
  obtain ⟨path, hpath⟩ := henv.expandHome policy.oidcSessionKeyFile
  obtain ⟨key, hkey⟩ := henv.loadOrCreateCookieKey path
  simp only [OidcAuthorizer.load, succeeds_bind, withContext_eq_ok, ensure_eq_ok]
  exact ⟨secret, hsecret, policy.issuer, henv.discover _, (), by simp, path, hpath, key, hkey,
    succeeds_ok _⟩

/-- A conditional part loads exactly when it is inactive or loads. -/
theorem succeeds_loadWhen {α : Type} {active : Bool} {load : Except AnyError α} :
    Succeeds (loadWhen active load) ↔ (active = true → Succeeds load) := by
  cases active with
  | false => simp [loadWhen, succeeds_ok]
  | true =>
    simp only [loadWhen, if_true, succeeds_bind, forall_const]
    constructor
    · rintro ⟨value, hv, -⟩
      exact ⟨value, hv⟩
    · rintro ⟨value, hv⟩
      exact ⟨value, hv, succeeds_ok _⟩

/-- A validated policy loads exactly when its algorithms parse. -/
theorem succeeds_loadAuthorizer {ext : Externals Key} {env : LoadEnv Key} (henv : Available env)
    {policy : ClientAuthorizationConfig}
    (hne : policy.bearerEnabled = true → policy.algorithms ≠ []) (hostname : String) :
    Succeeds (Authorizer.load ext env policy hostname) ↔ AlgorithmsParse ext policy := by
  have hbearer : Succeeds (loadWhen policy.bearerEnabled (JwtAuthorizer.load ext env policy)) ↔
      AlgorithmsParse ext policy := by
    rw [succeeds_loadWhen]
    constructor
    · intro h hb
      exact (succeeds_loadBearer henv (hne hb)).mp (h hb)
    · intro h hb
      exact (succeeds_loadBearer henv (hne hb)).mpr (h hb)
  rw [←hbearer]
  obtain ⟨oidc, hoidc⟩ : Succeeds
      (loadWhen policy.oidcEnabled (OidcAuthorizer.load ext env policy hostname)) :=
    succeeds_loadWhen.mpr fun _ => succeeds_loadOidc ext henv policy hostname
  simp only [Authorizer.load, succeeds_bind]
  constructor
  · rintro ⟨bearer, hb, -⟩
    exact ⟨bearer, hb⟩
  · rintro ⟨bearer, hb⟩
    exact ⟨bearer, hb, oidc, hoidc, succeeds_ok _⟩

/-- The policies loaded so far. -/
def Known (authorizers : Loaded Key) (policy : ClientAuthorizationConfig) : Prop :=
  ∃ entry ∈ authorizers, entry.1 = policy

/-- A new policy passes the endpoint check exactly when it is compatible
with every policy loaded so far. -/
theorem endpoint_check_iff {authorizers : Loaded Key} {policy : ClientAuthorizationConfig}
    (hnew : ¬ Known authorizers policy) :
    (policy.oidcEnabled = true →
      (!authorizers.any fun entry => entry.1.oidcEnabled && endpointsOverlap entry.1 policy) =
        true) ↔ ∀ known, Known authorizers known → Compatible known policy := by
  simp only [Bool.not_eq_true', List.any_eq_false, Bool.and_eq_true, not_and]
  constructor
  · rintro h known ⟨entry, hm, rfl⟩
    right
    rintro ⟨hk, hp, hoverlap⟩
    exact h hp entry hm hk hoverlap
  · intro h hp entry hm hk hoverlap
    rcases h entry.1 ⟨entry, hm, rfl⟩ with heq | hnot
    · exact hnew ⟨entry, hm, heq⟩
    · exact hnot ⟨hk, hp, hoverlap⟩

/-- A policy can join loadable ones exactly when it parses and is compatible
with each of them. -/
theorem loadable_insert_iff {ext : Externals Key} {known : ClientAuthorizationConfig → Prop}
    (hknown : Loadable ext known) {policy : ClientAuthorizationConfig} :
    Loadable ext (fun other => other = policy ∨ known other) ↔
      AlgorithmsParse ext policy ∧ ∀ other, known other → Compatible other policy := by
  constructor
  · intro h
    refine ⟨h.algorithms policy (.inl rfl), ?_⟩
    intro other ho
    exact h.compatible other policy (.inr ho) (.inl rfl)
  · rintro ⟨hparse, hcompatible⟩
    constructor
    · rintro other (rfl | ho)
      · exact hparse
      · exact hknown.algorithms other ho
    · rintro first second (rfl | hf) (rfl | hs)
      · exact .inl rfl
      · exact (hcompatible second hs).symm
      · exact hcompatible first hf
      · exact hknown.compatible first second hf hs

/-- After loading one more policy exactly it is known in addition. -/
theorem known_loadPolicy_iff {ext : Externals Key} {env : LoadEnv Key} {hostname : Option String}
    {authorizers known : Loaded Key} {policy : ClientAuthorizationConfig}
    {loaded : Authorizer Key}
    (h : loadPolicy ext env hostname authorizers policy = .ok (loaded, known))
    (other : ClientAuthorizationConfig) :
    Known known other ↔ other = policy ∨ Known authorizers other := by
  unfold loadPolicy at h
  cases hf : authorizers.find? fun entry => entry.1 = policy with
  | some entry =>
    rw [hf] at h
    cases h
    have hold : Known authorizers policy :=
      ⟨entry, List.mem_of_find?_eq_some hf, by simpa using List.find?_some hf⟩
    constructor
    · exact .inr
    · rintro (rfl | ho)
      · exact hold
      · exact ho
  | none =>
    rw [hf] at h
    simp only [bind_eq_ok, Except.ok.injEq, Prod.mk.injEq] at h
    obtain ⟨_, -, name, -, loaded', -, -, rfl⟩ := h
    simp only [Known, List.mem_append, List.mem_singleton]
    constructor
    · rintro ⟨entry, hm | rfl, rfl⟩
      · exact .inr ⟨entry, hm, rfl⟩
      · exact .inl rfl
    · rintro (rfl | ⟨entry, hm, rfl⟩)
      · exact ⟨_, .inr rfl, rfl⟩
      · exact ⟨entry, .inl hm, rfl⟩

/-- Loading one more policy succeeds exactly when it can join the loaded
ones. -/
theorem succeeds_loadPolicy {ext : Externals Key} {env : LoadEnv Key} (henv : Available env)
    (hostname : String) {authorizers : Loaded Key} (hknown : Loadable ext (Known authorizers))
    {policy : ClientAuthorizationConfig}
    (hne : policy.bearerEnabled = true → policy.algorithms ≠ []) :
    Succeeds (loadPolicy ext env (some hostname) authorizers policy) ↔
      Loadable ext (fun other => other = policy ∨ Known authorizers other) := by
  unfold loadPolicy
  cases hf : authorizers.find? fun entry => entry.1 = policy with
  | some entry =>
    have hsub : ∀ other, other = policy ∨ Known authorizers other → Known authorizers other := by
      rintro other (rfl | ho)
      · exact ⟨entry, List.mem_of_find?_eq_some hf, by simpa using List.find?_some hf⟩
      · exact ho
    constructor
    · intro _
      exact hknown.mono hsub
    · intro _
      exact succeeds_ok _
  | none =>
    have hnew : ¬ Known authorizers policy := by
      rintro ⟨entry, hm, he⟩
      have hnone := List.find?_eq_none.mp hf entry hm
      exact hnone (by simpa using he)
    rw [loadable_insert_iff hknown, ←endpoint_check_iff hnew,
      ←succeeds_loadAuthorizer henv hne hostname]
    simp only [succeeds_bind, checkWhen_eq_ok, ensure_eq_ok, orMissing_eq_ok, withContext_eq_ok]
    constructor
    · rintro ⟨_, hcheck, name, hname, loaded, hload, -⟩
      cases hname
      exact ⟨⟨loaded, hload⟩, hcheck⟩
    · rintro ⟨⟨loaded, hload⟩, hcheck⟩
      exact ⟨(), hcheck, hostname, rfl, loaded, hload, succeeds_ok _⟩

/-- The policies attached to some rules. -/
def Attached (config : ClientConfig) (rules : List BackendRule)
    (policy : ClientAuthorizationConfig) : Prop :=
  ∃ rule ∈ rules, attachedPolicy config rule = some policy

/-- What validation already guarantees for an attached policy. -/
def Admissible (config : ClientConfig) (policy : ClientAuthorizationConfig) : Prop :=
  config.acme.isSome = true ∧ (policy.bearerEnabled = true → policy.algorithms ≠ [])

/-- The rules of a session get their policies exactly when these can be
loaded side by side. -/
theorem succeeds_buildBackends {ext : Externals Key} {env : LoadEnv Key} (henv : Available env)
    {config : ClientConfig} {authorizers : Loaded Key} {rules : List BackendRule}
    (hknown : Loadable ext (Known authorizers))
    (hadm : ∀ policy, Attached config rules policy → Admissible config policy) :
    Succeeds (buildBackends ext env config authorizers rules) ↔
      Loadable ext (fun policy => Known authorizers policy ∨ Attached config rules policy) := by
  induction rules generalizing authorizers with
  | nil =>
    have hsame : (fun policy => Known authorizers policy ∨ Attached config [] policy) =
        Known authorizers := by
      funext policy
      simp [Attached]
    rw [hsame]
    simp [buildBackends, succeeds_ok, hknown]
  | cons rule rules ih =>
    have hrest : ∀ policy, Attached config rules policy →
        Attached config (rule :: rules) policy := by
      rintro policy ⟨other, hm, ho⟩
      exact ⟨other, List.mem_cons_of_mem _ hm, ho⟩
    have hadmRest := fun policy hp => hadm policy (hrest policy hp)
    rw [buildBackends]
    cases hp : attachedPolicy config rule with
    | none =>
      have hsame : Attached config (rule :: rules) = Attached config rules := by
        funext policy
        simp [Attached, hp]
      rw [hsame, ←ih hknown hadmRest]
      simp only [succeeds_bind]
      constructor
      · rintro ⟨backends, hb, -⟩
        exact ⟨backends, hb⟩
      · rintro ⟨backends, hb⟩
        exact ⟨backends, hb, succeeds_ok _⟩
    | some policy =>
      have hthis : Attached config (rule :: rules) policy := ⟨rule, List.mem_cons_self, hp⟩
      obtain ⟨hacme, hne⟩ := hadm policy hthis
      obtain ⟨acme, hacme⟩ := Option.isSome_iff_exists.mp hacme
      have hload := succeeds_loadPolicy henv acme.domain hknown hne
      have hall : (fun other => Known authorizers other ∨ Attached config (rule :: rules) other) =
          fun other =>
            (other = policy ∨ Known authorizers other) ∨ Attached config rules other := by
        funext other
        simp only [Attached, List.exists_mem_cons_iff, hp, Option.some.injEq, eq_iff_iff]
        tauto
      rw [hall]
      simp only [hacme, Option.map_some, succeeds_bind, Prod.exists]
      constructor
      · rintro ⟨loaded, known, hl, backends, hb, -⟩
        have hiff := known_loadPolicy_iff hl
        have hk : Loadable ext (Known known) :=
          (hload.mp ⟨_, hl⟩).mono fun other ho => (hiff other).mp ho
        refine ((ih hk hadmRest).mp ⟨backends, hb⟩).mono ?_
        rintro other (ho | ho)
        · exact .inl ((hiff other).mpr ho)
        · exact .inr ho
      · intro h
        obtain ⟨⟨loaded, known⟩, hl⟩ := hload.mpr (h.mono fun other ho => .inl ho)
        have hiff := known_loadPolicy_iff hl
        have hk : Loadable ext (Known known) := h.mono fun other ho => .inl ((hiff other).mp ho)
        have hrun : Succeeds (buildBackends ext env config known rules) := by
          refine (ih hk hadmRest).mpr (h.mono ?_)
          rintro other (ho | ho)
          · exact .inl ((hiff other).mp ho)
          · exact .inr ho
        obtain ⟨backends, hb⟩ := hrun
        exact ⟨loaded, known, hl, backends, hb, succeeds_ok _⟩

/-- The certificate checks of a session, on the written rules. -/
def AcmeStarts (config : ClientConfig) : Prop :=
  ∀ acme, config.acme = some acme → config.backendRules ≠ [] ∧
    (∀ rule ∈ config.backendRules, eqIgnoreAsciiCase rule.pattern acme.domain = true) ∧
    config.relayMode ≠ .splice

/-- TLS termination starts exactly when the rules pass the checks. -/
theorem succeeds_startAcme {env : LoadEnv Key} (henv : Available env) {config : ClientConfig}
    {backends : List (BackendRuntime Key)}
    (hrules : backends.map (fun backend => backend.rule) = config.backendRules) :
    Succeeds (startAcme env config backends) ↔ AcmeStarts config := by
  unfold startAcme AcmeStarts
  rw [←hrules]
  cases hacme : config.acme with
  | none => simp [succeeds_ok]
  | some acme =>
    obtain ⟨root, hroot⟩ := henv.expandHome acme.cacheDir
    simp only [AcmeRuntime.start, succeeds_bind, bind_eq_ok, ensure_eq_ok, Option.some.injEq,
      forall_eq']
    constructor
    · rintro ⟨_, hne, _, hall, runtime, ⟨_, hrelay, -⟩, -⟩
      refine ⟨by simpa using hne, ?_, by simpa using hrelay⟩
      simpa using hall
    · rintro ⟨hne, hall, hrelay⟩
      exact ⟨(), by simpa using hne, (), by simpa using hall, _,
        ⟨(), by simpa using hrelay, root, hroot, (), henv.prepareCacheDir _, rfl⟩, succeeds_ok _⟩

/-- What validation guarantees for every attached policy. -/
theorem validated_admissible {config : ClientConfig}
    (h : validateClientConfig config = .ok ()) {policy : ClientAuthorizationConfig}
    (hp : Attached config config.backendRules policy) : Admissible config policy := by
  obtain ⟨rule, hm, ha⟩ := hp
  have hwritten : config.authorization = some policy ∨
      ∃ rule ∈ config.backendRules, rule.authorization = some policy := by
    rcases attachedPolicy_eq_some ha with ha | ha
    · exact .inr ⟨rule, hm, ha⟩
    · exact .inl ha
  obtain ⟨hacme, hvalid⟩ := validateClientConfig_policy h hwritten
  exact ⟨hacme, validateAuthorization_algorithms hvalid⟩

/-- An environment in which every file and every service answers. -/
def availableEnv [Inhabited Key] : LoadEnv Key where
  expandHome path := .ok path
  readToString _ := .ok "secret"
  discover issuer := .ok issuer
  loadOrCreateCookieKey _ := .ok default
  loadKeys _ := .ok ()
  prepareCacheDir _ := .ok ()

/-- It is available. -/
theorem available_availableEnv [Inhabited Key] : Available (availableEnv : LoadEnv Key) where
  expandHome path := ⟨path, rfl⟩
  readToString _ := ⟨"secret", rfl, by decide⟩
  discover _ := rfl
  loadOrCreateCookieKey _ := ⟨default, rfl⟩
  loadKeys _ := rfl
  prepareCacheDir _ := rfl

/-- In an environment that answers, a validated configuration starts exactly
when its certificate settings fit its rules and its policies load side by
side. -/
theorem succeeds_processMessages {ext : Externals Key} {env : LoadEnv Key} (henv : Available env)
    {config : ClientConfig} (h : validateClientConfig config = .ok ()) :
    Succeeds (processMessages ext env config) ↔
      AcmeStarts config ∧ Loadable ext (Attached config config.backendRules) := by
  have hnone : ∀ policy, ¬ Known ([] : Loaded Key) policy := by
    rintro policy ⟨entry, hm, -⟩
    cases hm
  have hempty : Loadable ext (Known ([] : Loaded Key)) :=
    ⟨fun policy hp => absurd hp (hnone policy), fun policy _ hp => absurd hp (hnone policy)⟩
  have hbuild : Succeeds (buildBackends ext env config [] config.backendRules) ↔
      Loadable ext (fun policy => Known ([] : Loaded Key) policy ∨
        Attached config config.backendRules policy) :=
    succeeds_buildBackends henv hempty fun policy hp => validated_admissible h hp
  simp only [hnone, false_or] at hbuild
  rw [←hbuild]
  simp only [processMessages, succeeds_bind]
  have hrules : ∀ backends, buildBackends ext env config [] config.backendRules = .ok backends →
      backends.map (fun backend => backend.rule) = config.backendRules := by
    intro backends hb
    refine map_rule_of_forall₂ (buildBackends_forall₂ ?_ hb)
    intro entry hm
    cases hm
  constructor
  · rintro ⟨backends, hb, acme, ha, -⟩
    exact ⟨(succeeds_startAcme henv (hrules backends hb)).mp ⟨acme, ha⟩, backends, hb⟩
  · rintro ⟨hacme, backends, hb⟩
    obtain ⟨acme, ha⟩ := (succeeds_startAcme henv (hrules backends hb)).mpr hacme
    exact ⟨backends, hb, acme, ha, succeeds_ok _⟩

/-- The startup checks are exactly the certificate and policy conditions. -/
theorem passesStartupChecks_iff [Inhabited Key] {ext : Externals Key} {config : ClientConfig}
    (h : validateClientConfig config = .ok ()) :
    PassesStartupChecks ext config ↔
      AcmeStarts config ∧ Loadable ext (Attached config config.backendRules) := by
  constructor
  · intro hpass
    exact (succeeds_processMessages available_availableEnv h).mp (hpass _ available_availableEnv)
  · intro hcond env henv
    exact (succeeds_processMessages henv h).mpr hcond

/-- Certificates are configured for a route and not switched off. -/
def AcmeActive (defaults : ClientConfigDefaults) (route : ClientRouteConfig) : Prop :=
  (defaults.acme.isSome = true ∨ route.acme.isSome = true) ∧
    (layered defaults.acme route.acme (·.enabled)).getD true = true

/-- The policies that the layers of a route resolve to. -/
def RoutePolicies (defaults : ClientConfigDefaults) (route : ClientRouteConfig)
    (policy : ClientAuthorizationConfig) : Prop :=
  ∃ source ∈ ruleSources defaults route, Resolves source.2 (some policy)

/-- A written route that can start: with certificates its pattern is its
hostname and its copy implementation is not splice; its policies load side
by side. -/
def RouteStarts (ext : Externals Key) (defaults : ClientConfigDefaults)
    (route : ClientRouteConfig) : Prop :=
  (AcmeActive defaults route →
    eqIgnoreAsciiCase (route.pattern.getD route.hostname) route.hostname = true ∧
      route.relayMode.or defaults.relayMode ≠ some .splice) ∧
    Loadable ext (RoutePolicies defaults route)

/-- A written flat file that can start: with certificates it has rules, all
for the certificate name, and its copy implementation is not splice; its
policies load side by side. -/
def FlatStarts (ext : Externals Key) (config : ClientConfig) : Prop :=
  AcmeStarts config ∧ Loadable ext (fun policy => ∃ rule ∈ config.backendRules,
    rule.authorization.or config.authorization = some policy)

/-- A document all of whose routes can start. -/
def DocumentStarts (ext : Externals Key) : ClientConfigDocument → Prop
  | .multiRoute file => ∀ route ∈ file.routes, RouteStarts ext file.defaults route
  | .legacy config => FlatStarts ext config

/-- Resolved certificate settings exist exactly when they are active, and
their name is the hostname. -/
theorem mergeAcmeDefaults_active {defaults route : Option ClientAcmeDefaults} {hostname : String}
    {acme : Option ClientAcmeConfig} (h : mergeAcmeDefaults defaults route hostname = .ok acme) :
    (acme.isSome = true ↔ (defaults.isSome = true ∨ route.isSome = true) ∧
      (layered defaults route (·.enabled)).getD true = true) ∧
    ∀ settings, acme = some settings → settings.domain = hostname := by
  unfold mergeAcmeDefaults at h
  by_cases hn : (defaults.isNone && route.isNone) = true
  · rw [if_pos hn] at h
    cases h
    cases defaults <;> cases route <;> simp_all
  rw [if_neg hn] at h
  have hsome : defaults.isSome = true ∨ route.isSome = true := by
    cases defaults <;> cases route <;> simp_all
  cases he : (layered defaults route (·.enabled)).getD true with
  | false =>
    rw [he] at h
    cases h
    simp
  | true =>
    rw [he] at h
    simp only [Bool.not_true, Bool.false_eq_true, if_false, bind_eq_ok, Except.ok.injEq] at h
    obtain ⟨_, -, rfl⟩ := h
    refine ⟨by simp [hsome], ?_⟩
    intro settings hs
    cases hs
    rfl

/-- The certificate condition of an expanded route, on the written route. -/
theorem expanded_acmeStarts {defaults : ClientConfigDefaults} {route : ClientRouteConfig}
    {config : ClientConfig} (h : ExpandedFrom defaults route config) :
    AcmeStarts config ↔ (AcmeActive defaults route →
      eqIgnoreAsciiCase (route.pattern.getD route.hostname) route.hostname = true ∧
        route.relayMode.or defaults.relayMode ≠ some .splice) := by
  obtain ⟨backendAddr, pathRules, hrules, hpaths⟩ := h.backendRules
  obtain ⟨hactive, hdomain⟩ := mergeAcmeDefaults_active h.acme
  have hpattern : ∀ rule ∈ config.backendRules,
      rule.pattern = route.pattern.getD route.hostname := by
    intro rule hm
    rw [hrules] at hm
    rcases List.mem_cons.mp hm with rfl | hm
    · rfl
    · obtain ⟨pathRoute, -, hexpand⟩ := exists_mem_of_forall₂ hpaths hm
      exact (expandPathRoute_resolves hexpand).2.1
  have hfirst : fallbackRule defaults route (route.pattern.getD route.hostname) backendAddr ∈
      config.backendRules := by
    rw [hrules]
    exact List.mem_cons_self
  have hrelay : config.relayMode ≠ .splice ↔
      route.relayMode.or defaults.relayMode ≠ some .splice := by
    rw [h.relayMode]
    cases route.relayMode.or defaults.relayMode with
    | none => simp
    | some mode => simp
  constructor
  · intro hstarts hact
    obtain ⟨settings, hs⟩ := Option.isSome_iff_exists.mp (hactive.mpr hact)
    obtain ⟨-, hall, hmode⟩ := hstarts settings hs
    have heq := hall _ hfirst
    rw [hpattern _ hfirst, hdomain settings hs] at heq
    exact ⟨heq, hrelay.mp hmode⟩
  · intro hcond settings hs
    obtain ⟨heq, hmode⟩ := hcond (hactive.mp (by rw [hs]; rfl))
    refine ⟨List.ne_nil_of_mem hfirst, ?_, hrelay.mpr hmode⟩
    intro rule hm
    rw [hpattern rule hm, hdomain settings hs]
    exact heq

/-- Layers resolve to at most one policy. -/
theorem Resolves.unique {layers : List ClientAuthorizationDefaults}
    {policy other : Option ClientAuthorizationConfig} (h : Resolves layers policy)
    (ho : Resolves layers other) : policy = other := by
  have hp := mergeAuthorizationLayers_eq_ok.mpr h
  rw [mergeAuthorizationLayers_eq_ok.mpr ho] at hp
  exact (Except.ok.inj hp).symm

/-- The policies of an expanded route are those of its layers. -/
theorem expanded_attached_iff {defaults : ClientConfigDefaults} {route : ClientRouteConfig}
    {config : ClientConfig} (h : ExpandedFrom defaults route config)
    (policy : ClientAuthorizationConfig) :
    Attached config config.backendRules policy ↔ RoutePolicies defaults route policy := by
  have hall := expanded_attachedPolicy h
  constructor
  · rintro ⟨rule, hm, ha⟩
    obtain ⟨source, hs, -, hres⟩ := exists_mem_of_forall₂ hall hm
    exact ⟨source, hs, ha ▸ hres⟩
  · rintro ⟨source, hs, hres⟩
    obtain ⟨rule, hm, -, hres'⟩ := exists_mem_of_forall₂ hall.flip hs
    exact ⟨rule, hm, Resolves.unique hres' hres⟩

/-- The policies of a flat file are those of its written rules. -/
theorem flat_attached_iff (config : ClientConfig) (policy : ClientAuthorizationConfig) :
    Attached (inheritLegacyPolicy config) (inheritLegacyPolicy config).backendRules policy ↔
      ∃ rule ∈ config.backendRules,
        rule.authorization.or config.authorization = some policy := by
  have hall := inheritLegacyPolicy_attached config
  constructor
  · rintro ⟨rule, hm, ha⟩
    obtain ⟨written, hw, -, -, heq⟩ := exists_mem_of_forall₂ hall hm
    exact ⟨written, hw, heq ▸ ha⟩
  · rintro ⟨written, hw, ha⟩
    obtain ⟨rule, hm, -, -, heq⟩ := exists_mem_of_forall₂ hall.flip hw
    exact ⟨rule, hm, heq.trans ha⟩

/-- Inheriting the policy changes no certificate condition. -/
theorem flat_acmeStarts_iff (config : ClientConfig) :
    AcmeStarts (inheritLegacyPolicy config) ↔ AcmeStarts config := by
  have hpatterns : ∀ domain,
      (∀ rule ∈ (inheritLegacyPolicy config).backendRules,
        eqIgnoreAsciiCase rule.pattern domain = true) ↔
      ∀ rule ∈ config.backendRules, eqIgnoreAsciiCase rule.pattern domain = true := by
    intro domain
    have hall := inheritLegacyPolicy_attached config
    constructor
    · intro h written hw
      obtain ⟨rule, hm, -, hpattern, -⟩ := exists_mem_of_forall₂ hall.flip hw
      rw [hpattern]
      exact h rule hm
    · intro h rule hm
      obtain ⟨written, hw, -, hpattern, -⟩ := exists_mem_of_forall₂ hall hm
      rw [←hpattern]
      exact h written hw
  unfold AcmeStarts
  simp only [hpatterns]
  simp [inheritLegacyPolicy]

/-- Loadability only depends on which policies there are. -/
theorem loadable_congr {ext : Externals Key} {policies others : ClientAuthorizationConfig → Prop}
    (h : ∀ policy, policies policy ↔ others policy) :
    Loadable ext policies ↔ Loadable ext others :=
  ⟨fun hl => hl.mono fun policy => (h policy).mpr, fun hl => hl.mono fun policy => (h policy).mp⟩

/-- Every configuration of an accepted document passes all configuration
checks of session start if and only if the written document can start. -/
theorem accepted_passes_startup_iff [Inhabited Key] {ext : Externals Key}
    {document : ClientConfigDocument} {configs : List ClientConfig}
    (hparse : parseClientConfigs document = .ok configs) :
    (∀ config ∈ configs, PassesStartupChecks ext config) ↔ DocumentStarts ext document := by
  obtain ⟨hconfigs, hvalid⟩ := parseClientConfigs_eq_ok.mp hparse
  cases document with
  | multiRoute file =>
    have hall := documentConfigs_multiRoute hconfigs
    have hroute : ∀ route config, config ∈ configs → ExpandedFrom file.defaults route config →
        (PassesStartupChecks ext config ↔ RouteStarts ext file.defaults route) := by
      intro route config hm hexpanded
      rw [passesStartupChecks_iff (hvalid config hm), expanded_acmeStarts hexpanded,
        loadable_congr (expanded_attached_iff hexpanded), RouteStarts]
    constructor
    · intro h route hr
      obtain ⟨config, hm, hexpanded⟩ := exists_mem_of_forall₂ hall.flip hr
      exact (hroute route config hm hexpanded).mp (h config hm)
    · intro h config hm
      obtain ⟨route, hr, hexpanded⟩ := exists_mem_of_forall₂ hall hm
      exact (hroute route config hm hexpanded).mpr (h route hr)
  | legacy config =>
    cases hconfigs
    simp only [List.mem_singleton, forall_eq]
    rw [passesStartupChecks_iff (hvalid _ List.mem_cons_self), flat_acmeStarts_iff,
      loadable_congr (flat_attached_iff config), DocumentStarts, FlatStarts]

/-- The sample file is accepted, so the equivalence decides about it. -/
theorem accepted_passes_startup_sample :
    ∃ configs, parseClientConfigs (.multiRoute sampleFile) = .ok configs ∧
      ((∀ config ∈ configs, PassesStartupChecks sampleExternals config) ↔
        DocumentStarts sampleExternals (.multiRoute sampleFile)) :=
  ⟨_, rfl, accepted_passes_startup_iff rfl⟩

/-- One hostname with browser login whose administration path asks for
another role. Both policies inherit the default callback path. -/
def twoRolesFile : MultiRouteClientConfig where
  defaults := {
    acme := some {}
    authorization := some {
      bearer := some false
      issuer := some "https://login.example"
      oidcClientId := some "docs" } }
  routes := [{
    clientId := "docs-client"
    hostname := "docs.example"
    natsUrl := some "nats://control.example"
    backendAddr := some ":8080"
    pathRoutes := [{
      pathPrefix := "/admin"
      backendAddr := ":9090"
      authorization := some { requiredRoles := some ["admin"] } }] }]

/-- The file is accepted, yet it cannot start even where everything answers. -/
theorem twoRolesFile_never_starts :
    ∃ configs, parseClientConfigs (.multiRoute twoRolesFile) = .ok configs ∧
      ¬ ∀ config ∈ configs, PassesStartupChecks sampleExternals config := by
  refine ⟨_, rfl, ?_⟩
  intro h
  obtain ⟨state, hstate⟩ := h _ List.mem_cons_self availableEnv available_availableEnv
  cases hstate

end LfpPipe.StartupValidation
