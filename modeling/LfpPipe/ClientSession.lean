import LfpPipe.ClientAuthorizer
import LfpPipe.SharedRouting

/-!
# Start of one client route session

The part of `process_messages` that turns a configuration into running
backends, and `AcmeRuntime::start`. Policies are loaded once each; equal
policies share one authorizer, and different browser policies may not share
a reserved path.
-/

namespace LfpPipe.ClientSession

open RustText Fallible SharedConfig SharedRouting ClientAuthorizer

/-- One rule with its loaded policy. -/
structure BackendRuntime (Key : Type) where
  /-- The configured rule. -/
  rule : BackendRule
  /-- The loaded policy that protects it. -/
  authorization : Option (Authorizer Key)

/-- Local TLS termination of one route. -/
structure AcmeRuntime (Key : Type) where
  /-- Certificate settings. -/
  config : ClientAcmeConfig
  /-- Directory of this certificate. -/
  cacheDir : String
  /-- Backends of terminated connections. -/
  backends : List (BackendRuntime Key)
  /-- Whether terminated non-HTTP traffic is relayed. -/
  tcpPassthrough : Bool

/-- State of a started session. -/
structure AppState (Key : Type) where
  /-- Its configuration. -/
  config : ClientConfig
  /-- Local TLS termination. -/
  acme : Option (AcmeRuntime Key)
  /-- Backends in rule order. -/
  backends : List (BackendRuntime Key)

variable {Key : Type}

/-- Whether a backend serves a detected hostname. -/
def BackendRuntime.matchesHostname (backend : BackendRuntime Key) (hostname : Option String) :
    Bool :=
  matchesPattern backend.rule.pattern hostname

/-- A matching backend with a matching path prefix. -/
def BackendRuntime.matchesPath (backend : BackendRuntime Key) (hostname : Option String)
    (path : String) : Bool :=
  backend.matchesHostname hostname &&
    backend.rule.pathPrefix.any fun pathPrefix => matchesPathPrefix pathPrefix path

/-- A matching backend without a path prefix. -/
def BackendRuntime.isFallback (backend : BackendRuntime Key) (hostname : Option String) : Bool :=
  backend.matchesHostname hostname && backend.rule.pathPrefix.isNone

/-- The longest matching path backend, or else the first fallback. -/
def selectRuntimeForPath (backends : List (BackendRuntime Key)) (hostname : Option String)
    (path : String) : Option (BackendRuntime Key) :=
  (maxByKey (fun backend => (backend.rule.pathPrefix.map String.utf8ByteSize).getD 0)
    (backends.filter fun backend => backend.matchesPath hostname path)).or
      (backends.find? fun backend => backend.isFallback hostname)

/-- Non-HTTP connections need passthrough. -/
def protocolAllowed (http tcpPassthrough : Bool) : Bool := http || tcpPassthrough

/-- The policy of a rule: path rules have only their own. -/
def attachedPolicy (config : ClientConfig) (rule : BackendRule) :
    Option ClientAuthorizationConfig :=
  if rule.pathPrefix.isSome then rule.authorization
  else rule.authorization.or config.authorization

/-- An attached policy is written at the rule or at the configuration. -/
theorem attachedPolicy_eq_some {config : ClientConfig} {rule : BackendRule}
    {policy : ClientAuthorizationConfig} (h : attachedPolicy config rule = some policy) :
    rule.authorization = some policy ∨ config.authorization = some policy := by
  unfold attachedPolicy at h
  split at h
  · exact .inl h
  · rcases Option.or_eq_some_iff.mp h with h | ⟨-, h⟩
    · exact .inl h
    · exact .inr h

/-- Two policies reserve a common path. -/
def endpointsOverlap (existing policy : ClientAuthorizationConfig) : Bool :=
  existing.oidcCallbackPath == policy.oidcCallbackPath ||
    existing.oidcCallbackPath == policy.oidcLogoutPath ||
    existing.oidcLogoutPath == policy.oidcCallbackPath ||
    existing.oidcLogoutPath == policy.oidcLogoutPath

/-- Policies loaded so far. -/
abbrev Loaded (Key : Type) := List (ClientAuthorizationConfig × Authorizer Key)

/-- Reuse an equal policy or load a new one. -/
def loadPolicy (ext : Externals Key) (env : LoadEnv Key) (authorizationHostname : Option String)
    (authorizers : Loaded Key) (policy : ClientAuthorizationConfig) :
    Except AnyError (Authorizer Key × Loaded Key) :=
  match authorizers.find? fun entry => entry.1 = policy with
  | some entry => .ok (entry.2, authorizers)
  | none => do
    checkWhen policy.oidcEnabled (ensure
      (!authorizers.any fun entry => entry.1.oidcEnabled && endpointsOverlap entry.1 policy)
      "OIDC policies on the same client route must use distinct callback and logout paths")
    let hostname ← orMissing "backend authorization requires an ACME hostname" authorizationHostname
    let loaded ←
      withContext "initialize backend authorization" (Authorizer.load ext env policy hostname)
    .ok (loaded, authorizers ++ [(policy, loaded)])

/-- Attach policies to the rules in order. -/
def buildBackends (ext : Externals Key) (env : LoadEnv Key) (config : ClientConfig)
    (authorizers : Loaded Key) : List BackendRule → Except AnyError (List (BackendRuntime Key))
  | [] => .ok []
  | rule :: rest =>
    match attachedPolicy config rule with
    | none => do
      let backends ← buildBackends ext env config authorizers rest
      .ok (⟨rule, none⟩ :: backends)
    | some policy => do
      let (loaded, authorizers) ←
        loadPolicy ext env (config.acme.map fun settings => settings.domain) authorizers policy
      let backends ← buildBackends ext env config authorizers rest
      .ok (⟨rule, some loaded⟩ :: backends)

/-- A directory name that keeps only letters, digits, dots and hyphens. -/
def domainComponent (domain : String) : String :=
  String.ofList (domain.toList.map fun c => if c.isAlphanum || c == '.' || c == '-' then c else '_')

/-- Directory of one certificate below the cache root. -/
def domainCacheDir (root domain : String) : String :=
  if root.isEmpty || root.toList.getLast? == some '/' then root ++ domainComponent domain
  else root ++ "/" ++ domainComponent domain

/-- Start certificate management for one hostname and its backends. -/
def AcmeRuntime.start (env : LoadEnv Key) (config : ClientAcmeConfig)
    (backends : List (BackendRuntime Key)) (relayMode : RelayMode) (tcpPassthrough : Bool) :
    Except AnyError (AcmeRuntime Key) := do
  ensure (relayMode != .splice)
    "automatic TLS termination cannot use splice relay mode; use auto or buffered"
  let cacheRoot ← env.expandHome config.cacheDir
  let cacheDir := domainCacheDir cacheRoot config.domain
  env.prepareCacheDir cacheDir
  .ok ⟨config, cacheDir, backends, tcpPassthrough⟩

/-- Start TLS termination when it is configured for these backends. -/
def startAcme (env : LoadEnv Key) (config : ClientConfig) (backends : List (BackendRuntime Key)) :
    Except AnyError (Option (AcmeRuntime Key)) :=
  match config.acme with
  | none => .ok none
  | some acmeConfig => do
    ensure (!backends.isEmpty)
      "automatic certificates require at least one backend rule per client route"
    ensure (backends.all fun backend => eqIgnoreAsciiCase backend.rule.pattern acmeConfig.domain)
      "automatic certificate domain must exactly match every backend pattern"
    let runtime ←
      AcmeRuntime.start env acmeConfig backends config.relayMode config.tcpPassthrough
    .ok (some runtime)

/-- Start a session: load the policies, then start TLS termination. -/
def processMessages (ext : Externals Key) (env : LoadEnv Key) (config : ClientConfig) :
    Except AnyError (AppState Key) := do
  let backends ← buildBackends ext env config [] config.backendRules
  let acme ← startAcme env config backends
  .ok ⟨config, acme, backends⟩

/-- A selected backend is one of the route. -/
theorem mem_of_selectRuntimeForPath {backends : List (BackendRuntime Key)}
    {hostname : Option String} {path : String} {backend : BackendRuntime Key}
    (h : selectRuntimeForPath backends hostname path = some backend) : backend ∈ backends := by
  unfold selectRuntimeForPath at h
  rcases Option.or_eq_some_iff.mp h with hmax | ⟨-, hfind⟩
  · exact (List.mem_filter.mp (mem_of_maxByKey hmax)).1
  · exact List.mem_of_find?_eq_some hfind

/-- A matching fallback makes the selection succeed for every path. -/
theorem exists_selectRuntimeForPath {backends : List (BackendRuntime Key)}
    {backend : BackendRuntime Key} (hm : backend ∈ backends) {hostname : Option String}
    (hf : backend.isFallback hostname = true) {path : String} :
    ∃ selected, selectRuntimeForPath backends hostname path = some selected := by
  have hsome : (backends.find? fun backend => backend.isFallback hostname).isSome = true :=
    List.find?_isSome.mpr ⟨backend, hm, hf⟩
  have hor : (selectRuntimeForPath backends hostname path).isSome = true := by
    rw [selectRuntimeForPath, Option.isSome_or, hsome, Bool.or_true]
  exact Option.isSome_iff_exists.mp hor

/-- A loaded policy keeps its configuration. -/
theorem Authorizer.load_config {ext : Externals Key} {env : LoadEnv Key}
    {policy : ClientAuthorizationConfig} {hostname : String} {authorizer : Authorizer Key}
    (h : Authorizer.load ext env policy hostname = .ok authorizer) :
    authorizer.config = policy := by
  simp only [Authorizer.load, bind_eq_ok, Except.ok.injEq] at h
  obtain ⟨bearer, -, oidc, -, rfl⟩ := h
  rfl

/-- Every loaded entry is the load of its own policy for the hostname. -/
def LoadedFrom (ext : Externals Key) (env : LoadEnv Key) (hostname : Option String)
    (authorizers : Loaded Key) : Prop :=
  ∀ entry ∈ authorizers, ∃ name, hostname = some name ∧
    Authorizer.load ext env entry.1 name = .ok entry.2

/-- A policy that was reused or loaded is the load of itself, and so are all
policies known afterwards. -/
theorem loadPolicy_loaded {ext : Externals Key} {env : LoadEnv Key} {hostname : Option String}
    {authorizers known : Loaded Key} {policy : ClientAuthorizationConfig}
    {authorizer : Authorizer Key} (hl : LoadedFrom ext env hostname authorizers)
    (h : loadPolicy ext env hostname authorizers policy = .ok (authorizer, known)) :
    (∃ name, hostname = some name ∧ Authorizer.load ext env policy name = .ok authorizer) ∧
      LoadedFrom ext env hostname known := by
  unfold loadPolicy at h
  cases hf : authorizers.find? fun entry => entry.1 = policy with
  | some entry =>
    rw [hf] at h
    have hm := List.mem_of_find?_eq_some hf
    have he : entry.1 = policy := by simpa using List.find?_some hf
    cases h
    obtain ⟨name, hname, hload⟩ := hl entry hm
    exact ⟨⟨name, hname, he ▸ hload⟩, hl⟩
  | none =>
    rw [hf] at h
    simp only [bind_eq_ok, orMissing_eq_ok, withContext_eq_ok, Except.ok.injEq,
      Prod.mk.injEq] at h
    obtain ⟨_, -, name, hname, loaded, hload, rfl, rfl⟩ := h
    refine ⟨⟨name, hname, hload⟩, ?_⟩
    intro entry hm
    rcases List.mem_append.mp hm with hm | hm
    · exact hl entry hm
    · rw [List.mem_singleton.mp hm]
      exact ⟨name, hname, hload⟩

/-- What a started backend is: its rule, protected by the load of exactly
the policy attached to that rule. -/
def BackendOf (ext : Externals Key) (env : LoadEnv Key) (config : ClientConfig)
    (rule : BackendRule) (backend : BackendRuntime Key) : Prop :=
  backend.rule = rule ∧
    backend.authorization.map (fun authorizer => authorizer.config) = attachedPolicy config rule ∧
    ∀ authorizer, backend.authorization = some authorizer → ∃ acme, config.acme = some acme ∧
      Authorizer.load ext env authorizer.config acme.domain = .ok authorizer

/-- The started backends follow the rules one by one. -/
theorem buildBackends_forall₂ {ext : Externals Key} {env : LoadEnv Key} {config : ClientConfig}
    {authorizers : Loaded Key} {rules : List BackendRule} {backends : List (BackendRuntime Key)}
    (hl : LoadedFrom ext env (config.acme.map fun settings => settings.domain) authorizers)
    (h : buildBackends ext env config authorizers rules = .ok backends) :
    List.Forall₂ (BackendOf ext env config) rules backends := by
  induction rules generalizing authorizers backends with
  | nil =>
    cases h
    exact .nil
  | cons rule rules ih =>
    rw [buildBackends] at h
    cases hp : attachedPolicy config rule with
    | none =>
      rw [hp] at h
      simp only [bind_eq_ok, Except.ok.injEq] at h
      obtain ⟨rest, hrest, rfl⟩ := h
      refine .cons ⟨rfl, ?_, ?_⟩ (ih hl hrest)
      · rw [hp]
        rfl
      · intro authorizer ha
        cases ha
    | some policy =>
      rw [hp] at h
      simp only [bind_eq_ok, Except.ok.injEq, Prod.exists] at h
      obtain ⟨loaded, known, hload, rest, hrest, rfl⟩ := h
      obtain ⟨⟨name, hname, hself⟩, hknown⟩ := loadPolicy_loaded hl hload
      have hconfig := Authorizer.load_config hself
      refine .cons ⟨rfl, ?_, ?_⟩ (ih hknown hrest)
      · rw [hp, Option.map_some, hconfig]
      · intro authorizer ha
        cases ha
        obtain ⟨acme, hacme, rfl⟩ := Option.map_eq_some_iff.mp hname
        exact ⟨acme, hacme, by rw [hconfig]; exact hself⟩

/-- The started backends have the rules in order. -/
theorem map_rule_of_forall₂ {ext : Externals Key} {env : LoadEnv Key} {config : ClientConfig}
    {rules : List BackendRule} {backends : List (BackendRuntime Key)}
    (h : List.Forall₂ (BackendOf ext env config) rules backends) :
    backends.map (fun backend => backend.rule) = rules := by
  have heq : List.Forall₂ Eq rules (backends.map fun backend => backend.rule) := by
    rw [List.forall₂_map_right_iff]
    exact h.imp fun _ _ hof => hof.1.symm
  rw [List.forall₂_eq_eq_eq] at heq
  exact heq.symm

/-- A started session keeps its configuration and follows its rules. -/
theorem processMessages_backends {ext : Externals Key} {env : LoadEnv Key} {config : ClientConfig}
    {state : AppState Key} (h : processMessages ext env config = .ok state) :
    state.config = config ∧ startAcme env config state.backends = .ok state.acme ∧
      List.Forall₂ (BackendOf ext env config) config.backendRules state.backends := by
  simp only [processMessages, bind_eq_ok, Except.ok.injEq] at h
  obtain ⟨backends, hb, acme, ha, rfl⟩ := h
  refine ⟨rfl, ha, buildBackends_forall₂ ?_ hb⟩
  intro entry hm
  cases hm

/-- The certificate runtime works with the backends and the passthrough
setting of its session. -/
theorem startAcme_runtime {env : LoadEnv Key} {config : ClientConfig}
    {backends : List (BackendRuntime Key)} {runtime : AcmeRuntime Key}
    (h : startAcme env config backends = .ok (some runtime)) :
    config.acme = some runtime.config ∧ runtime.backends = backends ∧
      runtime.tcpPassthrough = config.tcpPassthrough := by
  unfold startAcme at h
  cases hacme : config.acme with
  | none =>
    rw [hacme] at h
    cases h
  | some settings =>
    rw [hacme] at h
    simp only [AcmeRuntime.start, bind_eq_ok, Except.ok.injEq, Option.some.injEq] at h
    obtain ⟨_, -, _, -, started, ⟨_, -, _, -, _, -, rfl⟩, rfl⟩ := h
    exact ⟨rfl, rfl, rfl⟩

/-- A browser login is loaded exactly when the policy enables it. -/
theorem Authorizer.load_oidc {ext : Externals Key} {env : LoadEnv Key}
    {policy : ClientAuthorizationConfig} {hostname : String} {authorizer : Authorizer Key}
    (h : Authorizer.load ext env policy hostname = .ok authorizer) :
    authorizer.oidc.isSome = policy.oidcEnabled := by
  simp only [Authorizer.load, bind_eq_ok, Except.ok.injEq] at h
  obtain ⟨bearer, -, oidc, hoidc, rfl⟩ := h
  unfold loadWhen at hoidc
  cases he : policy.oidcEnabled with
  | false =>
    rw [he] at hoidc
    cases hoidc
    rfl
  | true =>
    rw [he] at hoidc
    simp only [if_true, bind_eq_ok, Except.ok.injEq] at hoidc
    obtain ⟨loaded, -, rfl⟩ := hoidc
    rfl

end LfpPipe.ClientSession
