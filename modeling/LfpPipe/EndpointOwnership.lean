import LfpPipe.SessionRoles
import LfpPipe.StartupValidation
import Mathlib.Data.List.Nodup

/-!
# One owner for every reserved endpoint

The loop that attaches policies to the rules of a route loads a policy once and
compares each new browser policy with those loaded before it. What it has loaded
in the end has every policy once, and no two browser policies with a common
path. So a reserved path has one owner, whatever the order of the rules.
-/

namespace LfpPipe.EndpointOwnership

open Fallible SharedConfig HttpMessages ConfigExpansion ClientAuthorizer ClientSession ClientProxy
open SessionRoles StartupValidation

variable {Key : Type}

/-- The loop over the rules, with the policies that it has loaded in the end. -/
def buildLoop (ext : Externals Key) (env : LoadEnv Key) (config : ClientConfig)
    (authorizers : Loaded Key) :
    List BackendRule → Except AnyError (List (BackendRuntime Key) × Loaded Key)
  | [] => .ok ([], authorizers)
  | rule :: rest =>
    match attachedPolicy config rule with
    | none => do
      let (backends, known) ← buildLoop ext env config authorizers rest
      .ok (⟨rule, none⟩ :: backends, known)
    | some policy => do
      let (loaded, authorizers) ←
        loadPolicy ext env (config.acme.map fun settings => settings.domain) authorizers policy
      let (backends, known) ← buildLoop ext env config authorizers rest
      .ok (⟨rule, some loaded⟩ :: backends, known)

/-- The reserved paths of a policy. -/
def endpoints (policy : ClientAuthorizationConfig) : List String :=
  [policy.oidcCallbackPath, policy.oidcLogoutPath]

/-- Loaded policies of one hostname, each once, with their own paths. -/
structure Registered (ext : Externals Key) (env : LoadEnv Key) (hostname : Option String)
    (authorizers : Loaded Key) : Prop where
  /-- Every entry is the load of its policy. -/
  loaded : LoadedFrom ext env hostname authorizers
  /-- No policy has two entries. -/
  once : (authorizers.map Prod.fst).Nodup
  /-- Different browser policies have no path in common. -/
  apart : ∀ policy other, Known authorizers policy → Known authorizers other →
    Compatible policy other

/-- What holds of the backends of a route and of the policies loaded for them. -/
structure OneOwner (ext : Externals Key) (env : LoadEnv Key) (config : ClientConfig)
    (backends : List (BackendRuntime Key)) (known : Loaded Key) : Prop where
  /-- No policy was loaded twice. -/
  once : (known.map Prod.fst).Nodup
  /-- Different browser policies have disjoint pairs of paths. -/
  disjoint : ∀ first ∈ known, ∀ second ∈ known, first.1.oidcEnabled = true →
    second.1.oidcEnabled = true → first.1 ≠ second.1 →
      (endpoints first.1).Disjoint (endpoints second.1)
  /-- These are pairs. -/
  pair : ∀ entry ∈ known, entry.1.oidcEnabled = true → (endpoints entry.1).Nodup
  /-- Rules with equal policies share the authorizer that was loaded for it. -/
  shared : ∀ backend ∈ backends, ∀ policy, attachedPolicy config backend.rule = some policy →
    ∃ authorizer, (policy, authorizer) ∈ known ∧ backend.authorization = some authorizer
  /-- A path is an endpoint of one loaded policy at most. -/
  unique : ∀ path, ∀ first ∈ known, ∀ second ∈ known, first.2.handlesEndpoint path = true →
    second.2.handlesEndpoint path = true → first = second
  /-- In every other order the rules are loaded as well, with the same owners. -/
  ordered : ∀ shuffled : List BackendRule, shuffled.Perm config.backendRules →
    ∃ others, buildBackends ext env config [] shuffled = .ok others ∧
      ∀ path, endpointAuthorizer others path = endpointAuthorizer backends path
  /-- A callback goes to the policy that has started the login. -/
  callback : ∀ authorizer oidc, LoadedOidc backends authorizer oidc →
    ∀ (world : World Key) (request : Request) (hostname : String) (clientIp : Option String)
      (scheme : String), request.uri.path = oidc.config.oidcCallbackPath →
      handleRequestInner ext world request hostname clientIp scheme backends =
        ⟨.ok (.respond (oidc.callback ext world request.method request.uri request.headers).result),
          (oidc.callback ext world request.method request.uri request.headers).created⟩

/-- The loop over the rules builds the same backends. -/
theorem buildBackends_eq_ok {ext : Externals Key} {env : LoadEnv Key} {config : ClientConfig}
    {authorizers : Loaded Key} {rules : List BackendRule} {backends : List (BackendRuntime Key)} :
    buildBackends ext env config authorizers rules = .ok backends ↔
      ∃ known, buildLoop ext env config authorizers rules = .ok (backends, known) := by
  induction rules generalizing authorizers backends with
  | nil =>
    rw [buildBackends, buildLoop]
    constructor
    · intro h
      cases h
      exact ⟨authorizers, rfl⟩
    · rintro ⟨known, h⟩
      cases h
      rfl
  | cons rule rules ih =>
    rw [buildBackends, buildLoop]
    cases attachedPolicy config rule with
    | none =>
      simp only [bind_eq_ok, Except.ok.injEq, Prod.exists, Prod.mk.injEq]
      constructor
      · rintro ⟨rest, hrest, rfl⟩
        obtain ⟨known, hknown⟩ := ih.mp hrest
        exact ⟨known, rest, known, hknown, rfl, rfl⟩
      · rintro ⟨known, rest, _, hrest, rfl, rfl⟩
        exact ⟨rest, ih.mpr ⟨_, hrest⟩, rfl⟩
    | some policy =>
      simp only [bind_eq_ok, Except.ok.injEq, Prod.exists, Prod.mk.injEq]
      constructor
      · rintro ⟨loaded, more, hload, rest, hrest, rfl⟩
        obtain ⟨known, hknown⟩ := ih.mp hrest
        exact ⟨known, loaded, more, hload, rest, known, hknown, rfl, rfl⟩
      · rintro ⟨known, loaded, more, hload, rest, _, hrest, rfl, rfl⟩
        exact ⟨loaded, more, hload, rest, ih.mpr ⟨_, hrest⟩, rfl⟩

section

variable {ext : Externals Key} {env : LoadEnv Key} {hostname : Option String}
variable {authorizers known : Loaded Key}

/-- Nothing is loaded at first. -/
theorem registered_nil : Registered ext env hostname ([] : Loaded Key) where
  loaded entry hm := by cases hm
  once := List.nodup_nil
  apart policy other hp := by
    obtain ⟨entry, hm, -⟩ := hp
    cases hm

/-- A policy that is found or loaded has its entry afterwards, and the entries
stay registered. -/
theorem registered_loadPolicy (hregistered : Registered ext env hostname authorizers)
    {policy : ClientAuthorizationConfig} {loaded : Authorizer Key}
    (h : loadPolicy ext env hostname authorizers policy = .ok (loaded, known)) :
    Registered ext env hostname known ∧ (policy, loaded) ∈ known ∧ authorizers ⊆ known := by
  have hloaded := (loadPolicy_loaded hregistered.loaded h).2
  have hiff := known_loadPolicy_iff h
  unfold loadPolicy at h
  cases hf : authorizers.find? fun entry => entry.1 = policy with
  | some entry =>
    rw [hf] at h
    cases h
    have hpolicy : entry.1 = policy := by simpa using List.find?_some hf
    refine ⟨hregistered, ?_, List.Subset.refl _⟩
    rw [← hpolicy]
    exact List.mem_of_find?_eq_some hf
  | none =>
    rw [hf] at h
    have hnew : ¬ Known authorizers policy := by
      rintro ⟨entry, hm, he⟩
      exact List.find?_eq_none.mp hf entry hm (decide_eq_true he)
    simp only [bind_eq_ok, Except.ok.injEq, Prod.mk.injEq, checkWhen_eq_ok, ensure_eq_ok] at h
    obtain ⟨_, hcheck, name, -, authorizer, -, rfl, rfl⟩ := h
    have hcompatible := (endpoint_check_iff hnew).mp hcheck
    refine ⟨⟨hloaded, ?_, ?_⟩, List.mem_append_right _ (List.mem_singleton.mpr rfl),
      List.subset_append_left _ _⟩
    · rw [List.map_append, List.map_singleton]
      refine List.nodup_append.mpr ⟨hregistered.once, List.nodup_singleton _, ?_⟩
      intro old hold new hmem heq
      rw [List.mem_singleton] at hmem
      obtain ⟨entry, hm, hentry⟩ := List.mem_map.mp hold
      exact hnew ⟨entry, hm, hentry.trans (heq.trans hmem)⟩
    · intro first second hfirst hsecond
      rcases (hiff first).mp hfirst with rfl | hold
      · rcases (hiff second).mp hsecond with rfl | hother
        · exact .inl rfl
        · exact (hcompatible second hother).symm
      · rcases (hiff second).mp hsecond with rfl | hother
        · exact hcompatible first hold
        · exact hregistered.apart first second hold hother

/-- A policy is found or loaded exactly when it loads by itself and is compatible
with those before it. -/
theorem succeeds_loadPolicy_iff (hregistered : Registered ext env hostname authorizers)
    {policy : ClientAuthorizationConfig} :
    Succeeds (loadPolicy ext env hostname authorizers policy) ↔
      (∃ name, hostname = some name ∧ Succeeds (Authorizer.load ext env policy name)) ∧
        ∀ other, Known authorizers other → Compatible other policy := by
  unfold loadPolicy
  cases hf : authorizers.find? fun entry => entry.1 = policy with
  | some entry =>
    have hm := List.mem_of_find?_eq_some hf
    have hpolicy : entry.1 = policy := by simpa using List.find?_some hf
    obtain ⟨name, hname, hload⟩ := hregistered.loaded entry hm
    refine iff_of_true (succeeds_ok _) ⟨⟨name, hname, entry.2, ?_⟩, fun other hother => ?_⟩
    · rw [← hpolicy]
      exact hload
    · exact hregistered.apart other policy hother ⟨entry, hm, hpolicy⟩
  | none =>
    have hnew : ¬ Known authorizers policy := by
      rintro ⟨entry, hm, he⟩
      exact List.find?_eq_none.mp hf entry hm (decide_eq_true he)
    rw [← endpoint_check_iff hnew]
    simp only [succeeds_bind, checkWhen_eq_ok, ensure_eq_ok, orMissing_eq_ok, withContext_eq_ok]
    constructor
    · rintro ⟨_, hcheck, name, hname, loaded, hload, -⟩
      exact ⟨⟨name, hname, loaded, hload⟩, hcheck⟩
    · rintro ⟨⟨name, hname, loaded, hload⟩, hcheck⟩
      exact ⟨(), hcheck, name, hname, loaded, hload, succeeds_ok _⟩

/-- The loop keeps the policies registered, and every backend with a policy has
the authorizer of its entry. -/
theorem registered_buildLoop {config : ClientConfig} {rules : List BackendRule}
    {backends : List (BackendRuntime Key)}
    (hregistered : Registered ext env (config.acme.map fun settings => settings.domain) authorizers)
    (h : buildLoop ext env config authorizers rules = .ok (backends, known)) :
    Registered ext env (config.acme.map fun settings => settings.domain) known ∧
      authorizers ⊆ known ∧
      (∀ policy, Known known policy ↔ Known authorizers policy ∨ Attached config rules policy) ∧
      ∀ backend ∈ backends, ∀ policy, attachedPolicy config backend.rule = some policy →
        ∃ authorizer, (policy, authorizer) ∈ known ∧ backend.authorization = some authorizer := by
  induction rules generalizing authorizers backends with
  | nil =>
    cases h
    refine ⟨hregistered, List.Subset.refl _, fun policy => ?_, fun backend hm => by cases hm⟩
    refine (or_iff_left ?_).symm
    rintro ⟨rule, hm, -⟩
    cases hm
  | cons rule rules ih =>
    rw [buildLoop] at h
    cases hp : attachedPolicy config rule with
    | none =>
      rw [hp] at h
      simp only [bind_eq_ok, Except.ok.injEq, Prod.exists, Prod.mk.injEq] at h
      obtain ⟨rest, _, hrest, rfl, rfl⟩ := h
      obtain ⟨hknown, hsubset, hpolicies, hshared⟩ := ih hregistered hrest
      refine ⟨hknown, hsubset, fun policy => ?_, fun backend hm policy hpolicy => ?_⟩
      · rw [hpolicies, Attached, Attached, List.exists_mem_cons_iff, hp]
        exact or_congr_right (or_iff_right (by rintro ⟨⟩)).symm
      · rcases List.mem_cons.mp hm with rfl | hm
        · rw [hp] at hpolicy
          cases hpolicy
        · exact hshared backend hm policy hpolicy
    | some first =>
      rw [hp] at h
      simp only [bind_eq_ok, Except.ok.injEq, Prod.exists, Prod.mk.injEq] at h
      obtain ⟨loaded, more, hload, rest, _, hrest, rfl, rfl⟩ := h
      obtain ⟨hmore, hentry, hmoreSubset⟩ := registered_loadPolicy hregistered hload
      obtain ⟨hknown, hsubset, hpolicies, hshared⟩ := ih hmore hrest
      refine ⟨hknown, fun _ hm => hsubset (hmoreSubset hm), fun policy => ?_,
        fun backend hm policy hpolicy => ?_⟩
      · rw [hpolicies, known_loadPolicy_iff hload, Attached, Attached, List.exists_mem_cons_iff, hp,
          Option.some.injEq, or_assoc, or_left_comm, eq_comm]
      · rcases List.mem_cons.mp hm with rfl | hm
        · rw [hp] at hpolicy
          cases hpolicy
          exact ⟨loaded, hsubset hentry, rfl⟩
        · exact hshared backend hm policy hpolicy

/-- What the policies of some rules must satisfy beside those loaded before. -/
structure Joinable (ext : Externals Key) (env : LoadEnv Key) (config : ClientConfig)
    (authorizers : Loaded Key) (rules : List BackendRule) : Prop where
  /-- Every policy loads by itself. -/
  loads : ∀ policy, Attached config rules policy →
    ∃ name, config.acme.map (fun settings => settings.domain) = some name ∧
      Succeeds (Authorizer.load ext env policy name)
  /-- No two browser policies have a common path. -/
  compatible : ∀ policy other, (Known authorizers policy ∨ Attached config rules policy) →
    (Known authorizers other ∨ Attached config rules other) → Compatible policy other

/-- A policy of later rules is one of all rules. -/
theorem attached_cons {config : ClientConfig} {rule : BackendRule} {rules : List BackendRule}
    {policy : ClientAuthorizationConfig} (h : Attached config rules policy) :
    Attached config (rule :: rules) policy := by
  obtain ⟨other, hm, hother⟩ := h
  exact ⟨other, List.mem_cons_of_mem rule hm, hother⟩

/-- Rules whose policies can join those loaded before get them. -/
theorem succeeds_of_joinable {config : ClientConfig} {rules : List BackendRule}
    (hregistered : Registered ext env (config.acme.map fun settings => settings.domain) authorizers)
    (h : Joinable ext env config authorizers rules) :
    Succeeds (buildBackends ext env config authorizers rules) := by
  induction rules generalizing authorizers with
  | nil => exact succeeds_ok _
  | cons rule rules ih =>
    rw [buildBackends]
    cases hp : attachedPolicy config rule with
    | none =>
      obtain ⟨backends, hbackends⟩ := ih hregistered
        ⟨fun policy hpolicy => h.loads policy (attached_cons hpolicy),
          fun policy other hpolicy hother => h.compatible policy other
            (hpolicy.imp_right attached_cons) (hother.imp_right attached_cons)⟩
      exact succeeds_bind.mpr ⟨backends, hbackends, succeeds_ok _⟩
    | some first =>
      have hfirst : Attached config (rule :: rules) first := ⟨rule, List.mem_cons_self, hp⟩
      obtain ⟨⟨loaded, more⟩, hload⟩ := (succeeds_loadPolicy_iff hregistered).mpr
        ⟨h.loads first hfirst, fun other hother =>
          h.compatible other first (.inl hother) (.inr hfirst)⟩
      have hmore := registered_loadPolicy hregistered hload
      have hpolicies : ∀ policy, Known more policy ∨ Attached config rules policy →
          Known authorizers policy ∨ Attached config (rule :: rules) policy := by
        rintro policy (hknown | hrest)
        · rcases (known_loadPolicy_iff hload policy).mp hknown with rfl | hold
          · exact .inr hfirst
          · exact .inl hold
        · exact .inr (attached_cons hrest)
      obtain ⟨backends, hbackends⟩ := ih hmore.1
        ⟨fun policy hpolicy => h.loads policy (attached_cons hpolicy),
          fun policy other hpolicy hother => h.compatible policy other
            (hpolicies policy hpolicy) (hpolicies other hother)⟩
      refine succeeds_bind.mpr ⟨(loaded, more), hload, ?_⟩
      exact succeeds_bind.mpr ⟨backends, hbackends, succeeds_ok _⟩

/-- Policies of rules that were loaded can join in every other order. -/
theorem joinable_of_registered {config : ClientConfig} {rules shuffled : List BackendRule}
    (hregistered : Registered ext env (config.acme.map fun settings => settings.domain) known)
    (hpolicies : ∀ policy, Attached config rules policy → Known known policy)
    (hperm : shuffled.Perm rules) : Joinable ext env config [] shuffled := by
  have hknown : ∀ policy, Attached config shuffled policy → Known known policy := by
    rintro policy ⟨rule, hm, hrule⟩
    exact hpolicies policy ⟨rule, hperm.mem_iff.mp hm, hrule⟩
  have hall : ∀ policy, Known ([] : Loaded Key) policy ∨ Attached config shuffled policy →
      Known known policy := by
    rintro policy (⟨entry, hm, -⟩ | hattached)
    · cases hm
    · exact hknown policy hattached
  constructor
  · intro policy hpolicy
    obtain ⟨entry, hm, rfl⟩ := hknown policy hpolicy
    obtain ⟨name, hname, hload⟩ := hregistered.loaded entry hm
    exact ⟨name, hname, entry.2, hload⟩
  · intro policy other hpolicy hother
    exact hregistered.apart policy other (hall policy hpolicy) (hall other hother)

/-- Entries with the same policy are the same. -/
theorem entry_eq (h : Registered ext env hostname known)
    {first second : ClientAuthorizationConfig × Authorizer Key} (hfirst : first ∈ known)
    (hsecond : second ∈ known) (hpolicy : first.1 = second.1) : first = second :=
  List.inj_on_of_nodup_map h.once hfirst hsecond hpolicy

/-- An endpoint of an entry is a path of its browser policy. -/
theorem endpoint_of_handles (h : Registered ext env hostname known)
    {entry : ClientAuthorizationConfig × Authorizer Key} (hm : entry ∈ known) {path : String}
    (hhandles : entry.2.handlesEndpoint path = true) :
    entry.1.oidcEnabled = true ∧ path ∈ endpoints entry.1 := by
  obtain ⟨name, -, hload⟩ := h.loaded entry hm
  have hoidc := Authorizer.load_oidc hload
  have hconfig := Authorizer.load_config hload
  rw [Authorizer.handlesEndpoint, hoidc, hconfig, Bool.and_eq_true, Bool.or_eq_true, beq_iff_eq,
    beq_iff_eq] at hhandles
  refine ⟨hhandles.1, ?_⟩
  rw [endpoints, List.mem_cons, List.mem_singleton]
  exact hhandles.2

/-- A common path is an overlap. -/
theorem overlap_of_mem {policy other : ClientAuthorizationConfig} {path : String}
    (hpolicy : path ∈ endpoints policy) (hother : path ∈ endpoints other) :
    endpointsOverlap policy other = true := by
  rw [endpoints, List.mem_cons, List.mem_singleton] at hpolicy hother
  simp only [endpointsOverlap, Bool.or_eq_true, beq_iff_eq]
  rcases hpolicy with rfl | rfl
  · rcases hother with hsame | hsame
    · exact .inl (.inl (.inl hsame))
    · exact .inl (.inl (.inr hsame))
  · rcases hother with hsame | hsame
    · exact .inl (.inr hsame)
    · exact .inr hsame

/-- A path is an endpoint of one entry at most. -/
theorem owner_unique (h : Registered ext env hostname known) {path : String}
    {first second : ClientAuthorizationConfig × Authorizer Key} (hfirst : first ∈ known)
    (hsecond : second ∈ known) (hhandles : first.2.handlesEndpoint path = true)
    (hother : second.2.handlesEndpoint path = true) : first = second := by
  obtain ⟨hfirstOidc, hfirstPath⟩ := endpoint_of_handles h hfirst hhandles
  obtain ⟨hsecondOidc, hsecondPath⟩ := endpoint_of_handles h hsecond hother
  rcases h.apart first.1 second.1 ⟨first, hfirst, rfl⟩ ⟨second, hsecond, rfl⟩ with heq | hapart
  · exact entry_eq h hfirst hsecond heq
  · exact absurd ⟨hfirstOidc, hsecondOidc, overlap_of_mem hfirstPath hsecondPath⟩ hapart

/-- A backend with an authorizer has the one of its entry. -/
theorem entry_of_authorization {config : ClientConfig} {rules : List BackendRule}
    {backends : List (BackendRuntime Key)}
    (hbackends : List.Forall₂ (BackendOf ext env config) rules backends)
    (hshared : ∀ backend ∈ backends, ∀ policy, attachedPolicy config backend.rule = some policy →
      ∃ authorizer, (policy, authorizer) ∈ known ∧ backend.authorization = some authorizer)
    {backend : BackendRuntime Key} (hm : backend ∈ backends) {authorizer : Authorizer Key}
    (h : backend.authorization = some authorizer) : (authorizer.config, authorizer) ∈ known := by
  obtain ⟨rule, -, hrule, hattached, -⟩ := exists_mem_of_forall₂ hbackends hm
  rw [h, Option.map_some, ← hrule] at hattached
  obtain ⟨other, hentry, hother⟩ := hshared backend hm authorizer.config hattached.symm
  rw [h] at hother
  cases hother
  exact hentry

/-- The authorizers of the backends are the loads of the attached policies. -/
theorem authorization_iff {config : ClientConfig} {rules : List BackendRule}
    {backends : List (BackendRuntime Key)}
    (hbackends : List.Forall₂ (BackendOf ext env config) rules backends)
    {authorizer : Authorizer Key} :
    (∃ backend ∈ backends, backend.authorization = some authorizer) ↔
      ∃ policy, Attached config rules policy ∧ ∃ acme, config.acme = some acme ∧
        Authorizer.load ext env policy acme.domain = .ok authorizer := by
  constructor
  · rintro ⟨backend, hm, h⟩
    obtain ⟨rule, hrule, hsame, hattached, hself⟩ := exists_mem_of_forall₂ hbackends hm
    obtain ⟨acme, hacme, hload⟩ := hself authorizer h
    rw [h, Option.map_some] at hattached
    exact ⟨authorizer.config, ⟨rule, hrule, hattached.symm⟩, acme, hacme, hload⟩
  · rintro ⟨policy, ⟨rule, hrule, hpolicy⟩, acme, hacme, hload⟩
    have hflipped : List.Forall₂ (flip (BackendOf ext env config)) backends rules :=
      hbackends.flip
    obtain ⟨backend, hm, hsame, hattached, hself⟩ := exists_mem_of_forall₂ hflipped hrule
    rw [hpolicy] at hattached
    obtain ⟨other, hother, hconfig⟩ := Option.map_eq_some_iff.mp hattached
    obtain ⟨settings, hsettings, hotherLoad⟩ := hself other hother
    rw [hacme] at hsettings
    cases hsettings
    rw [hconfig, hload] at hotherLoad
    cases hotherLoad
    exact ⟨backend, hm, hother⟩

/-- The owner of a path handles it. -/
theorem handles_of_endpointAuthorizer {backends : List (BackendRuntime Key)} {path : String}
    {authorizer : Authorizer Key} (h : endpointAuthorizer backends path = some authorizer) :
    authorizer.handlesEndpoint path = true := by
  rw [endpointAuthorizer] at h
  have hfound := List.find?_some h
  exact hfound

/-- The owner of a path is the authorizer of a backend that handles it. -/
theorem endpointAuthorizer_eq_some_iff {backends : List (BackendRuntime Key)}
    (hregistered : Registered ext env hostname known)
    (hentries : ∀ backend ∈ backends, ∀ authorizer, backend.authorization = some authorizer →
      (authorizer.config, authorizer) ∈ known) {path : String} {authorizer : Authorizer Key} :
    endpointAuthorizer backends path = some authorizer ↔
      (∃ backend ∈ backends, backend.authorization = some authorizer) ∧
        authorizer.handlesEndpoint path = true := by
  constructor
  · intro h
    have hm := List.mem_filterMap.mp (List.mem_of_find?_eq_some h)
    exact ⟨hm, handles_of_endpointAuthorizer h⟩
  · rintro ⟨⟨backend, hm, h⟩, hhandles⟩
    have hsome : (endpointAuthorizer backends path).isSome = true :=
      List.find?_isSome.mpr ⟨authorizer, List.mem_filterMap.mpr ⟨backend, hm, h⟩, hhandles⟩
    obtain ⟨other, hother⟩ := Option.isSome_iff_exists.mp hsome
    obtain ⟨owner, hownerMem, howner⟩ := List.mem_filterMap.mp (List.mem_of_find?_eq_some hother)
    have heq := owner_unique hregistered (hentries backend hm authorizer h)
      (hentries owner hownerMem other howner) hhandles (handles_of_endpointAuthorizer hother)
    rw [hother, (Prod.mk.inj heq).2]

/-- What the loop has loaded in the end are the policies attached to its rules. -/
theorem known_iff_attached {config : ClientConfig} {rules : List BackendRule}
    {backends : List (BackendRuntime Key)}
    (h : buildLoop ext env config [] rules = .ok (backends, known))
    (policy : ClientAuthorizationConfig) : Known known policy ↔ Attached config rules policy := by
  obtain ⟨-, -, hpolicies, -⟩ := registered_buildLoop registered_nil h
  rw [hpolicies]
  refine or_iff_right ?_
  rintro ⟨entry, hm, -⟩
  cases hm

/-- The loop builds one backend for every rule. -/
theorem backends_of_loop {config : ClientConfig} {rules : List BackendRule}
    {backends : List (BackendRuntime Key)}
    (h : buildLoop ext env config [] rules = .ok (backends, known)) :
    List.Forall₂ (BackendOf ext env config) rules backends := by
  have hnone : LoadedFrom ext env (config.acme.map fun settings => settings.domain)
      ([] : Loaded Key) := fun entry hm => by cases hm
  exact buildBackends_forall₂ hnone (buildBackends_eq_ok.mpr ⟨known, h⟩)

/-- The authorizers of the backends have their entries. -/
theorem entries_of_loop {config : ClientConfig} {rules : List BackendRule}
    {backends : List (BackendRuntime Key)}
    (h : buildLoop ext env config [] rules = .ok (backends, known)) :
    ∀ backend ∈ backends, ∀ authorizer, backend.authorization = some authorizer →
      (authorizer.config, authorizer) ∈ known := by
  intro backend hm authorizer hauthorizer
  obtain ⟨-, -, -, hshared⟩ := registered_buildLoop registered_nil h
  exact entry_of_authorization (backends_of_loop h) hshared hm hauthorizer

/-- The owner of a path is the load of an attached policy that handles it. -/
theorem owner_of_loop_iff {config : ClientConfig} {rules : List BackendRule}
    {backends : List (BackendRuntime Key)}
    (h : buildLoop ext env config [] rules = .ok (backends, known)) {path : String}
    {authorizer : Authorizer Key} :
    endpointAuthorizer backends path = some authorizer ↔
      (∃ policy, Attached config rules policy ∧ ∃ acme, config.acme = some acme ∧
        Authorizer.load ext env policy acme.domain = .ok authorizer) ∧
      authorizer.handlesEndpoint path = true := by
  have hregistered := (registered_buildLoop registered_nil h).1
  rw [endpointAuthorizer_eq_some_iff hregistered (entries_of_loop h),
    authorization_iff (backends_of_loop h)]

/-- The rules are loaded in every other order as well, with the same owners. -/
theorem owners_of_perm {config : ClientConfig} {rules shuffled : List BackendRule}
    {backends : List (BackendRuntime Key)}
    (h : buildLoop ext env config [] rules = .ok (backends, known))
    (hperm : shuffled.Perm rules) :
    ∃ others, buildBackends ext env config [] shuffled = .ok others ∧
      ∀ path, endpointAuthorizer others path = endpointAuthorizer backends path := by
  have hregistered := (registered_buildLoop registered_nil h).1
  obtain ⟨others, hothers⟩ := succeeds_of_joinable registered_nil
    (joinable_of_registered hregistered (fun policy => (known_iff_attached h policy).mpr) hperm)
  obtain ⟨knownOthers, hloopOthers⟩ := buildBackends_eq_ok.mp hothers
  have hsame : Attached config shuffled = Attached config rules := by
    funext policy
    rw [Attached, Attached, eq_iff_iff]
    exact exists_congr fun rule => and_congr_left' hperm.mem_iff
  refine ⟨others, hothers, fun path => Option.ext fun authorizer => ?_⟩
  rw [owner_of_loop_iff h, owner_of_loop_iff hloopOthers, hsame]

end

/-- A valid browser policy has two paths. -/
theorem validateAuthorization_endpoints {policy : ClientAuthorizationConfig}
    (h : validateAuthorization policy = .ok ()) (hoidc : policy.oidcEnabled = true) :
    (endpoints policy).Nodup := by
  simp only [validateAuthorization, validateOidc, bind_eq_ok, ensure_eq_ok, checkWhen_eq_ok,
    bne_iff_ne] at h
  obtain ⟨_, -, _, -, _, -, _, hbrowser, -⟩ := h
  obtain ⟨_, -, _, -, _, -, _, -, _, hdiffer, -⟩ := hbrowser hoidc
  rw [endpoints, List.nodup_cons, List.mem_singleton]
  exact ⟨hdiffer, List.nodup_singleton _⟩

/-- An attached policy of a validated configuration is valid. -/
theorem validated_attached {config : ClientConfig} (h : validateClientConfig config = .ok ())
    {policy : ClientAuthorizationConfig} (hp : Attached config config.backendRules policy) :
    validateAuthorization policy = .ok () := by
  obtain ⟨rule, hm, hrule⟩ := hp
  refine (validateClientConfig_policy h ?_).2
  rcases attachedPolicy_eq_some hrule with hown | hshared
  · exact .inr ⟨rule, hm, hown⟩
  · exact .inl hshared

/-- A request for a callback path is answered by the login that has it. -/
theorem handleRequestInner_callback {ext : Externals Key} {backends : List (BackendRuntime Key)}
    {authorizer : Authorizer Key} {oidc : OidcAuthorizer Key} {world : World Key}
    {request : Request} {hostname scheme : String} {clientIp : Option String}
    (howner : endpointAuthorizer backends request.uri.path = some authorizer)
    (hoidc : authorizer.oidc = some oidc)
    (hpath : request.uri.path = authorizer.config.oidcCallbackPath) :
    handleRequestInner ext world request hostname clientIp scheme backends =
      ⟨.ok (.respond (oidc.callback ext world request.method request.uri request.headers).result),
        (oidc.callback ext world request.method request.uri request.headers).created⟩ := by
  rw [handleRequestInner, howner]
  dsimp only
  rw [Authorizer.authorize, hoidc]
  dsimp only
  rw [if_pos hpath]

/-- When the loop succeeds for the rules of a validated configuration, every
reserved path has one owner. -/
theorem endpoints_have_one_owner {ext : Externals Key} {env : LoadEnv Key} {config : ClientConfig}
    {backends : List (BackendRuntime Key)} (hvalid : validateClientConfig config = .ok ())
    (h : buildBackends ext env config [] config.backendRules = .ok backends) :
    ∃ known, buildLoop ext env config [] config.backendRules = .ok (backends, known) ∧
      OneOwner ext env config backends known := by
  obtain ⟨known, hloop⟩ := buildBackends_eq_ok.mp h
  obtain ⟨hregistered, -, -, hshared⟩ := registered_buildLoop registered_nil hloop
  refine ⟨known, hloop, ?_⟩
  constructor
  · exact hregistered.once
  · intro first hfirst second hsecond hfirstOidc hsecondOidc hne path hpath hother
    rcases hregistered.apart first.1 second.1 ⟨first, hfirst, rfl⟩ ⟨second, hsecond, rfl⟩ with
      heq | hapart
    · exact hne heq
    · exact hapart ⟨hfirstOidc, hsecondOidc, overlap_of_mem hpath hother⟩
  · intro entry hm hoidc
    have hattached := (known_iff_attached hloop entry.1).mp ⟨entry, hm, rfl⟩
    exact validateAuthorization_endpoints (validated_attached hvalid hattached) hoidc
  · exact hshared
  · intro path first hfirst second hsecond hhandles hother
    exact owner_unique hregistered hfirst hsecond hhandles hother
  · exact fun shuffled hperm => owners_of_perm hloop hperm
  · rintro authorizer oidc ⟨backend, hm, ha, hoidc⟩ world request hostname clientIp scheme hpath
    have hentries := entries_of_loop hloop
    obtain ⟨name, -, hload⟩ := hregistered.loaded _ (hentries backend hm authorizer ha)
    have hconfig := (wellLoaded_of_load hload hoidc).config
    rw [hconfig] at hpath
    have hhandles : authorizer.handlesEndpoint request.uri.path = true := by
      rw [Authorizer.handlesEndpoint, hoidc, hpath, beq_self_eq_true]
      rfl
    have howner := (endpointAuthorizer_eq_some_iff hregistered hentries).mpr
      ⟨⟨backend, hm, ha⟩, hhandles⟩
    exact handleRequestInner_callback howner hoidc hpath

/-- The open and the protected policy of the flat file own their paths. -/
theorem twoPolicies_have_one_owner :
    ∃ known, buildLoop sampleExternals sampleEnv twoPolicies [] twoPolicies.backendRules =
      .ok (twoBackends, known) ∧
      OneOwner sampleExternals sampleEnv twoPolicies twoBackends known :=
  endpoints_have_one_owner (by decide +kernel) rfl

end LfpPipe.EndpointOwnership
