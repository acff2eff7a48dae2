import LfpPipe.ConsoleModel
import LfpPipe.PolicyResolution

/-!
# When the console reports protection truthfully

The client merges three policy layers for a path; the console joins the
path's own table with the nearest parent table that has a key. A route table
with a key therefore hides the machine defaults from the console, a section
that is not written as a table is not looked at, and a browser login that follows
from a client identifier is not seen at all. The summary is truthful exactly when
nothing that is hidden in this way decides.
-/

namespace LfpPipe.ConsoleTruth

open RustText Fallible SharedConfig ConfigExpansion LayeredSettings TomlValues ConfigDecoding
open ConsoleModel

/-- A summary says about a path what its policy says. -/
structure TruthfulPath (path : PathSummary) (policy : Option ClientAuthorizationConfig) :
    Prop where
  /-- Shown as protected exactly when there is a policy. -/
  isProtected : path.isProtected = true ↔ policy.isSome = true
  /-- Bearer tokens are shown exactly when they are accepted. -/
  bearer : ∀ found, policy = some found → ("Bearer" ∈ path.methods ↔ found.bearerEnabled = true)
  /-- Browser login is shown exactly when it is active. -/
  oidc : ∀ found, policy = some found → ("OIDC" ∈ path.methods ↔ found.oidcEnabled = true)
  /-- The shown roles are the required ones. -/
  roles : ∀ found, policy = some found → path.roles = found.requiredRoles

/-- The console says about every path of every route what the client does. -/
def Truthful {Principal : Type} (principal : Principal) (document : Toml)
    (configs : List ClientConfig) : Prop :=
  ∀ (i j : ℕ) (config : ClientConfig) (rule : BackendRule), configs[i]? = some config →
    config.backendRules[j + 1]? = some rule →
    ∃ (summary : RouteSummary Principal) (path : PathSummary),
      (configRoutes principal (some document))[i]? = some summary ∧
      summary.paths[j]? = some path ∧ TruthfulPath path rule.authorization

/-- The section where it is a table with a key; the console takes no other into
account. -/
def keyed (value : Option Toml) : Option Toml := if (object value).isEmpty then none else value

/-- The settings of a section that the console takes into account. -/
def shown (value : Option Toml) (settings : Option ClientAuthorizationDefaults) :
    Option ClientAuthorizationDefaults :=
  if (object value).isEmpty then none else settings

/-- The layers of a path that the console looks at: its own, and that of the route
or, where the route has no table with a key, of the machine defaults. -/
def shownLayers (path route defaults : Option Toml) (p r d : Option ClientAuthorizationDefaults) :
    List ClientAuthorizationDefaults :=
  [shown path p, if (object route).isEmpty then shown defaults d else shown route r].filterMap id

/-- The layers of a path that the console does not look at decide nothing. -/
structure NothingHidden (seen layers : List ClientAuthorizationDefaults) : Prop where
  /-- They neither bring the policy about nor switch it off. -/
  demanded : Demanded seen ↔ Demanded layers
  /-- They turn bearer tokens neither off nor on again. -/
  bearer : Demanded layers →
    (seen.findSome? (·.bearer) = some false ↔ layers.findSome? (·.bearer) = some false)
  /-- They turn browser login neither on nor off. -/
  oidc : Demanded layers → ∀ flag, layers.findSome? (·.oidc) = some flag →
    (seen.findSome? (·.oidc) = some true ↔ flag = true)
  /-- Browser login is not left to a client identifier. -/
  oidcClientId : Demanded layers → layers.findSome? (·.oidc) = none →
    ∀ layer ∈ layers, ∀ text, layer.oidcClientId = some text → isBlank text = true
  /-- They require no other roles. -/
  roles : Demanded layers → (seen.findSome? (·.requiredRoles)).getD [] =
    (layers.findSome? (·.requiredRoles)).getD []

/-- Every path of a route is shown, and nothing hidden decides about it. -/
def ShownRoute (machine : Option Toml) (defaults : ClientConfigDefaults) (value : Toml)
    (route : ClientRouteConfig) : Prop :=
  List.Forall₂ (fun path pathRoute =>
    NothingHidden (shownLayers (path.get "authorization") (value.get "authorization")
      (entry machine "authorization") pathRoute.authorization route.authorization
      defaults.authorization) (pathLayers defaults route pathRoute))
    (items (value.get "path_routes")) route.pathRoutes

/-- The first definition among the three layers of a path. -/
theorem findSome?_layers {Layer Value : Type} (path route defaults : Option Layer)
    (get : Layer → Option Value) :
    ([path, route, defaults].filterMap id).findSome? get =
      (path.bind get).or ((route.bind get).or (defaults.bind get)) := by
  rw [findSome?_filterMap_id, findSome?_cons_or, findSome?_cons_or, findSome?_cons_or,
    List.findSome?_nil, Option.or_none]

/-- What the console sees of a setting: the path, then the route or, behind a
route table without a key, the defaults. -/
theorem lookup_resolved (path route defaults : Option Toml) (key : String) :
    (resolvedAuthorization (inheritedAuthorization (object defaults) (object route))
      (object path)).lookup key =
        (entry path key).or
          (if object route = [] then entry defaults key else entry route key) := by
  rw [resolvedAuthorization, lookup_spread, lookup_object, inheritedAuthorization]
  by_cases hempty : object route = []
  · rw [if_pos hempty, hempty, List.isEmpty_nil, if_pos rfl, lookup_object]
  · have hfull : (object route).isEmpty = false := by simpa using hempty
    rw [if_neg hempty, hfull, if_neg (by decide), lookup_object]

/-- A table without a key sets nothing. -/
theorem entry_of_object_nil {value : Option Toml} (h : object value = []) (key : String) :
    entry value key = none := by
  rw [← lookup_object, h]
  rfl

/-- Flags that were read are seen as they are. -/
theorem isFalse_map (flag : Option Bool) :
    isFalse (flag.map .boolean) = !(flag.getD true) := by
  cases flag with
  | none => rfl
  | some value => cases value <;> rfl

/-- Flags that were read count as they are, and missing ones as false. -/
theorem truthy_map (flag : Option Bool) : truthy (flag.map .boolean) = flag.getD false := by
  cases flag <;> rfl

/-- Texts that were read are seen as they are. -/
theorem strings_map (texts : Option (List String)) :
    strings (texts.map textArray) = texts.getD [] := by
  cases texts with
  | none => rfl
  | some texts =>
    have hitems : (texts.map Toml.string).filterMap Toml.asText = texts := by
      rw [List.filterMap_map]
      exact List.filterMap_some
    exact hitems

/-- A route table without a key has no typed settings either. -/
theorem parent_none {Value : Type} {write : Value → Toml} {key : String} {route : Option Toml}
    {parent : Option Value} (hparent : entry route key = parent.map write)
    (hempty : object route = []) : parent = none := by
  rw [entry_of_object_nil hempty] at hparent
  exact Option.map_eq_none_iff.mp hparent.symm

/-- A text that was found stands in some layer and is not blank. -/
theorem exists_of_nonBlankStringValue {layers : List ClientAuthorizationDefaults}
    {select : ClientAuthorizationDefaults → Option String} {value : String}
    (h : nonBlankStringValue layers select = some value) :
    ∃ layer ∈ layers, select layer = some value ∧ isBlank value = false := by
  obtain ⟨layer, hm, hlayer⟩ := List.exists_of_findSome?_eq_some h
  obtain ⟨hset, hfull⟩ := Option.filter_eq_some_iff.mp hlayer
  exact ⟨layer, hm, hset, by simpa using hfull⟩

/-- Some layer has a text that is not blank. -/
theorem nonBlankStringValue_any {layers : List ClientAuthorizationDefaults}
    {select : ClientAuthorizationDefaults → Option String} :
    ((nonBlankStringValue layers select).any fun text => !isBlank text) = true ↔
      ∃ layer ∈ layers, ∃ text, select layer = some text ∧ isBlank text = false := by
  rw [Option.any_eq_true]
  constructor
  · rintro ⟨text, hfound, -⟩
    obtain ⟨layer, hm, hset⟩ := exists_of_nonBlankStringValue hfound
    exact ⟨layer, hm, text, hset⟩
  · rintro ⟨layer, hm, text, hselect, hblank⟩
    have hfilter : ((select layer).filter fun text => !isBlank text) = some text := by
      rw [hselect, Option.filter_some, hblank]
      rfl
    cases hfound : nonBlankStringValue layers select with
    | none =>
      rw [nonBlankStringValue, List.findSome?_eq_none_iff] at hfound
      rw [hfound layer hm] at hfilter
      cases hfilter
    | some found =>
      obtain ⟨other, -, -, hfull⟩ := exists_of_nonBlankStringValue hfound
      exact ⟨found, rfl, by rw [hfull]; rfl⟩

section Keys

variable {path route defaults : Option Toml} {p r d : Option ClientAuthorizationDefaults}
  (hp : AuthorizationRead path p) (hr : AuthorizationRead route r)
  (hd : AuthorizationRead defaults d)

include hp hr hd

/-- Layers with an issuer have a table with a key. -/
theorem exists_key (h : ∃ layer ∈ [p, r, d].filterMap id, layer.issuer.isSome = true) :
    object path ≠ [] ∨ object route ≠ [] ∨ object defaults ≠ [] := by
  have hlayer : ∀ {value : Option Toml} {settings : Option ClientAuthorizationDefaults}
      {layer : ClientAuthorizationDefaults}, AuthorizationRead value settings →
      settings = some layer → layer.issuer.isSome = true → object value ≠ [] := by
    intro value settings layer hread hsettings hissuer hempty
    have hnone := parent_none hread.issuer hempty
    rw [hsettings, Option.bind_some] at hnone
    rw [hnone] at hissuer
    cases hissuer
  obtain ⟨layer, hm, hissuer⟩ := h
  simp only [List.mem_filterMap, List.mem_cons, List.not_mem_nil, or_false, id] at hm
  obtain ⟨settings, rfl | rfl | rfl, hsettings⟩ := hm
  · exact .inl (hlayer hp hsettings hissuer)
  · exact .inr (.inl (hlayer hr hsettings hissuer))
  · exact .inr (.inr (hlayer hd hsettings hissuer))

end Keys

/-- A section has the keys that the console takes into account. -/
theorem entry_keyed (value : Option Toml) (key : String) :
    entry (keyed value) key = entry value key := by
  rw [keyed]
  split
  · rename_i hempty
    rw [entry_of_object_nil (List.isEmpty_iff.mp hempty)]
    rfl
  · rfl

/-- A section that the console takes into account is read as the client reads it. -/
theorem authorizationRead_keyed {value : Option Toml}
    {settings : Option ClientAuthorizationDefaults}
    (h : (object value).isEmpty = false →
      optional ClientAuthorizationDefaults.fromToml value = some settings) :
    AuthorizationRead (keyed value) (shown value settings) := by
  cases hempty : (object value).isEmpty with
  | true =>
    rw [keyed, shown, hempty, if_pos rfl, if_pos rfl]
    exact authorizationRead_of_fromToml rfl fun found hfound => nomatch hfound
  | false =>
    rw [keyed, shown, hempty, if_neg (by decide), if_neg (by decide)]
    refine authorizationRead_of_fromToml (h hempty) ?_
    rintro found rfl
    cases found with
    | table entries => rfl
    | _ => cases hempty

/-- The settings taken into account are there exactly when the table has a key. -/
theorem isSome_shown {value : Option Toml} {settings : Option ClientAuthorizationDefaults}
    (h : AuthorizationRead (keyed value) (shown value settings)) :
    (shown value settings).isSome = !(object value).isEmpty := by
  rw [h.present, keyed]
  cases hempty : (object value).isEmpty with
  | true => rfl
  | false =>
    cases value with
    | none => cases hempty
    | some found => rfl

/-- The layers that the console looks at are layers of the path. -/
theorem mem_of_mem_shownLayers {path route defaults : Option Toml}
    {p r d : Option ClientAuthorizationDefaults} {layer : ClientAuthorizationDefaults}
    (h : layer ∈ shownLayers path route defaults p r d) : layer ∈ [p, r, d].filterMap id := by
  have hshown : ∀ (value : Option Toml) (settings : Option ClientAuthorizationDefaults),
      shown value settings = some layer → settings = some layer := by
    intro value settings hsome
    rw [shown] at hsome
    split at hsome
    · cases hsome
    · exact hsome
  simp only [shownLayers, List.mem_filterMap, List.mem_cons, List.not_mem_nil, or_false, id] at h ⊢
  obtain ⟨settings, rfl | rfl, hsome⟩ := h
  · exact ⟨p, .inl rfl, hshown path p hsome⟩
  · split at hsome
    · exact ⟨d, .inr (.inr rfl), hshown defaults d hsome⟩
    · exact ⟨r, .inr (.inl rfl), hshown route r hsome⟩

section Path

variable {path route defaults : Option Toml} {p r d : Option ClientAuthorizationDefaults}

/-- What the console sees of a setting is the first definition among the layers it
looks at. -/
theorem lookup_shownLayers {Value : Type} {write : Value → Toml} {key : String}
    {select : ClientAuthorizationDefaults → Option Value}
    (hown : entry (keyed path) key = ((shown path p).bind select).map write)
    (hparent : entry (keyed route) key = ((shown route r).bind select).map write)
    (hmachine : entry (keyed defaults) key = ((shown defaults d).bind select).map write) :
    (resolvedAuthorization (inheritedAuthorization (object defaults) (object route))
      (object path)).lookup key =
        ((shownLayers path route defaults p r d).findSome? select).map write := by
  rw [entry_keyed] at hown hparent hmachine
  rw [lookup_resolved, shownLayers, findSome?_filterMap_id, findSome?_cons_or, findSome?_cons_or,
    List.findSome?_nil, Option.or_none, Option.map_or, hown]
  by_cases hempty : object route = []
  · rw [if_pos hempty, if_pos (List.isEmpty_iff.mpr hempty), hmachine]
  · have hfull : (object route).isEmpty = false := by simpa using hempty
    rw [if_neg hempty, hfull, if_neg (by decide), hparent]

variable (hp : AuthorizationRead (keyed path) (shown path p))
  (hr : AuthorizationRead (keyed route) (shown route r))
  (hd : AuthorizationRead (keyed defaults) (shown defaults d))

include hp hr hd

/-- A path is shown as protected exactly when the layers that the console looks at
demand a policy. -/
theorem protectedPath_iff :
    protectedPath (inheritedAuthorization (object defaults) (object route)) (object path) = true ↔
      Demanded (shownLayers path route defaults p r d) := by
  have htables : (!(inheritedAuthorization (object defaults) (object route)).isEmpty ||
      !(object path).isEmpty) = true ↔ shownLayers path route defaults p r d ≠ [] := by
    have hown := isSome_shown hp
    have hparent := isSome_shown hr
    have hmachine := isSome_shown hd
    rw [inheritedAuthorization, shownLayers]
    generalize shown path p = own at hown ⊢
    generalize shown route r = parent at hparent ⊢
    generalize shown defaults d = machine at hmachine ⊢
    cases hroute : (object route).isEmpty with
    | true =>
      rw [if_pos rfl, if_pos rfl, ← hmachine, ← hown]
      cases own <;> cases machine <;> simp
    | false =>
      rw [hroute] at hparent
      rw [if_neg (by decide), if_neg (by decide), hroute]
      cases parent with
      | none => cases hparent
      | some found => cases own <;> simp
  rw [protectedPath, Bool.and_eq_true, htables,
    lookup_shownLayers hp.enabled hr.enabled hd.enabled, isFalse_map, Bool.not_not]
  rfl

/-- The credentials of a path that is shown as protected. -/
theorem mem_pathMethods
    (hprotected : protectedPath (inheritedAuthorization (object defaults) (object route))
      (object path) = true) :
    ("Bearer" ∈ pathMethods (inheritedAuthorization (object defaults) (object route))
        (object path) ↔
      (shownLayers path route defaults p r d).findSome? (·.bearer) ≠ some false) ∧
    ("OIDC" ∈ pathMethods (inheritedAuthorization (object defaults) (object route))
        (object path) ↔
      (shownLayers path route defaults p r d).findSome? (·.oidc) = some true) := by
  rw [pathMethods, hprotected, if_pos rfl, lookup_shownLayers hp.bearer hr.bearer hd.bearer,
    lookup_shownLayers hp.oidc hr.oidc hd.oidc, isFalse_map, truthy_map]
  generalize (shownLayers path route defaults p r d).findSome? (·.bearer) = bearer
  generalize (shownLayers path route defaults p r d).findSome? (·.oidc) = oidc
  cases bearer with
  | none => rcases oidc with _ | (_ | _) <;> decide
  | some flag => cases flag <;> rcases oidc with _ | (_ | _) <;> decide

end Path

/-- Bearer tokens are accepted unless the first layer that says so turns them off. -/
theorem bearerEnabled_resolvedPolicy (layers : List ClientAuthorizationDefaults)
    (issuer : String) :
    (resolvedPolicy layers issuer).bearerEnabled = true ↔
      layers.findSome? (·.bearer) ≠ some false := by
  have hbearer : (resolvedPolicy layers issuer).bearerEnabled =
      (layers.findSome? (·.bearer)).getD true := rfl
  rw [hbearer]
  generalize layers.findSome? (·.bearer) = bearer
  rcases bearer with _ | (_ | _) <;> simp

/-- Browser login is shown truthfully exactly when no hidden layer and no client
identifier decides. -/
theorem oidc_truthful_iff {seen layers : List ClientAuthorizationDefaults}
    (hseen : ∀ layer ∈ seen, layer ∈ layers) (issuer : String) :
    (seen.findSome? (·.oidc) = some true ↔
      (resolvedPolicy layers issuer).oidcEnabled = true) ↔
    (∀ flag, layers.findSome? (·.oidc) = some flag →
      (seen.findSome? (·.oidc) = some true ↔ flag = true)) ∧
    (layers.findSome? (·.oidc) = none →
      ∀ layer ∈ layers, ∀ text, layer.oidcClientId = some text → isBlank text = true) := by
  have henabled : (resolvedPolicy layers issuer).oidcEnabled =
      (layers.findSome? (·.oidc)).getD
        ((nonBlankStringValue layers (·.oidcClientId)).any fun text => !isBlank text) := rfl
  rw [henabled]
  cases hfirst : layers.findSome? (·.oidc) with
  | some flag =>
    constructor
    · intro h
      refine ⟨?_, fun hnone => nomatch hnone⟩
      rintro other ⟨⟩
      exact h
    · exact fun h => h.1 flag rfl
  | none =>
    have hnone : seen.findSome? (·.oidc) = none := by
      rw [List.findSome?_eq_none_iff] at hfirst ⊢
      exact fun layer hm => hfirst layer (hseen layer hm)
    rw [Option.getD_none, hnone, nonBlankStringValue_any]
    constructor
    · intro h
      refine ⟨(fun flag hflag => nomatch hflag), fun _ layer hm text htext => ?_⟩
      by_contra hblank
      have hlogin := h.mpr ⟨layer, hm, text, htext, by simpa using hblank⟩
      cases hlogin
    · intro h
      refine iff_of_false (by decide) ?_
      rintro ⟨layer, hm, text, htext, hblank⟩
      rw [h.2 rfl layer hm text htext] at hblank
      cases hblank

/-- Layers resolve to a policy exactly when they demand one, and it is theirs. -/
theorem resolved_of_merge {layers : List ClientAuthorizationDefaults}
    {policy : Option ClientAuthorizationConfig}
    (h : mergeAuthorizationLayers layers = .ok policy) :
    (policy.isSome = true ↔ Demanded layers) ∧
      ∀ found, policy = some found → ∃ issuer, found = resolvedPolicy layers issuer := by
  rcases mergeAuthorizationLayers_eq_ok_iff.mp h with ⟨hnot, rfl⟩ | ⟨issuer, hon, -, rfl⟩
  · exact ⟨iff_of_false (by decide) hnot, fun found hfound => nomatch hfound⟩
  · refine ⟨iff_of_true rfl hon, ?_⟩
    rintro found ⟨⟩
    exact ⟨issuer, rfl⟩

/-- A summary says what some layers say. -/
structure SaysOf (seen : List ClientAuthorizationDefaults) (summary : PathSummary) : Prop where
  /-- The path is protected when they demand a policy. -/
  isProtected : summary.isProtected = true ↔ Demanded seen
  /-- Bearer tokens are accepted unless they turn them off. -/
  bearer : Demanded seen →
    ("Bearer" ∈ summary.methods ↔ seen.findSome? (·.bearer) ≠ some false)
  /-- Browser login is on when they turn it on. -/
  oidc : Demanded seen → ("OIDC" ∈ summary.methods ↔ seen.findSome? (·.oidc) = some true)
  /-- The roles are the first that they require. -/
  roles : summary.roles = (seen.findSome? (·.requiredRoles)).getD []

/-- What some layers say of a path is truthful exactly when the others decide nothing. -/
theorem truthfulPath_iff {seen layers : List ClientAuthorizationDefaults}
    (hseen : ∀ layer ∈ seen, layer ∈ layers) {summary : PathSummary} (hsaid : SaysOf seen summary)
    {policy : Option ClientAuthorizationConfig}
    (hmerge : mergeAuthorizationLayers layers = .ok policy) :
    TruthfulPath summary policy ↔ NothingHidden seen layers := by
  obtain ⟨hpolicy, hresolved⟩ := resolved_of_merge hmerge
  constructor
  · intro htrue
    have hdemanded : Demanded seen ↔ Demanded layers := by
      rw [← hsaid.isProtected, ← hpolicy]
      exact htrue.isProtected
    have hactive : Demanded layers →
        ∃ issuer, policy = some (resolvedPolicy layers issuer) ∧ Demanded seen := by
      intro hon
      obtain ⟨found, hfound⟩ := Option.isSome_iff_exists.mp (hpolicy.mpr hon)
      obtain ⟨issuer, rfl⟩ := hresolved found hfound
      exact ⟨issuer, hfound, hdemanded.mpr hon⟩
    have hoidc : Demanded layers → (∀ flag, layers.findSome? (·.oidc) = some flag →
        (seen.findSome? (·.oidc) = some true ↔ flag = true)) ∧
        (layers.findSome? (·.oidc) = none →
          ∀ layer ∈ layers, ∀ text, layer.oidcClientId = some text → isBlank text = true) := by
      intro hon
      obtain ⟨issuer, hfound, hyes⟩ := hactive hon
      exact (oidc_truthful_iff hseen issuer).mp
        ((hsaid.oidc hyes).symm.trans (htrue.oidc _ hfound))
    refine ⟨hdemanded, ?_, fun hon => (hoidc hon).1, fun hon => (hoidc hon).2, ?_⟩
    · intro hon
      obtain ⟨issuer, hfound, hyes⟩ := hactive hon
      have hmem := hsaid.bearer hyes
      rw [htrue.bearer _ hfound, bearerEnabled_resolvedPolicy] at hmem
      exact not_iff_not.mp hmem.symm
    · intro hon
      obtain ⟨issuer, hfound, -⟩ := hactive hon
      rw [← hsaid.roles]
      exact htrue.roles _ hfound
  · intro hnothing
    have hactive : ∀ found, policy = some found → ∃ issuer, Demanded layers ∧ Demanded seen ∧
        found = resolvedPolicy layers issuer := by
      intro found hfound
      have hon := hpolicy.mp (Option.isSome_of_eq_some hfound)
      obtain ⟨issuer, hissuer⟩ := hresolved found hfound
      exact ⟨issuer, hon, hnothing.demanded.mpr hon, hissuer⟩
    refine ⟨?_, ?_, ?_, ?_⟩
    · rw [hsaid.isProtected, hpolicy]
      exact hnothing.demanded
    · intro found hfound
      obtain ⟨issuer, hon, hyes, rfl⟩ := hactive found hfound
      rw [hsaid.bearer hyes, bearerEnabled_resolvedPolicy]
      exact not_iff_not.mpr (hnothing.bearer hon)
    · intro found hfound
      obtain ⟨issuer, hon, hyes, rfl⟩ := hactive found hfound
      rw [hsaid.oidc hyes]
      exact (oidc_truthful_iff hseen issuer).mpr ⟨hnothing.oidc hon, hnothing.oidcClientId hon⟩
    · intro found hfound
      obtain ⟨issuer, hon, -, rfl⟩ := hactive found hfound
      rw [hsaid.roles]
      exact hnothing.roles hon

/-- The policy section of the machine defaults, as far as the console takes it into
account. -/
theorem defaults_keyed {value : Option Toml} {defaults : ClientConfigDefaults}
    (h : defaulted {} ClientConfigDefaults.fromToml value = some defaults) :
    AuthorizationRead (keyed (entry value "authorization"))
      (shown (entry value "authorization") defaults.authorization) := by
  refine authorizationRead_keyed fun hfull => ?_
  refine (defaultsFields_of_fromToml h ?_).authorization
  rintro found rfl
  cases found with
  | array items => cases hfull
  | _ => rfl

/-- The policy section of a route, as far as the console takes it into account. -/
theorem route_keyed {value : Toml} {route : ClientRouteConfig}
    (h : ClientRouteConfig.fromToml value = some route) :
    AuthorizationRead (keyed (value.get "authorization"))
      (shown (value.get "authorization") route.authorization) := by
  refine authorizationRead_keyed fun hfull => ?_
  refine (routeFields_of_fromToml h ?_).authorization
  cases value with
  | array items => cases hfull
  | _ => rfl

/-- The policy section of a path, as far as the console takes it into account. -/
theorem path_keyed {value : Toml} {path : ClientPathRouteConfig}
    (h : ClientPathRouteConfig.fromToml value = some path) :
    AuthorizationRead (keyed (value.get "authorization"))
      (shown (value.get "authorization") path.authorization) := by
  refine authorizationRead_keyed fun hfull => ?_
  refine (pathFields_of_fromToml h ?_).authorization
  cases value with
  | array items => cases hfull
  | _ => rfl

/-- What the console says of one path of a route. -/
def shownPath (machine : Option Toml) (routeValue pathValue : Toml) : PathSummary :=
  pathSummary (object machine) (object (some routeValue))
    (inheritedAuthorization (object ((object machine).lookup "authorization"))
      (object ((object (some routeValue)).lookup "authorization"))) pathValue

/-- It is what the layers say that the console looks at. -/
theorem saysOf_shownPath {machine : Option Toml} {routeValue pathValue : Toml}
    {defaults : ClientConfigDefaults} {route : ClientRouteConfig}
    {pathRoute : ClientPathRouteConfig}
    (hdefaults : defaulted {} ClientConfigDefaults.fromToml machine = some defaults)
    (hroute : ClientRouteConfig.fromToml routeValue = some route)
    (hpath : ClientPathRouteConfig.fromToml pathValue = some pathRoute) :
    SaysOf (shownLayers (pathValue.get "authorization") (routeValue.get "authorization")
      (entry machine "authorization") pathRoute.authorization route.authorization
      defaults.authorization) (shownPath machine routeValue pathValue) := by
  have hp := path_keyed hpath
  have hr := route_keyed hroute
  have hd := defaults_keyed hdefaults
  have hown : object ((object (some pathValue)).lookup "authorization") =
      object (pathValue.get "authorization") := by
    rw [lookup_object]
    rfl
  have hparent : object ((object (some routeValue)).lookup "authorization") =
      object (routeValue.get "authorization") := by
    rw [lookup_object]
    rfl
  have hmachine : object ((object machine).lookup "authorization") =
      object (entry machine "authorization") := by
    rw [lookup_object]
  rw [shownPath, pathSummary, hown, hparent, hmachine]
  constructor
  · exact protectedPath_iff hp hr hd
  · exact fun hon => (mem_pathMethods hp hr hd ((protectedPath_iff hp hr hd).mpr hon)).1
  · exact fun hon => (mem_pathMethods hp hr hd ((protectedPath_iff hp hr hd).mpr hon)).2
  · dsimp only
    rw [lookup_shownLayers hp.requiredRoles hr.requiredRoles hd.requiredRoles, strings_map]

/-- The summary of one path of an expanded route. -/
theorem shownPath_truthful_iff {machine : Option Toml} {routeValue pathValue : Toml}
    {defaults : ClientConfigDefaults} {route : ClientRouteConfig}
    {pathRoute : ClientPathRouteConfig}
    (hdefaults : defaulted {} ClientConfigDefaults.fromToml machine = some defaults)
    (hroute : ClientRouteConfig.fromToml routeValue = some route)
    (hpath : ClientPathRouteConfig.fromToml pathValue = some pathRoute)
    {pattern : String} {rule : BackendRule}
    (hrule : expandPathRoute defaults route pattern pathRoute = .ok rule) :
    TruthfulPath (shownPath machine routeValue pathValue) rule.authorization ↔
    NothingHidden (shownLayers (pathValue.get "authorization") (routeValue.get "authorization")
      (entry machine "authorization") pathRoute.authorization route.authorization
      defaults.authorization) (pathLayers defaults route pathRoute) := by
  obtain ⟨policy, hmerge, hpolicy⟩ := bind_eq_ok.mp hrule
  cases hpolicy
  exact truthfulPath_iff (fun layer hm => mem_of_mem_shownLayers hm)
    (saysOf_shownPath hdefaults hroute hpath) hmerge

/-- Lists of one length that are related position by position are related. -/
theorem forall₂_of_getElem? {α β : Type} {R : α → β → Prop} {xs : List α} {ys : List β}
    (hlength : xs.length = ys.length)
    (h : ∀ (i : ℕ) (x : α) (y : β), xs[i]? = some x → ys[i]? = some y → R x y) :
    List.Forall₂ R xs ys := by
  refine List.forall₂_of_length_eq_of_get hlength fun i hx hy => ?_
  exact h i _ _ (List.getElem?_eq_getElem hx) (List.getElem?_eq_getElem hy)

/-- The paths of a route are the items of its table, unless it has none that are shown. -/
theorem pathRoutes_of_fromToml {value : Toml} {route : ClientRouteConfig}
    (h : ClientRouteConfig.fromToml value = some route) :
    items (value.get "path_routes") = [] ∨
      List.Forall₂ (fun item path => ClientPathRouteConfig.fromToml item = some path)
        (items (value.get "path_routes")) route.pathRoutes := by
  cases value with
  | array values => exact .inl rfl
  | _ => exact .inr (routeFields_of_fromToml h rfl).pathRoutes

/-- The paths of an expanded route are shown truthfully exactly when each of them is
shown and nothing hidden decides about it. -/
theorem shownRoute_iff {machine : Option Toml} {value : Toml} {defaults : ClientConfigDefaults}
    {route : ClientRouteConfig} {pattern : String} {rules : List BackendRule}
    (hdefaults : defaulted {} ClientConfigDefaults.fromToml machine = some defaults)
    (hread : ClientRouteConfig.fromToml value = some route)
    (hexpand : List.Forall₂ (fun pathRoute rule =>
      expandPathRoute defaults route pattern pathRoute = .ok rule) route.pathRoutes rules) :
    (∀ (j : ℕ) (rule : BackendRule), rules[j]? = some rule →
      ∃ path, (items (value.get "path_routes"))[j]? = some path ∧
        TruthfulPath (shownPath machine value path) rule.authorization) ↔
    ShownRoute machine defaults value route := by
  have hpair : ∀ (j : ℕ) (path : Toml) (pathRoute : ClientPathRouteConfig),
      (items (value.get "path_routes"))[j]? = some path → route.pathRoutes[j]? = some pathRoute →
        ClientPathRouteConfig.fromToml path = some pathRoute := by
    intro j path pathRoute hj hpathRoute
    rcases pathRoutes_of_fromToml hread with hnone | hpairs
    · rw [hnone] at hj
      cases hj
    · obtain ⟨other, hother, hpathRead⟩ := exists_getElem?_of_forall₂ hpairs hpathRoute
      obtain rfl : path = other := Option.some.inj (hj.symm.trans hother)
      exact hpathRead
  constructor
  · intro htruthful
    have hlength : (items (value.get "path_routes")).length = route.pathRoutes.length := by
      rcases pathRoutes_of_fromToml hread with hnone | hpairs
      · cases hpathRoutes : route.pathRoutes with
        | nil => rw [hnone, List.length_nil, List.length_nil]
        | cons pathRoute rest =>
          have hfirst : route.pathRoutes[0]? = some pathRoute := by
            rw [hpathRoutes]
            rfl
          obtain ⟨rule, hrule, -⟩ := exists_getElem?_of_forall₂ hexpand.flip hfirst
          obtain ⟨path, hpath, -⟩ := htruthful 0 rule hrule
          rw [hnone] at hpath
          cases hpath
      · exact hpairs.length_eq
    refine forall₂_of_getElem? hlength fun j path pathRoute hj hpathRoute => ?_
    obtain ⟨rule, hrule, hpolicy⟩ := exists_getElem?_of_forall₂ hexpand.flip hpathRoute
    obtain ⟨item, hitem, htrue⟩ := htruthful j rule hrule
    obtain rfl : path = item := Option.some.inj (hj.symm.trans hitem)
    exact (shownPath_truthful_iff hdefaults hread (hpair j path pathRoute hj hpathRoute)
      hpolicy).mp htrue
  · intro hshown j rule hrule
    obtain ⟨pathRoute, hpathRoute, hpolicy⟩ := exists_getElem?_of_forall₂ hexpand hrule
    obtain ⟨path, hj, hnothing⟩ := exists_getElem?_of_forall₂ hshown hpathRoute
    exact ⟨path, hj, (shownPath_truthful_iff hdefaults hread
      (hpair j path pathRoute hj hpathRoute) hpolicy).mpr hnothing⟩

/-- The console shows the routes of a document in their order. -/
theorem getElem?_configRoutes {Principal : Type} (principal : Principal) (entries : ConfigTable)
    (i : ℕ) : (configRoutes principal (some (.table entries)))[i]? =
      ((items (entries.lookup "routes"))[i]?).map
        (routeSummary principal (object (entries.lookup "defaults"))) := by
  rw [configRoutes, List.getElem?_map]
  rfl

/-- The console shows the paths of a route in their order. -/
theorem getElem?_paths {Principal : Type} (principal : Principal) (machine : Option Toml)
    (value : Toml) (j : ℕ) : (routeSummary principal (object machine) value).paths[j]? =
      ((items (value.get "path_routes"))[j]?).map (shownPath machine value) := by
  have hitems : items ((object (some value)).lookup "path_routes") =
      items (value.get "path_routes") := by
    rw [lookup_object]
    rfl
  rw [← hitems, routeSummary, List.getElem?_map]
  rfl

/-- The console reports protection truthfully for an accepted multi-route
document exactly when it shows every path of every route, and no policy layer that
it does not look at decides about the path. -/
theorem console_truthful_iff {Principal : Type} (principal : Principal) (entries : ConfigTable)
    (file : MultiRouteClientConfig)
    (hfile : MultiRouteClientConfig.fromToml (.table entries) = some file)
    (configs : List ClientConfig) (haccepted : parseClientToml (.table entries) = .ok configs) :
    Truthful principal (.table entries) configs ↔
      List.Forall₂ (ShownRoute (entries.lookup "defaults") file.defaults)
        (items (entries.lookup "routes")) file.routes := by
  have hfields := documentFields_of_fromToml hfile rfl
  have hitems : List.Forall₂ (fun item route => ClientRouteConfig.fromToml item = some route)
      (items (entries.lookup "routes")) file.routes := hfields.routes
  have hdocument : ClientConfigDocument.fromToml (.table entries) = some (.multiRoute file) := by
    rw [ClientConfigDocument.fromToml, hfile]
    rfl
  rw [parseClientToml, hdocument] at haccepted
  have hexpanded := documentConfigs_multiRoute (parseClientConfigs_eq_ok.mp haccepted).1
  constructor
  · intro htruthful
    refine forall₂_of_getElem? hitems.length_eq fun i value route hi hroute => ?_
    obtain ⟨found, hfound, hread⟩ := exists_getElem?_of_forall₂ hitems hroute
    obtain rfl : value = found := Option.some.inj (hi.symm.trans hfound)
    obtain ⟨config, hconfig, hfrom⟩ := exists_getElem?_of_forall₂ hexpanded.flip hroute
    obtain ⟨backendAddr, rules, hrules, hexpand⟩ := hfrom.backendRules
    refine (shownRoute_iff hfields.defaults hread hexpand).mp fun j rule hrule => ?_
    obtain ⟨summary, path, hsummary, hpath, htrue⟩ := htruthful i j config rule hconfig
      (by rw [hrules, List.getElem?_cons_succ, hrule])
    rw [getElem?_configRoutes, hi] at hsummary
    cases hsummary
    rw [getElem?_paths] at hpath
    obtain ⟨item, hitem, rfl⟩ := Option.map_eq_some_iff.mp hpath
    exact ⟨item, hitem, htrue⟩
  · intro hshown i j config rule hconfig hrule
    obtain ⟨route, hroute, hfrom⟩ := exists_getElem?_of_forall₂ hexpanded hconfig
    obtain ⟨value, hi, hread⟩ := exists_getElem?_of_forall₂ hitems hroute
    obtain ⟨found, hfound, hpaths⟩ := exists_getElem?_of_forall₂ hshown hroute
    obtain rfl : value = found := Option.some.inj (hi.symm.trans hfound)
    obtain ⟨backendAddr, rules, hrules, hexpand⟩ := hfrom.backendRules
    rw [hrules, List.getElem?_cons_succ] at hrule
    obtain ⟨path, hj, htrue⟩ :=
      (shownRoute_iff hfields.defaults hread hexpand).mpr hpaths j rule hrule
    refine ⟨routeSummary principal (object (entries.lookup "defaults")) value,
      shownPath (entries.lookup "defaults") value path, ?_, ?_, htrue⟩
    · rw [getElem?_configRoutes, hi]
      rfl
    · rw [getElem?_paths, hj]
      rfl

/-- One route with its own issuer and audience and one path; the policy
switch of the machine defaults is given. -/
def sampleDocument (enabled : Bool) : Toml :=
  .table [
    ("defaults", .table [
      ("nats_url", .string "nats://control.example"),
      ("backend_addr", .string ":8080"),
      ("acme", .table [("enabled", .boolean true)]),
      ("authorization", .table [("enabled", .boolean enabled)])]),
    ("routes", .array [.table [
      ("client_id", .string "docs-client"),
      ("hostname", .string "docs.example"),
      ("authorization", .table [
        ("issuer", .string "https://login.example"), ("audiences", textArray ["docs"])]),
      ("path_routes", .array [.table [
        ("path_prefix", .string "/admin"), ("backend_addr", .string ":9090")]])]])]

/-- A section that is there and is a table. -/
theorem written_table (entries : List (String × Toml)) : Written (some (.table entries)) := by
  intro found hfound
  cases hfound
  rfl

/-- A section that is not there. -/
theorem written_none : Written none := by
  intro found hfound
  cases hfound

/-- With the machine switch on, the console is truthful about the sample. -/
theorem console_truthful_on :
    ∃ configs, parseClientToml (sampleDocument true) = .ok configs ∧
      Truthful () (sampleDocument true) configs := by
  refine ⟨_, rfl, (console_truthful_iff () _ _ rfl _ rfl).mpr ?_⟩
  refine .cons (.cons ⟨?_, ?_, ?_, ?_, ?_⟩ .nil) .nil
  · exact iff_of_true ⟨by decide, rfl⟩ ⟨by decide, rfl⟩
  · intro _
    exact iff_of_false (by decide) (by decide)
  · intro _ flag hflag
    cases hflag
  · intro _ _ layer hlayer text htext
    rcases List.mem_cons.mp hlayer with rfl | hlayer
    · cases htext
    · cases List.mem_singleton.mp hlayer
      cases htext
  · intro _
    rfl

/-- With the machine switch off, the client enforces nothing on the path of
the sample, and the console still shows it as protected. -/
theorem console_untruthful_off :
    ∃ configs, parseClientToml (sampleDocument false) = .ok configs ∧
      ¬ Truthful () (sampleDocument false) configs := by
  refine ⟨_, rfl, ?_⟩
  intro htruthful
  obtain ⟨summary, path, hsummary, hpath, htrue⟩ := htruthful 0 0 _ _ rfl rfl
  cases hsummary
  cases hpath
  have hpolicy := htrue.isProtected.mp rfl
  cases hpolicy

end LfpPipe.ConsoleTruth
