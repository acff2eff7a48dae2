import LfpPipe.ConfigEditor
import LfpPipe.ConsoleTruth
import LfpPipe.RouteAcceptance
import Mathlib.Data.List.Nodup

/-!
# When a document without console errors is accepted by the client

The console repeats part of the client's validation with its own notions of
blank text, absent values and empty sections, and it looks at tables only. A
document that it reports no error for is accepted by the client exactly when a
list of properties holds that the console leaves unchecked; where it sees a policy
otherwise than the client, its own checks of the policy are among them.
-/

namespace LfpPipe.ConsoleSoundness

open RustText Fallible SharedConfig ConfigExpansion PolicyResolution LayeredSettings TomlValues
open ConfigDecoding ConsoleModel ConfigEditor ConsoleTruth RouteAcceptance

/-- What the console has checked of a policy without complaint. -/
structure Approved (layers : List ConfigTable) : Prop where
  /-- Some credential is accepted. -/
  methods : bearerOn layers = true ∨ oidcOn layers = true
  /-- There is an issuer. -/
  issuer : (firstText layers "issuer" "").isEmpty = false
  /-- Bearer tokens have an audience. -/
  audiences : bearerOn layers = true → (firstNonEmptyList layers "audiences" []).isEmpty = false
  /-- Browser login has a client identifier. -/
  clientId : oidcOn layers = true → (oidcClientId layers).isEmpty = false
  /-- Browser login asks for an identity. -/
  scopes : oidcOn layers = true →
    ((oidcScopes layers).any fun scope => scope.asText == some "openid") = true
  /-- The callback path is valid. -/
  callback : oidcOn layers = true → ConfigEditor.validOidcPath (callbackPath layers) = true
  /-- The logout path is valid. -/
  logout : oidcOn layers = true → ConfigEditor.validOidcPath (logoutPath layers) = true
  /-- The two paths differ. -/
  distinct : oidcOn layers = true → callbackPath layers ≠ logoutPath layers

/-- A policy without messages is approved. -/
theorem approved_of_nil {place : String} {layers : List ConfigTable}
    (h : ConfigEditor.validateAuthorization place layers = []) : Approved layers := by
  simp only [ConfigEditor.validateAuthorization, List.append_eq_nil_iff, report_eq_nil,
    Bool.and_eq_false_iff, Bool.not_eq_false', beq_eq_false_iff_ne] at h
  obtain ⟨⟨⟨⟨⟨⟨⟨hmethods, hissuer⟩, haudiences⟩, hclient⟩, hscopes⟩, hcallback⟩, hlogout⟩,
    hdistinct⟩ := h
  refine ⟨hmethods, hissuer, ?_, ?_, ?_, ?_, ?_, ?_⟩
  · exact fun hon => haudiences.resolve_left (by simp [hon])
  · exact fun hon => hclient.resolve_left (by simp [hon])
  · exact fun hon => hscopes.resolve_left (by simp [hon])
  · exact fun hon => hcallback.resolve_left (by simp [hon])
  · exact fun hon => hlogout.resolve_left (by simp [hon])
  · exact fun hon => hdistinct.resolve_left (by simp [hon])

/-- A layer without keys is not looked at. -/
theorem approved_cons_nil {layers : List ConfigTable} (h : Approved layers) :
    Approved ([] :: layers) :=
  ⟨h.methods, h.issuer, h.audiences, h.clientId, h.scopes, h.callback, h.logout, h.distinct⟩

/-- A section with a key whose first switch is not off is seen as on, by its
own decision or with settings of its own. -/
theorem authorizationState_on {parent own : ConfigTable} {above switch : Option Bool}
    (hparent : parent.lookup "enabled" = above.map .boolean)
    (hown : own.lookup "enabled" = switch.map .boolean) (hkey : own ≠ [])
    (hon : (switch.or above).getD true = true) :
    (authorizationState parent own).enabled = true ∧
      ((authorizationState parent own).mode ≠ .inherit ∨ hasOverrides own = true) := by
  cases switch with
  | some flag =>
    have hflag : flag = true := hon
    have hmode : (authorizationState parent own).mode = .on := by
      simp [authorizationState, enabledMode, ConfigEditor.bool, hown, hflag]
    refine ⟨?_, .inl (by rw [hmode]; decide)⟩
    simp [authorizationState, enabledMode, ConfigEditor.bool, hown, hflag]
  | none =>
    have hoverrides : hasOverrides own = true := by
      obtain ⟨setting, rest, rfl⟩ := List.exists_cons_of_ne_nil hkey
      refine List.any_eq_true.mpr ⟨setting, List.mem_cons_self, ?_⟩
      rw [bne_iff_ne]
      intro hname
      rw [List.lookup_cons, hname] at hown
      cases hown
    refine ⟨?_, .inr hoverrides⟩
    have hnone : own.lookup "enabled" = none := hown
    cases hempty : parent.isEmpty with
    | true => simp [authorizationState, hnone, hempty, hoverrides]
    | false =>
      have habove : isFalse (parent.lookup "enabled") = false := by
        rw [hparent, isFalse_map]
        rw [Option.none_or] at hon
        rw [hon]
        rfl
      simp [authorizationState, hnone, hempty, habove]

/-- Blank text in the eyes of the console is blank text for the client. -/
def BlankAlike (value : Option Toml) : Prop :=
  ∀ text, value = some (.string text) → (jsTrim text).isEmpty = isBlank text

/-- The texts of a policy section that both sides compare with blank ones. -/
structure BlanksAgree (settings : Option Toml) : Prop where
  /-- The issuer. -/
  issuer : BlankAlike (entry settings "issuer")
  /-- The relying-party client identifier. -/
  oidcClientId : BlankAlike (entry settings "oidc_client_id")
  /-- The callback path. -/
  oidcCallbackPath : BlankAlike (entry settings "oidc_callback_path")
  /-- The logout path. -/
  oidcLogoutPath : BlankAlike (entry settings "oidc_logout_path")

/-- Browser login is what a layer says, or on with a client identifier. -/
def browserLogin (layers : List ClientAuthorizationDefaults) : Bool :=
  (layers.findSome? (·.oidc)).getD (nonBlankStringValue layers (·.oidcClientId)).isSome

/-- What the client demands of a policy and the console leaves unchecked. -/
structure Unchecked (layers : List ClientAuthorizationDefaults) : Prop where
  /-- Some layer names an issuer: not all sections are empty tables. -/
  issuer : ∃ layer ∈ layers, layer.issuer.isSome = true
  /-- The header timeout is positive. -/
  headerTimeoutMs : layers.findSome? (·.headerTimeoutMs) ≠ some 0
  /-- Headers may have eight kibibytes. -/
  maxHeaderBytes : ∀ limit, layers.findSome? (·.maxHeaderBytes) = some limit → 8192 ≤ limit
  /-- Browser sessions live for some time. -/
  oidcSessionTtlSeconds : browserLogin layers = true →
    layers.findSome? (·.oidcSessionTtlSeconds) ≠ some 0
  /-- The callback path starts with the reserved path and no white space. -/
  oidcCallbackPath : browserLogin layers = true → startsWith
    ((nonBlankStringValue layers (·.oidcCallbackPath)).getD defaultOidcCallbackPath)
      "/_lfp/auth/" = true
  /-- The logout path starts with the reserved path and no white space. -/
  oidcLogoutPath : browserLogin layers = true → startsWith
    ((nonBlankStringValue layers (·.oidcLogoutPath)).getD defaultOidcLogoutPath)
      "/_lfp/auth/" = true

/-- What the console checks of a policy that it sees as the client does. -/
structure Checked (layers : List ClientAuthorizationDefaults) : Prop where
  /-- Some credential is accepted. -/
  methods : (layers.findSome? (·.bearer)).getD true = true ∨ browserLogin layers = true
  /-- Some layer has an issuer that is not blank. -/
  issuer : (nonBlankStringValue layers (·.issuer)).isSome = true
  /-- Bearer tokens have an audience. -/
  audiences : (layers.findSome? (·.bearer)).getD true = true →
    (nonEmptyListValue layers (·.audiences)).isSome = true
  /-- Browser login has a client identifier that is not blank. -/
  oidcClientId : browserLogin layers = true →
    (nonBlankStringValue layers (·.oidcClientId)).isSome = true
  /-- Browser login asks for an identity. -/
  oidcScopes : browserLogin layers = true →
    (((nonEmptyListValue layers (·.oidcScopes)).getD defaultBrowserOidcScopes).any fun scope =>
      scope == "openid") = true
  /-- The callback path has no query and no fragment. -/
  oidcCallbackPath : browserLogin layers = true → containsAny
    ((nonBlankStringValue layers (·.oidcCallbackPath)).getD defaultOidcCallbackPath)
      ['?', '#'] = false
  /-- The logout path has no query and no fragment. -/
  oidcLogoutPath : browserLogin layers = true → containsAny
    ((nonBlankStringValue layers (·.oidcLogoutPath)).getD defaultOidcLogoutPath)
      ['?', '#'] = false
  /-- The two paths differ. -/
  distinct : browserLogin layers = true →
    (nonBlankStringValue layers (·.oidcCallbackPath)).getD defaultOidcCallbackPath ≠
      (nonBlankStringValue layers (·.oidcLogoutPath)).getD defaultOidcLogoutPath

/-- A text with a default that is not blank is not blank. -/
theorem isBlank_getD_nonBlankStringValue (layers : List ClientAuthorizationDefaults)
    (select : ClientAuthorizationDefaults → Option String) {fallback : String}
    (h : isBlank fallback = false) :
    isBlank ((nonBlankStringValue layers select).getD fallback) = false := by
  cases hfound : nonBlankStringValue layers select with
  | none => exact h
  | some value =>
    obtain ⟨_, -, -, hfull⟩ := exists_of_nonBlankStringValue hfound
    exact hfull

/-- The client's decision about browser login. -/
theorem oidcEnabled_resolvedPolicy (layers : List ClientAuthorizationDefaults) (issuer : String) :
    (resolvedPolicy layers issuer).oidcEnabled = browserLogin layers := by
  have hany : ((nonBlankStringValue layers (·.oidcClientId)).any fun value => !isBlank value) =
      (nonBlankStringValue layers (·.oidcClientId)).isSome := by
    cases hfound : nonBlankStringValue layers (·.oidcClientId) with
    | none => rfl
    | some value =>
      obtain ⟨_, -, -, hfull⟩ := exists_of_nonBlankStringValue hfound
      rw [Option.any_some, hfull]
      rfl
  rw [browserLogin, ← hany]
  rfl

/-- A number that is not set to zero is positive when its default is. -/
theorem getD_pos {found : Option ℕ} {fallback : ℕ} (hfallback : 0 < fallback)
    (h : found ≠ some 0) : 0 < found.getD fallback := by
  cases found with
  | none => exact hfallback
  | some value => exact Nat.pos_of_ne_zero fun hzero => h (congrArg some hzero)

/-- A query or fragment that a trimmed text does not have is not in the text
itself. -/
theorem containsAny_of_trimmed {value : String} (hquery : containsAny (jsTrim value) ['?'] = false)
    (hfragment : containsAny (jsTrim value) ['#'] = false) :
    containsAny value ['?', '#'] = false := by
  rw [containsAny_jsTrim value (forall_mem_of_all (by decide))] at hquery hfragment
  rw [containsAny, List.any_eq_false] at hquery hfragment ⊢
  intro c hm hc
  rcases List.mem_cons.mp (List.contains_iff_mem.mp hc) with rfl | hc
  · exact hquery _ hm rfl
  · cases List.mem_singleton.mp hc
    exact hfragment _ hm rfl

/-- A reserved path that is valid when trimmed has no query and no fragment. -/
theorem containsAny_of_validOidcPath {value : String}
    (htrimmed : ConfigEditor.validOidcPath (jsTrim value) = true) :
    containsAny value ['?', '#'] = false := by
  simp only [ConfigEditor.validOidcPath, Bool.and_eq_true, Bool.not_eq_true'] at htrimmed
  exact containsAny_of_trimmed htrimmed.1.2 htrimmed.2

/-- A valid policy has the unchecked properties. -/
theorem unchecked_of_valid {layers : List ClientAuthorizationDefaults} {issuer : String}
    (hissuer : nonBlankStringValue layers (·.issuer) = some issuer)
    (hvalid : ConfigExpansion.validateAuthorization (resolvedPolicy layers issuer) = .ok ()) :
    Unchecked layers := by
  simp only [ConfigExpansion.validateAuthorization, bind_eq_ok, ensure_eq_ok, checkWhen_eq_ok,
    decide_eq_true_eq, oidcEnabled_resolvedPolicy] at hvalid
  obtain ⟨_, -, _, -, _, -, _, hlogin, _, htimeout, hlimit⟩ := hvalid
  simp only [validateOidc, validateOidcPath, bind_eq_ok, ensure_eq_ok, decide_eq_true_eq,
    ConfigExpansion.validOidcPath, Bool.and_eq_true] at hlogin
  refine ⟨?_, ?_, ?_, ?_, ?_, ?_⟩
  · obtain ⟨layer, hm, hset, -⟩ := exists_of_nonBlankStringValue hissuer
    exact ⟨layer, hm, Option.isSome_of_eq_some hset⟩
  · intro hzero
    rw [resolvedPolicy, hzero] at htimeout
    cases htimeout
  · intro limit hfound
    rw [resolvedPolicy, hfound] at hlimit
    exact hlimit
  · intro hon hzero
    obtain ⟨_, -, _, -, _, -, _, -, _, -, _, -, httl⟩ := hlogin hon
    rw [resolvedPolicy, hzero] at httl
    cases httl
  · intro hon
    obtain ⟨_, -, _, -, _, ⟨hcallback, -⟩, -⟩ := hlogin hon
    exact hcallback
  · intro hon
    obtain ⟨_, -, _, -, _, -, _, ⟨hlogout, -⟩, -⟩ := hlogin hon
    exact hlogout

/-- A text that is not blank is there exactly when a default of nothing is not blank. -/
theorem isSome_nonBlankStringValue (layers : List ClientAuthorizationDefaults)
    (select : ClientAuthorizationDefaults → Option String) :
    (nonBlankStringValue layers select).isSome = true ↔
      isBlank ((nonBlankStringValue layers select).getD "") = false := by
  cases hfound : nonBlankStringValue layers select with
  | none => exact iff_of_false (by decide) (by decide)
  | some value =>
    obtain ⟨_, -, -, hfull⟩ := exists_of_nonBlankStringValue hfound
    exact iff_of_true rfl hfull

/-- An array with an item is there exactly when a default of nothing has an item. -/
theorem isSome_nonEmptyListValue (layers : List ClientAuthorizationDefaults)
    (select : ClientAuthorizationDefaults → Option (List String)) :
    (nonEmptyListValue layers select).isSome = true ↔
      ((nonEmptyListValue layers select).getD []).isEmpty = false := by
  cases hfound : nonEmptyListValue layers select with
  | none => exact iff_of_false (by decide) (by decide)
  | some texts =>
    obtain ⟨layer, -, hlayer⟩ := List.exists_of_findSome?_eq_some hfound
    exact iff_of_true rfl (by simpa using (Option.filter_eq_some_iff.mp hlayer).2)

/-- A valid policy has the properties that the console checks. -/
theorem checked_of_valid {layers : List ClientAuthorizationDefaults} {issuer : String}
    (hissuer : nonBlankStringValue layers (·.issuer) = some issuer)
    (hvalid : ConfigExpansion.validateAuthorization (resolvedPolicy layers issuer) = .ok ()) :
    Checked layers := by
  simp only [ConfigExpansion.validateAuthorization, validateBearer, bind_eq_ok, ensure_eq_ok,
    checkWhen_eq_ok, decide_eq_true_eq, Bool.or_eq_true, Bool.not_eq_true',
    oidcEnabled_resolvedPolicy] at hvalid
  obtain ⟨_, hmethods, _, -, _, hbearer, _, hlogin, -⟩ := hvalid
  simp only [validateOidc, validateOidcPath, bind_eq_ok, ensure_eq_ok, Bool.not_eq_true',
    bne_iff_ne, ConfigExpansion.validOidcPath, Bool.and_eq_true] at hlogin
  refine ⟨hmethods, Option.isSome_of_eq_some hissuer, ?_, ?_, ?_, ?_, ?_, ?_⟩
  · intro hon
    obtain ⟨_, haudiences, -⟩ := hbearer hon
    exact (isSome_nonEmptyListValue layers _).mpr haudiences
  · intro hon
    obtain ⟨_, hclient, -⟩ := hlogin hon
    exact (isSome_nonBlankStringValue layers _).mpr hclient
  · intro hon
    obtain ⟨_, -, _, hscopes, -⟩ := hlogin hon
    exact hscopes
  · intro hon
    obtain ⟨_, -, _, -, _, ⟨-, hcallback⟩, -⟩ := hlogin hon
    exact hcallback
  · intro hon
    obtain ⟨_, -, _, -, _, -, _, ⟨-, hlogout⟩, -⟩ := hlogin hon
    exact hlogout
  · intro hon
    obtain ⟨_, -, _, -, _, -, _, -, _, hdistinct, -⟩ := hlogin hon
    exact hdistinct

/-- A policy that has both the checked and the unchecked properties is valid. -/
theorem valid_of_checked {layers : List ClientAuthorizationDefaults} (hchecked : Checked layers)
    (hunchecked : Unchecked layers) :
    ∃ issuer, nonBlankStringValue layers (·.issuer) = some issuer ∧
      ConfigExpansion.validateAuthorization (resolvedPolicy layers issuer) = .ok () := by
  obtain ⟨issuer, hissuer⟩ := Option.isSome_iff_exists.mp hchecked.issuer
  obtain ⟨_, -, -, hnonblank⟩ := exists_of_nonBlankStringValue hissuer
  refine ⟨issuer, hissuer, ?_⟩
  simp only [ConfigExpansion.validateAuthorization, validateBearer, validateOidc,
    validateOidcPath, bind_eq_ok, ensure_eq_ok, checkWhen_eq_ok, Bool.not_eq_true', bne_iff_ne,
    decide_eq_true_eq, Bool.or_eq_true, oidcEnabled_resolvedPolicy]
  refine ⟨(), hchecked.methods, (), hnonblank, (), ?_, (), ?_, (), ?_, ?_⟩
  · intro hon
    refine ⟨(), (isSome_nonEmptyListValue layers _).mp (hchecked.audiences hon), (),
      isBlank_getD_nonBlankStringValue _ _ (by decide), ?_⟩
    have hvalue : (resolvedPolicy layers issuer).algorithms =
        (nonEmptyListValue layers (·.algorithms)).getD defaultJwtAlgorithms := rfl
    rw [hvalue]
    cases hfound : nonEmptyListValue layers (·.algorithms) with
    | none => rfl
    | some texts =>
      obtain ⟨layer, -, hlayer⟩ := List.exists_of_findSome?_eq_some hfound
      simpa using (Option.filter_eq_some_iff.mp hlayer).2
  · intro hon
    have hcallback : ConfigExpansion.validOidcPath
        ((nonBlankStringValue layers (·.oidcCallbackPath)).getD defaultOidcCallbackPath) =
          true := by
      rw [ConfigExpansion.validOidcPath, hunchecked.oidcCallbackPath hon,
        hchecked.oidcCallbackPath hon]
      rfl
    have hlogout : ConfigExpansion.validOidcPath
        ((nonBlankStringValue layers (·.oidcLogoutPath)).getD defaultOidcLogoutPath) = true := by
      rw [ConfigExpansion.validOidcPath, hunchecked.oidcLogoutPath hon, hchecked.oidcLogoutPath hon]
      rfl
    exact ⟨(), (isSome_nonBlankStringValue layers _).mp (hchecked.oidcClientId hon), (),
      hchecked.oidcScopes hon, (), hcallback, (), hlogout, (), hchecked.distinct hon, (),
      isBlank_getD_nonBlankStringValue _ _ (by decide),
      getD_pos (by decide) (hunchecked.oidcSessionTtlSeconds hon)⟩
  · exact getD_pos (by decide) hunchecked.headerTimeoutMs
  · have hvalue : (resolvedPolicy layers issuer).maxHeaderBytes =
        (layers.findSome? (·.maxHeaderBytes)).getD defaultAuthMaxHeaderBytes := rfl
    rw [hvalue]
    cases hfound : layers.findSome? (·.maxHeaderBytes) with
    | none => decide
    | some limit => exact hunchecked.maxHeaderBytes limit hfound

section Layers

variable {path route defaults : Option Toml} {p r d : Option ClientAuthorizationDefaults}
  (hp : AuthorizationRead path p) (hr : AuthorizationRead route r)
  (hd : AuthorizationRead defaults d)

/-- The tables of the three layers of a path. -/
def tables (path route defaults : Option Toml) : List ConfigTable :=
  [asTable path, asTable route, asTable defaults]

/-- The first typed setting of the tables. -/
theorem firstDefined_tables {Value : Type} {write : Value → Toml} {key : String}
    {select : ClientAuthorizationDefaults → Option Value}
    (hown : entry path key = (p.bind select).map write)
    (hparent : entry route key = (r.bind select).map write)
    (hmachine : entry defaults key = (d.bind select).map write) :
    firstDefined (tables path route defaults) key =
      (([p, r, d].filterMap id).findSome? select).map write := by
  rw [findSome?_layers, firstDefined, tables, findSome?_cons_or, findSome?_cons_or,
    findSome?_cons_or, List.findSome?_nil, Option.or_none, lookup_object, lookup_object,
    lookup_object, hown, hparent, hmachine, Option.map_or, Option.map_or]

/-- The first value of a mapped list that passes a test. -/
theorem find?_map_eq_findSome? {α β : Type} (f : α → β) (test : β → Bool) (values : List α) :
    (values.map f).find? test = values.findSome? fun value => (some (f value)).filter test := by
  induction values with
  | nil => rfl
  | cons value values ih =>
    rw [List.map_cons, List.find?_cons, List.findSome?_cons, ih, Option.filter_some]
    cases test (f value) <;> rfl

/-- A text that was read, as the console sees it. -/
theorem filter_jsTrim {value : Option Toml} {found : Option String}
    (hread : value = found.map .string) (halike : BlankAlike value) :
    ((some (jsTrim (text value))).filter fun value => !value.isEmpty) =
      (found.filter fun value => !isBlank value).map jsTrim := by
  cases found with
  | none =>
    rw [hread]
    rfl
  | some value =>
    have hsame := halike value hread
    rw [hread, Option.filter_some, Option.filter_some]
    have htext : text ((some value).map Toml.string) = value := rfl
    rw [htext, hsame]
    cases isBlank value <;> rfl

/-- The first text of the tables is the client's first text, trimmed. -/
theorem find?_tables {key : String} {select : ClientAuthorizationDefaults → Option String}
    (hown : entry path key = (p.bind select).map .string)
    (hparent : entry route key = (r.bind select).map .string)
    (hmachine : entry defaults key = (d.bind select).map .string)
    (hownAlike : BlankAlike (entry path key)) (hparentAlike : BlankAlike (entry route key))
    (hmachineAlike : BlankAlike (entry defaults key)) :
    (((tables path route defaults).map fun layer => jsTrim (text (layer.lookup key))).find?
      fun value => !value.isEmpty) =
      (nonBlankStringValue ([p, r, d].filterMap id) select).map jsTrim := by
  have hlayers := findSome?_layers p r d fun settings =>
    (select settings).filter fun value => !isBlank value
  have hbind : ∀ layer : Option ClientAuthorizationDefaults,
      (layer.bind fun settings => (select settings).filter fun value => !isBlank value) =
        (layer.bind select).filter fun value => !isBlank value := by
    intro layer
    cases layer <;> rfl
  rw [nonBlankStringValue, hlayers, hbind, hbind, hbind, Option.map_or, Option.map_or,
    ← filter_jsTrim hown hownAlike, ← filter_jsTrim hparent hparentAlike,
    ← filter_jsTrim hmachine hmachineAlike, find?_map_eq_findSome?, tables, findSome?_cons_or,
    findSome?_cons_or, findSome?_cons_or, List.findSome?_nil, Option.or_none, lookup_object,
    lookup_object, lookup_object]

/-- The first array of the tables with an item is the client's. -/
theorem firstNonEmptyList_tables {key : String}
    {select : ClientAuthorizationDefaults → Option (List String)}
    (hown : entry path key = (p.bind select).map textArray)
    (hparent : entry route key = (r.bind select).map textArray)
    (hmachine : entry defaults key = (d.bind select).map textArray) (fallback : List Toml) :
    firstNonEmptyList (tables path route defaults) key fallback =
      ((nonEmptyListValue ([p, r, d].filterMap id) select).map fun texts =>
        texts.map Toml.string).getD fallback := by
  have hlayers := findSome?_layers p r d fun settings =>
    (select settings).filter fun value => !value.isEmpty
  have hitems : ∀ (layer : Option ClientAuthorizationDefaults) (value : Option Toml),
      value = (layer.bind select).map textArray →
      ((some (items value)).filter fun value => !value.isEmpty) =
        (layer.bind fun settings => (select settings).filter fun value => !value.isEmpty).map
          fun texts => texts.map Toml.string := by
    intro layer value hread
    rw [hread]
    cases layer with
    | none => rfl
    | some settings =>
      rw [Option.bind_some, Option.bind_some]
      cases select settings with
      | none => rfl
      | some texts => cases texts <;> rfl
  rw [nonEmptyListValue, hlayers, Option.map_or, Option.map_or, ← hitems p _ hown,
    ← hitems r _ hparent, ← hitems d _ hmachine, firstNonEmptyList, find?_map_eq_findSome?, tables,
    findSome?_cons_or, findSome?_cons_or, findSome?_cons_or, List.findSome?_nil, Option.or_none,
    lookup_object, lookup_object, lookup_object]

/-- The first text is empty exactly when no layer has one. -/
theorem isEmpty_getD_find? {values : List String} {found : Option String}
    (h : (values.find? fun value => !value.isEmpty) = found.map jsTrim) :
    ((values.find? fun value => !value.isEmpty).getD "").isEmpty = !found.isSome := by
  cases hvalue : values.find? fun value => !value.isEmpty with
  | none =>
    rw [hvalue] at h
    rw [Option.map_eq_none_iff.mp h.symm]
    rfl
  | some value =>
    rw [hvalue] at h
    obtain ⟨text, rfl, -⟩ := Option.map_eq_some_iff.mp h.symm
    have hfull := List.find?_some hvalue
    simpa using hfull

section Read

include hp hr hd

/-- The console sees bearer tokens as the client does. -/
theorem bearerOn_tables (issuer : String) : bearerOn (tables path route defaults) =
    (resolvedPolicy ([p, r, d].filterMap id) issuer).bearerEnabled := by
  have hbearer : (resolvedPolicy ([p, r, d].filterMap id) issuer).bearerEnabled =
      (([p, r, d].filterMap id).findSome? (·.bearer)).getD true := rfl
  rw [bearerOn, firstDefined_tables hp.bearer hr.bearer hd.bearer, hbearer]
  cases ([p, r, d].filterMap id).findSome? (·.bearer) <;> rfl

variable (hpb : BlanksAgree path) (hrb : BlanksAgree route) (hdb : BlanksAgree defaults)

include hpb hrb hdb

/-- The console sees browser login as the client does. -/
theorem oidcOn_tables :
    oidcOn (tables path route defaults) = browserLogin ([p, r, d].filterMap id) := by
  have hclient := find?_tables hp.oidcClientId hr.oidcClientId hd.oidcClientId hpb.oidcClientId
    hrb.oidcClientId hdb.oidcClientId
  rw [oidcOn, firstDefined_tables hp.oidc hr.oidc hd.oidc, oidcClientId, firstText,
    isEmpty_getD_find? hclient, Bool.not_not, browserLogin]
  cases ([p, r, d].filterMap id).findSome? (·.oidc) <;> rfl

/-- The console checks the client's callback path, trimmed. -/
theorem callbackPath_tables : callbackPath (tables path route defaults) =
    jsTrim ((nonBlankStringValue ([p, r, d].filterMap id) (·.oidcCallbackPath)).getD
      defaultOidcCallbackPath) := by
  rw [callbackPath, firstText, find?_tables hp.oidcCallbackPath hr.oidcCallbackPath
    hd.oidcCallbackPath hpb.oidcCallbackPath hrb.oidcCallbackPath hdb.oidcCallbackPath]
  cases nonBlankStringValue ([p, r, d].filterMap id) (·.oidcCallbackPath) <;> rfl

/-- The console checks the client's logout path, trimmed. -/
theorem logoutPath_tables : logoutPath (tables path route defaults) =
    jsTrim ((nonBlankStringValue ([p, r, d].filterMap id) (·.oidcLogoutPath)).getD
      defaultOidcLogoutPath) := by
  rw [logoutPath, firstText, find?_tables hp.oidcLogoutPath hr.oidcLogoutPath hd.oidcLogoutPath
    hpb.oidcLogoutPath hrb.oidcLogoutPath hdb.oidcLogoutPath]
  cases nonBlankStringValue ([p, r, d].filterMap id) (·.oidcLogoutPath) <;> rfl

/-- An approved policy has the properties that the console checks. -/
theorem checked_of_approved (happroved : Approved (tables path route defaults)) :
    Checked ([p, r, d].filterMap id) := by
  have hbearer : (([p, r, d].filterMap id).findSome? (·.bearer)).getD true =
      bearerOn (tables path route defaults) := (bearerOn_tables hp hr hd "").symm
  have hlogin := oidcOn_tables hp hr hd hpb hrb hdb
  have hclient := isEmpty_getD_find? (find?_tables hp.oidcClientId hr.oidcClientId hd.oidcClientId
    hpb.oidcClientId hrb.oidcClientId hdb.oidcClientId)
  have hcallback := callbackPath_tables hp hr hd hpb hrb hdb
  have hlogout := logoutPath_tables hp hr hd hpb hrb hdb
  refine ⟨?_, ?_, ?_, ?_, ?_, ?_, ?_, ?_⟩
  · rw [hbearer, ← hlogin]
    exact happroved.methods
  · have hissuer := happroved.issuer
    rwa [firstText, isEmpty_getD_find? (find?_tables hp.issuer hr.issuer hd.issuer hpb.issuer
      hrb.issuer hdb.issuer), Bool.not_eq_false'] at hissuer
  · intro hon
    have haudiences := happroved.audiences (hbearer.symm.trans hon)
    rw [firstNonEmptyList_tables hp.audiences hr.audiences hd.audiences] at haudiences
    cases hfound : nonEmptyListValue ([p, r, d].filterMap id) (·.audiences) with
    | none =>
      rw [hfound] at haudiences
      cases haudiences
    | some texts => rfl
  · intro hon
    have hfull := happroved.clientId (hlogin.trans hon)
    rwa [oidcClientId, firstText, hclient, Bool.not_eq_false'] at hfull
  · intro hon
    have hany := happroved.scopes (hlogin.trans hon)
    rw [oidcScopes, firstNonEmptyList_tables hp.oidcScopes hr.oidcScopes hd.oidcScopes] at hany
    cases hfound : nonEmptyListValue ([p, r, d].filterMap id) (·.oidcScopes) with
    | none => rfl
    | some texts =>
      rw [hfound] at hany
      simpa [Toml.asText] using hany
  · intro hon
    have hvalid := happroved.callback (hlogin.trans hon)
    rw [hcallback] at hvalid
    exact containsAny_of_validOidcPath hvalid
  · intro hon
    have hvalid := happroved.logout (hlogin.trans hon)
    rw [hlogout] at hvalid
    exact containsAny_of_validOidcPath hvalid
  · intro hon hsame
    have hdistinct := happroved.distinct (hlogin.trans hon)
    rw [hcallback, hlogout] at hdistinct
    exact hdistinct (congrArg jsTrim hsame)

end Read

end Layers

/-- What a path without messages has. -/
structure CleanPath (routeTls : Bool) (defaultAuthorization routeAuthorization : ConfigTable)
    (path : Toml) : Prop where
  /-- Its trimmed prefix is not empty. -/
  present : (trimmedPathPrefix path).isEmpty = false
  /-- Its trimmed prefix is valid. -/
  valid : validPathPrefix (trimmedPathPrefix path) = true
  /-- Its route terminates TLS. -/
  tls : routeTls = true
  /-- A policy of its own is approved. -/
  policy : (authorizationState (spread defaultAuthorization routeAuthorization)
      (asTable (path.get "authorization"))).enabled = true →
    ((authorizationState (spread defaultAuthorization routeAuthorization)
        (asTable (path.get "authorization"))).mode ≠ .inherit ∨
      hasOverrides (asTable (path.get "authorization")) = true) →
    Approved [asTable (path.get "authorization"), routeAuthorization, defaultAuthorization]

/-- A policy that is checked and has no messages is approved. -/
theorem approved_of_checked {state : AuthorizationState} {own : ConfigTable} {place : String}
    {layers : List ConfigTable}
    (h : (if state.enabled && (state.mode != .inherit || hasOverrides own) then
      ConfigEditor.validateAuthorization place layers else []) = [])
    (henabled : state.enabled = true) (hchecked : state.mode ≠ .inherit ∨ hasOverrides own = true) :
    Approved layers := by
  have hcondition : (state.enabled && (state.mode != .inherit || hasOverrides own)) = true := by
    rw [henabled, Bool.true_and, Bool.or_eq_true, bne_iff_ne]
    exact hchecked
  rw [if_pos hcondition] at h
  exact approved_of_nil h

/-- A path without messages. -/
theorem cleanPath_of_nil {place : String} {routeTls : Bool}
    {defaultAuthorization routeAuthorization : ConfigTable} {path : Toml}
    (h : validatePath place routeTls defaultAuthorization routeAuthorization path = []) :
    CleanPath routeTls defaultAuthorization routeAuthorization path := by
  rw [validatePath] at h
  simp only [List.append_eq_nil_iff, report_eq_nil, Bool.not_eq_false'] at h
  obtain ⟨⟨⟨hpathPrefix, -⟩, htls⟩, hpolicy⟩ := h
  have hpresent : (trimmedPathPrefix path).isEmpty = false := by
    cases hempty : (trimmedPathPrefix path).isEmpty with
    | false => rfl
    | true =>
      rw [hempty, if_pos rfl] at hpathPrefix
      cases hpathPrefix
  rw [hpresent, if_neg (by decide), report_eq_nil, Bool.not_eq_false'] at hpathPrefix
  exact ⟨hpresent, hpathPrefix, htls, approved_of_checked hpolicy⟩

/-- What a route without messages has. -/
structure CleanRoute (defaults : ConfigTable) (defaultTls : Bool) (route : Toml) : Prop where
  /-- Its trimmed client identifier is not empty. -/
  clientId : (jsTrim (text (route.get "client_id"))).isEmpty = false
  /-- It or the defaults have a destination of raw traffic. -/
  backendAddr : (jsTrim (text (route.get "backend_addr"))).isEmpty = false ∨
    (jsTrim (text (defaults.lookup "backend_addr"))).isEmpty = false
  /-- A policy of its own is approved. -/
  policy : (authorizationState (asTable (defaults.lookup "authorization"))
      (asTable (route.get "authorization"))).enabled = true →
    ((authorizationState (asTable (defaults.lookup "authorization"))
        (asTable (route.get "authorization"))).mode ≠ .inherit ∨
      hasOverrides (asTable (route.get "authorization")) = true) →
    Approved [asTable (route.get "authorization"), asTable (defaults.lookup "authorization")]
  /-- A route with a policy terminates TLS. -/
  tls : (authorizationState (asTable (defaults.lookup "authorization"))
    (asTable (route.get "authorization"))).enabled = true → routeTlsOn defaultTls route = true
  /-- Its paths have no messages. -/
  paths : ∀ path ∈ items (route.get "path_routes"), CleanPath (routeTlsOn defaultTls route)
    (asTable (defaults.lookup "authorization")) (asTable (route.get "authorization")) path
  /-- The trimmed prefixes of its paths differ. -/
  distinct : ((items (route.get "path_routes")).map trimmedPathPrefix).Nodup

/-- A route without messages. -/
theorem cleanRoute_of_nil {defaults : ConfigTable} {defaultTls : Bool} {route : Toml} {index : ℕ}
    (h : validateRoute defaults defaultTls route index = []) :
    CleanRoute defaults defaultTls route := by
  rw [validateRoute] at h
  simp only [List.append_eq_nil_iff, report_eq_nil, Bool.and_eq_false_iff, Bool.not_eq_false',
    List.flatMap_eq_nil_iff] at h
  obtain ⟨⟨⟨⟨⟨⟨hclient, -⟩, hbackend⟩, hpolicy⟩, htls⟩, hpaths⟩, hrepeated⟩ := h
  have hclean : ∀ path ∈ items (route.get "path_routes"), CleanPath (routeTlsOn defaultTls route)
      (asTable (defaults.lookup "authorization")) (asTable (route.get "authorization")) path := by
    intro path hm
    obtain ⟨i, hi⟩ := List.getElem?_of_mem hm
    exact cleanPath_of_nil (hpaths (path, i) (List.mk_mem_zipIdx_iff_getElem?.mpr hi))
  refine ⟨hclient, hbackend, approved_of_checked hpolicy, ?_, hclean, ?_⟩
  · exact fun henabled => htls.resolve_left (by simp [henabled])
  · have hnodup := nodup_of_reportRepeated hrepeated
    rw [pathPrefixes, map_fst_indexedKeys] at hnodup
    · exact hnodup
    · intro path hm
      rw [(hclean path hm).present, (hclean path hm).valid]
      rfl

/-- TLS termination is on in the machine defaults. -/
def defaultTlsOn (defaults : ConfigTable) : Bool :=
  !(asTable (defaults.lookup "acme")).isEmpty &&
    !isFalse ((asTable (defaults.lookup "acme")).lookup "enabled")

/-- What a document without messages has. -/
structure CleanDocument (document : Toml) : Prop where
  /-- It has a route. -/
  routes : items (document.get "routes") ≠ []
  /-- Every route or the defaults have a control-message server. -/
  natsUrl : ∀ route ∈ items (document.get "routes"),
    (jsTrim (text (route.get "nats_url"))).isEmpty = false ∨
      (jsTrim (text ((asTable (document.get "defaults")).lookup "nats_url"))).isEmpty = false
  /-- A policy of the defaults is approved. -/
  policy : (authorizationState []
      (asTable ((asTable (document.get "defaults")).lookup "authorization"))).enabled = true →
    Approved [asTable ((asTable (document.get "defaults")).lookup "authorization")]
  /-- Its routes have no messages. -/
  each : ∀ route ∈ items (document.get "routes"), CleanRoute (asTable (document.get "defaults"))
    (defaultTlsOn (asTable (document.get "defaults"))) route
  /-- The trimmed client identifiers differ. -/
  distinct : ((items (document.get "routes")).map fun route =>
    jsTrim (text (route.get "client_id"))).Nodup

/-- A document without messages. -/
theorem cleanDocument_of_nil {document : Toml} (h : validateClientDocument document = []) :
    CleanDocument document := by
  rw [validateClientDocument] at h
  simp only [List.append_eq_nil_iff, report_eq_nil, List.isEmpty_eq_false_iff, List.any_eq_false,
    Bool.and_eq_true, not_and_or, Bool.not_eq_true, List.flatMap_eq_nil_iff] at h
  obtain ⟨⟨⟨⟨⟨hroutes, hnats⟩, -⟩, hpolicy⟩, hclean⟩, hrepeated⟩ := h
  have heach : ∀ route ∈ items (document.get "routes"),
      CleanRoute (asTable (document.get "defaults"))
        (defaultTlsOn (asTable (document.get "defaults"))) route := by
    intro route hm
    obtain ⟨i, hi⟩ := List.getElem?_of_mem hm
    exact cleanRoute_of_nil (hclean (route, i) (List.mk_mem_zipIdx_iff_getElem?.mpr hi))
  refine ⟨hroutes, hnats, ?_, heach, ?_⟩
  · intro henabled
    rw [if_pos henabled] at hpolicy
    exact approved_of_nil hpolicy
  · have hnodup := nodup_of_reportRepeated hrepeated
    rw [clientIds, map_fst_indexedKeys] at hnodup
    · exact hnodup
    · intro route hm
      rw [(heach route hm).clientId]
      rfl

/-- What the console has approved of the three layers of a path, each of them
where it looked. -/
structure CleanLayers (path route defaults : Option Toml) : Prop where
  /-- The policy of the defaults. -/
  machine : (authorizationState [] (asTable defaults)).enabled = true → Approved [asTable defaults]
  /-- The policy of the route. -/
  parent : (authorizationState (asTable defaults) (asTable route)).enabled = true →
    ((authorizationState (asTable defaults) (asTable route)).mode ≠ .inherit ∨
      hasOverrides (asTable route) = true) → Approved [asTable route, asTable defaults]
  /-- The policy of a path with a key. -/
  own : asTable path ≠ [] → (authorizationState (spread (asTable defaults) (asTable route))
      (asTable path)).enabled = true →
    ((authorizationState (spread (asTable defaults) (asTable route)) (asTable path)).mode ≠
      .inherit ∨ hasOverrides (asTable path) = true) → Approved (tables path route defaults)

section Demanded

variable {path route defaults : Option Toml} {p r d : Option ClientAuthorizationDefaults}
  (hp : AuthorizationRead path p) (hr : AuthorizationRead route r)
  (hd : AuthorizationRead defaults d)

include hr hd

/-- A route policy that the layers demand is seen as on. -/
theorem routeState_enabled (hkey : object route ≠ [] ∨ object defaults ≠ [])
    (hon : ((r.bind (·.enabled)).or (d.bind (·.enabled))).getD true = true) :
    (authorizationState (asTable defaults) (asTable route)).enabled = true := by
  have habove : (object defaults).lookup "enabled" = (d.bind (·.enabled)).map .boolean :=
    (lookup_object _ _).trans hd.enabled
  by_cases hroute : object route = []
  · have hnone : r.bind (·.enabled) = none := parent_none hr.enabled hroute
    have hfull : object defaults ≠ [] := hkey.resolve_left (fun h => h hroute)
    have hempty : (object defaults).isEmpty = false := by simpa using hfull
    have hswitch : isFalse ((object defaults).lookup "enabled") = false := by
      rw [habove, isFalse_map]
      rw [hnone, Option.none_or] at hon
      rw [hon]
      rfl
    simp [authorizationState, hroute, hempty, hswitch]
  · exact (authorizationState_on habove ((lookup_object _ _).trans hr.enabled) hroute hon).1

include hp

/-- A policy that the layers demand and that is not only empty tables is
approved. -/
theorem approved_of_demanded (hclean : CleanLayers path route defaults)
    (hdemanded : Demanded ([p, r, d].filterMap id))
    (hkey : object path ≠ [] ∨ object route ≠ [] ∨ object defaults ≠ []) :
    Approved (tables path route defaults) := by
  have hon := hdemanded.2
  rw [findSome?_layers] at hon
  have hown : (object path).lookup "enabled" = (p.bind (·.enabled)).map .boolean :=
    (lookup_object _ _).trans hp.enabled
  have hparent : (object route).lookup "enabled" = (r.bind (·.enabled)).map .boolean :=
    (lookup_object _ _).trans hr.enabled
  have hmachine : (object defaults).lookup "enabled" = (d.bind (·.enabled)).map .boolean :=
    (lookup_object _ _).trans hd.enabled
  by_cases hpath : object path = []
  · rw [parent_none hp.enabled hpath, Option.none_or] at hon
    have hkey := hkey.resolve_left (fun h => h hpath)
    rw [tables, asTable, hpath]
    apply approved_cons_nil
    by_cases hroute : object route = []
    · rw [parent_none hr.enabled hroute, Option.none_or] at hon
      have hkey := hkey.resolve_left (fun h => h hroute)
      rw [asTable, hroute]
      apply approved_cons_nil
      have hnone : ([] : ConfigTable).lookup "enabled" = (none : Option Bool).map .boolean := rfl
      exact hclean.machine (authorizationState_on hnone hmachine hkey (by rwa [Option.or_none])).1
    · obtain ⟨henabled, hchecked⟩ := authorizationState_on hmachine hparent hroute hon
      exact hclean.parent henabled hchecked
  · have habove : (spread (object defaults) (object route)).lookup "enabled" =
        ((r.bind (·.enabled)).or (d.bind (·.enabled))).map .boolean := by
      rw [lookup_spread, hparent, hmachine, Option.map_or]
    obtain ⟨henabled, hchecked⟩ := authorizationState_on habove hown hpath hon
    exact hclean.own hpath henabled hchecked

end Demanded

/-- The console sees the sections of a policy as the client reads them: those below
the machine defaults and that of the defaults, which are a table themselves. -/
structure SeenAlike (machine : Option Toml) (parts : List (Option Toml)) : Prop where
  /-- The machine defaults are not written as an array. -/
  defaults : Written machine
  /-- Nor is any section. -/
  written : ∀ part ∈ entry machine "authorization" :: parts, Written part
  /-- Their texts are blank for both sides or for none. -/
  blanks : ∀ part ∈ entry machine "authorization" :: parts, BlanksAgree part

/-- What the client demands of a policy beyond the messages of the console. -/
structure UncheckedPolicy (machine : Option Toml) (parts : List (Option Toml))
    (layers : List ClientAuthorizationDefaults) : Prop where
  /-- What the console never checks. -/
  unchecked : Unchecked layers
  /-- What it did not check of this policy because it saw another one. -/
  unseen : ¬ SeenAlike machine parts → Checked layers

/-- Policies are accepted exactly when demanded ones have the unchecked properties,
provided that the console checked those that it sees as the client does. -/
theorem policyAccepted_iff_unchecked {machine : Option Toml} {parts : List (Option Toml)}
    {layers : List ClientAuthorizationDefaults}
    (hseen : SeenAlike machine parts → Demanded layers → Unchecked layers → Checked layers) :
    PolicyAccepted layers ↔ (Demanded layers → UncheckedPolicy machine parts layers) := by
  constructor
  · intro haccepted hdemanded
    obtain ⟨issuer, hissuer, hvalid⟩ := haccepted hdemanded
    exact ⟨unchecked_of_valid hissuer hvalid, fun _ => checked_of_valid hissuer hvalid⟩
  · intro hunchecked hdemanded
    obtain ⟨hrest, hunseen⟩ := hunchecked hdemanded
    by_cases halike : SeenAlike machine parts
    · exact valid_of_checked (hseen halike hdemanded hrest) hrest
    · exact valid_of_checked (hunseen halike) hrest

/-- What the client demands of a route and the console leaves unchecked. -/
structure UncheckedRoute (machine : Option Toml) (defaults : ClientConfigDefaults) (value : Toml)
    (route : ClientRouteConfig) : Prop where
  /-- The client identifier is not blank for the client. -/
  clientId : isBlank route.clientId = false
  /-- The hostname is not blank for the client. -/
  hostname : isBlank route.hostname = false
  /-- Every needed exchange setting is set in the route or the defaults. -/
  oauth : ∀ select ∈ oauthSettings, (layered defaults.oauth route.oauth select).isSome = true
  /-- A terminating route has a cache directory that is not blank. -/
  cacheDir : TerminatesTls defaults.acme route.acme →
    isBlank ((layered defaults.acme route.acme (·.cacheDir)).getD defaultAcmeCacheDir) = false
  /-- A route with paths terminates TLS, also where the console cannot see it. -/
  pathTls : ¬ Written (value.get "acme") → route.pathRoutes ≠ [] →
    TerminatesTls defaults.acme route.acme
  /-- A route with a policy terminates TLS, also where the console cannot see one
  of the two. -/
  policyTls : ¬ (Written (value.get "acme") ∧ SeenAlike machine [value.get "authorization"]) →
    Demanded (routeLayers defaults route) → TerminatesTls defaults.acme route.acme
  /-- A demanded policy of the hostname has the unchecked properties. -/
  policy : Demanded (routeLayers defaults route) →
    UncheckedPolicy machine [value.get "authorization"] (routeLayers defaults route)
  /-- The demanded policies of the paths have them. -/
  pathPolicies : List.Forall₂ (fun path pathRoute =>
    Demanded (pathLayers defaults route pathRoute) →
    UncheckedPolicy machine [path.get "authorization", value.get "authorization"]
      (pathLayers defaults route pathRoute)) (items (value.get "path_routes")) route.pathRoutes
  /-- The prefixes of the paths start with a slash and no white space. -/
  prefixes : ∀ pathRoute ∈ route.pathRoutes, startsWith pathRoute.pathPrefix "/" = true

/-- A text that the console does not see as blank was read. -/
theorem isSome_of_text {value : Option Toml} {found : Option String}
    (hread : value = found.map .string) (hfull : (jsTrim (text value)).isEmpty = false) :
    found.isSome = true := by
  cases found with
  | some found => rfl
  | none =>
    rw [hread] at hfull
    cases hfull

/-- What is found in a value that may be missing is found in a table. -/
theorem written_of_entry {value : Option Toml} {key : String} (h : entry value key ≠ none) :
    Written value := by
  rintro found rfl
  cases found with
  | array items => exact absurd rfl h
  | _ => rfl

/-- What is found in a value is found in a table. -/
theorem isArray_of_get {value : Toml} {key : String} (h : value.get key ≠ none) :
    value.isArray = false := @written_of_entry (some value) key h value rfl

/-- A text that the console does not see as blank is there. -/
theorem ne_none_of_text {value : Option Toml} (hfull : (jsTrim (text value)).isEmpty = false) :
    value ≠ none := by
  rintro rfl
  cases hfull

/-- One of two texts that the console sees was read; the second is in the defaults. -/
theorem isSome_or_of_text {value machine : Option Toml} {key : String}
    {found inherited : Option String} (hread : value = found.map .string)
    (hmachine : Written machine → entry machine key = inherited.map .string)
    (hfull : (jsTrim (text value)).isEmpty = false ∨
      (jsTrim (text (entry machine key))).isEmpty = false) :
    (found.or inherited).isSome = true := by
  rw [Option.isSome_or, Bool.or_eq_true]
  refine hfull.imp (isSome_of_text hread) fun hset => ?_
  exact isSome_of_text (hmachine (written_of_entry (ne_none_of_text hset))) hset

/-- A section that is not there has no texts. -/
theorem blanksAgree_none : BlanksAgree none := by
  constructor <;> intro text htext <;> cases htext

/-- A route whose TLS is on for the console terminates TLS in the client, when its
own section is read as the console sees it. -/
theorem terminatesTls_of_routeTlsOn {machine : Option Toml} {value : Toml}
    {defaults : ClientConfigDefaults} {route : ClientRouteConfig}
    (hdefaults : defaulted {} ClientConfigDefaults.fromToml machine = some defaults)
    (hroute : AcmeRead (value.get "acme") route.acme)
    (htls : routeTlsOn (defaultTlsOn (asTable machine)) value = true) :
    TerminatesTls defaults.acme route.acme := by
  have hswitch : (asTable (value.get "acme")).lookup "enabled" =
      (route.acme.bind (·.enabled)).map .boolean := (lookup_object _ _).trans hroute.enabled
  rw [routeTlsOn, enabledMode, hswitch] at htls
  rw [TerminatesTls, layered]
  cases hown : route.acme.bind (·.enabled) with
  | some flag =>
    have hpresent : route.acme.isSome = true := by
      obtain ⟨settings, hsettings, -⟩ := Option.bind_eq_some_iff.mp hown
      rw [hsettings]
      rfl
    rw [hown] at htls
    cases flag with
    | true => exact ⟨.inr hpresent, rfl⟩
    | false => cases htls
  | none =>
    rw [hown] at htls
    have hdefault : defaultTlsOn (asTable machine) = true := htls
    have hsection : (asTable machine).lookup "acme" = entry machine "acme" := lookup_object _ _
    rw [defaultTlsOn, hsection, Bool.and_eq_true, Bool.not_eq_true'] at hdefault
    have hthere : entry machine "acme" ≠ none := by
      intro hnone
      rw [hnone] at hdefault
      cases hdefault.1
    have hwritten : Written (entry machine "acme") := by
      intro found hfound
      rw [hfound] at hdefault
      cases found with
      | array items => cases hdefault.1
      | _ => rfl
    have hread := acmeRead_of_fromToml
      (defaultsFields_of_fromToml hdefaults (written_of_entry hthere)).acme hwritten
    have hmachine : (asTable (entry machine "acme")).lookup "enabled" =
        (defaults.acme.bind (·.enabled)).map .boolean := (lookup_object _ _).trans hread.enabled
    rw [hmachine, isFalse_map, Bool.not_not] at hdefault
    refine ⟨.inl ?_, by rw [Option.none_or]; exact hdefault.2⟩
    rw [hread.present, Option.isSome_iff_ne_none]
    exact hthere

/-- The trimmed prefixes of the paths that were read. -/
theorem map_trimmedPathPrefix {values : List Toml} {paths : List ClientPathRouteConfig}
    (h : List.Forall₂ PathFields values paths) :
    values.map trimmedPathPrefix = (paths.map (·.pathPrefix)).map jsTrim := by
  induction h with
  | nil => rfl
  | cons hfirst hrest ih =>
    rw [List.map_cons, List.map_cons, List.map_cons, ih, trimmedPathPrefix, hfirst.pathPrefix]
    rfl

/-- The trimmed identifiers of the routes that were read. -/
theorem map_trimmedClientId {values : List Toml} {routes : List ClientRouteConfig}
    (h : List.Forall₂ RouteFields values routes) :
    (values.map fun route => jsTrim (text (route.get "client_id"))) =
      (routes.map (·.clientId)).map jsTrim := by
  induction h with
  | nil => rfl
  | cons hfirst hrest ih =>
    rw [List.map_cons, List.map_cons, List.map_cons, ih, hfirst.clientId]
    rfl

section Document

variable {document : Toml} (hclean : CleanDocument document)

include hclean

/-- A route of a document without messages is written as a table. -/
theorem isArray_of_route {route : Toml} (hroute : route ∈ items (document.get "routes")) :
    route.isArray = false :=
  isArray_of_get (ne_none_of_text (hclean.each route hroute).clientId)

/-- A path of a document without messages is written as a table. -/
theorem isArray_of_path {route path : Toml} (hroute : route ∈ items (document.get "routes"))
    (hpath : path ∈ items (route.get "path_routes")) : path.isArray = false :=
  isArray_of_get (ne_none_of_text ((hclean.each route hroute).paths path hpath).present)

/-- The layers of a path of a document without messages. -/
theorem cleanLayers_of_path {route path : Toml} (hroute : route ∈ items (document.get "routes"))
    (hpath : path ∈ items (route.get "path_routes")) :
    CleanLayers (path.get "authorization") (route.get "authorization")
      (entry (document.get "defaults") "authorization") := by
  have hmachine : (asTable (document.get "defaults")).lookup "authorization" =
      entry (document.get "defaults") "authorization" := lookup_object _ _
  have hone := hclean.each route hroute
  have hpolicy := hone.policy
  have hown := (hone.paths path hpath).policy
  have hdefaults := hclean.policy
  rw [hmachine] at hpolicy hown hdefaults
  exact ⟨hdefaults, hpolicy, fun _ => hown⟩

/-- The layers of the hostname itself. -/
theorem cleanLayers_of_route {route : Toml} (hroute : route ∈ items (document.get "routes")) :
    CleanLayers none (route.get "authorization")
      (entry (document.get "defaults") "authorization") := by
  have hmachine : (asTable (document.get "defaults")).lookup "authorization" =
      entry (document.get "defaults") "authorization" := lookup_object _ _
  have hpolicy := (hclean.each route hroute).policy
  have hdefaults := hclean.policy
  rw [hmachine] at hpolicy hdefaults
  exact ⟨hdefaults, hpolicy, fun hkey => absurd rfl hkey⟩

end Document

/-- Where the console sees the layers of a policy as the client does, a demanded
policy with the unchecked properties has those that the console checks. -/
theorem checked_of_seen {machine path route : Option Toml} {parts : List (Option Toml)}
    {defaults : ClientConfigDefaults} {p r : Option ClientAuthorizationDefaults}
    (hdefaults : defaulted {} ClientConfigDefaults.fromToml machine = some defaults)
    (hclean : CleanLayers path route (entry machine "authorization"))
    (halike : SeenAlike machine parts) (hp : AuthorizationRead path p ∧ BlanksAgree path)
    (hr : AuthorizationRead route r ∧ BlanksAgree route)
    (hdemanded : Demanded ([p, r, defaults.authorization].filterMap id))
    (hunchecked : Unchecked ([p, r, defaults.authorization].filterMap id)) :
    Checked ([p, r, defaults.authorization].filterMap id) := by
  have hd := authorizationRead_of_fromToml
    (defaultsFields_of_fromToml hdefaults halike.defaults).authorization
    (halike.written _ List.mem_cons_self)
  have hdb := halike.blanks _ List.mem_cons_self
  have hkey := exists_key hp.1 hr.1 hd hunchecked.issuer
  exact checked_of_approved hp.1 hr.1 hd hp.2 hr.2 hdb
    (approved_of_demanded hp.1 hr.1 hd hclean hdemanded hkey)

/-- A section that the console sees as the client does, as both read it. -/
theorem SeenAlike.read {machine part : Option Toml} {parts : List (Option Toml)}
    (h : SeenAlike machine parts) (hm : part ∈ parts)
    {settings : Option ClientAuthorizationDefaults}
    (hread : optional ClientAuthorizationDefaults.fromToml part = some settings) :
    AuthorizationRead part settings ∧ BlanksAgree part :=
  ⟨authorizationRead_of_fromToml hread (h.written part (List.mem_cons_of_mem _ hm)),
    h.blanks part (List.mem_cons_of_mem _ hm)⟩

/-- Where a property of elements says the same as one of pairs, it holds of all
elements exactly when that holds of all pairs. -/
theorem forall₂_iff_forall {α β : Type} {P Q : α → β → Prop} {R : β → Prop} {xs : List α}
    {ys : List β} (h : List.Forall₂ P xs ys) (hiff : ∀ x ∈ xs, ∀ y, P x y → (R y ↔ Q x y)) :
    (∀ y ∈ ys, R y) ↔ List.Forall₂ Q xs ys := by
  induction h with
  | nil => exact iff_of_true (fun y hy => absurd hy List.not_mem_nil) .nil
  | cons hfirst hrest ih =>
    rw [List.forall_mem_cons, List.forall₂_cons, hiff _ List.mem_cons_self _ hfirst,
      ih fun x hx => hiff x (List.mem_cons_of_mem _ hx)]

/-- The fields of the paths of a table whose items are tables. -/
theorem forall₂_pathFields {value : Toml} {paths : List ClientPathRouteConfig}
    (h : List.Forall₂ (fun item path => ClientPathRouteConfig.fromToml item = some path)
      (items (value.get "path_routes")) paths)
    (htables : ∀ path ∈ items (value.get "path_routes"), path.isArray = false) :
    List.Forall₂ PathFields (items (value.get "path_routes")) paths :=
  forall₂_read h fun item hm _ hread => pathFields_of_fromToml hread (htables item hm)

/-- A prefix whose trimmed text the console accepts is valid where it starts with a
slash as it is written. -/
theorem validPrefix_of_trimmed {path : Toml} {pathRoute : ClientPathRouteConfig}
    (hread : PathFields path pathRoute)
    (hvalid : validPathPrefix (trimmedPathPrefix path) = true)
    (hslash : startsWith pathRoute.pathPrefix "/" = true) :
    ValidPrefix pathRoute.pathPrefix := by
  have htrimmed : trimmedPathPrefix path = jsTrim pathRoute.pathPrefix := by
    rw [trimmedPathPrefix, hread.pathPrefix]
    rfl
  simp only [htrimmed, validPathPrefix, Bool.and_eq_true, Bool.not_eq_true'] at hvalid
  rw [ValidPrefix, hslash, containsAny_of_trimmed hvalid.1.2 hvalid.2]
  rfl

/-- Where the console sees the layers of a hostname as the client does, it shows a
demanded policy as enabled. -/
theorem routeState_of_demanded {machine policy : Option Toml}
    {defaults : ClientConfigDefaults} {route : ClientRouteConfig}
    (hdefaults : defaulted {} ClientConfigDefaults.fromToml machine = some defaults)
    (halike : SeenAlike machine [policy]) (hr : AuthorizationRead policy route.authorization)
    (hdemanded : Demanded (routeLayers defaults route))
    (hissuer : ∃ layer ∈ routeLayers defaults route, layer.issuer.isSome = true) :
    (authorizationState (asTable (entry machine "authorization")) (asTable policy)).enabled =
      true := by
  have hd := authorizationRead_of_fromToml
    (defaultsFields_of_fromToml hdefaults halike.defaults).authorization
    (halike.written _ List.mem_cons_self)
  have hnone : AuthorizationRead none none := authorizationRead_of_fromToml rfl written_none
  have hkey := (exists_key hnone hr hd hissuer).resolve_left (fun h => h rfl)
  have hon := hdemanded.2
  rw [routeLayers, findSome?_filterMap_id, findSome?_cons_or, findSome?_cons_or,
    List.findSome?_nil, Option.or_none] at hon
  exact routeState_enabled hr hd hkey hon

/-- A route of a document without messages is accepted exactly when it has
the unchecked properties. -/
theorem routeAccepted_iff_unchecked {document value : Toml} {defaults : ClientConfigDefaults}
    {route : ClientRouteConfig} (hclean : CleanDocument document)
    (hdefaults : defaulted {} ClientConfigDefaults.fromToml (document.get "defaults") =
      some defaults) (hvalue : value ∈ items (document.get "routes"))
    (hroute : ClientRouteConfig.fromToml value = some route) :
    RouteAccepted defaults route ↔
      UncheckedRoute (document.get "defaults") defaults value route := by
  have hone := hclean.each value hvalue
  have hfields := routeFields_of_fromToml hroute (isArray_of_route hclean hvalue)
  have hread := forall₂_pathFields hfields.pathRoutes
    fun path hpath => isArray_of_path hclean hvalue hpath
  have hnone : AuthorizationRead none none ∧ BlanksAgree none :=
    ⟨authorizationRead_of_fromToml rfl written_none, blanksAgree_none⟩
  have hpolicy : PolicyAccepted (routeLayers defaults route) ↔
      (Demanded (routeLayers defaults route) →
        UncheckedPolicy (document.get "defaults") [value.get "authorization"]
          (routeLayers defaults route)) :=
    policyAccepted_iff_unchecked fun halike hdemanded hrest =>
      checked_of_seen hdefaults (cleanLayers_of_route hclean hvalue) halike hnone
        (halike.read List.mem_cons_self hfields.authorization) hdemanded hrest
  have hpathPolicies := forall₂_iff_forall hread
    (R := fun pathRoute => PolicyAccepted (pathLayers defaults route pathRoute))
    (Q := fun path pathRoute => Demanded (pathLayers defaults route pathRoute) →
      UncheckedPolicy (document.get "defaults") [path.get "authorization",
        value.get "authorization"] (pathLayers defaults route pathRoute))
    fun path hpath pathRoute hpathRoute => policyAccepted_iff_unchecked
      fun halike hdemanded hrest =>
        checked_of_seen hdefaults (cleanLayers_of_path hclean hvalue hpath) halike
          (halike.read List.mem_cons_self hpathRoute.authorization)
          (halike.read (List.mem_cons_of_mem _ List.mem_cons_self) hfields.authorization)
          hdemanded hrest
  constructor
  · intro haccepted
    exact {
      clientId := haccepted.clientId
      hostname := haccepted.hostname
      oauth := haccepted.oauth
      cacheDir := haccepted.cacheDir
      pathTls := fun _ hsome => haccepted.tls (.inl hsome)
      policyTls := fun _ hdemanded => haccepted.tls (.inr hdemanded)
      policy := hpolicy.mp haccepted.policy
      pathPolicies := hpathPolicies.mp haccepted.pathPolicies
      prefixes := fun pathRoute hm =>
        ((Bool.and_eq_true _ _).mp (haccepted.prefixes pathRoute hm)).1 }
  · intro hunchecked
    have hbackend := hone.backendAddr
    have hnats := hclean.natsUrl value hvalue
    rw [lookup_object] at hbackend hnats
    have hmachine := fun hwritten => defaultsFields_of_fromToml hdefaults hwritten
    refine {
      clientId := hunchecked.clientId
      hostname := hunchecked.hostname
      natsUrl := isSome_or_of_text hfields.natsUrl (fun hwritten => (hmachine hwritten).natsUrl)
        hnats
      backendAddr := isSome_or_of_text hfields.backendAddr
        (fun hwritten => (hmachine hwritten).backendAddr) hbackend
      oauth := hunchecked.oauth
      cacheDir := hunchecked.cacheDir
      tls := ?_
      policy := hpolicy.mpr hunchecked.policy
      pathPolicies := hpathPolicies.mpr hunchecked.pathPolicies
      prefixes := ?_
      distinct := ?_ }
    · rintro (hsome | hdemanded)
      · by_cases hacme : Written (value.get "acme")
        · obtain ⟨pathRoute, hm⟩ := List.exists_mem_of_ne_nil _ hsome
          obtain ⟨path, hpath, -⟩ := exists_mem_of_forall₂ hread hm
          exact terminatesTls_of_routeTlsOn hdefaults (acmeRead_of_fromToml hfields.acme hacme)
            (hone.paths path hpath).tls
        · exact hunchecked.pathTls hacme hsome
      · by_cases hseen : Written (value.get "acme") ∧
            SeenAlike (document.get "defaults") [value.get "authorization"]
        · obtain ⟨hacme, halike⟩ := hseen
          have henabled := routeState_of_demanded hdefaults halike
            (halike.read List.mem_cons_self hfields.authorization).1 hdemanded
            (hunchecked.policy hdemanded).unchecked.issuer
          apply terminatesTls_of_routeTlsOn hdefaults (acmeRead_of_fromToml hfields.acme hacme)
          apply hone.tls
          rw [lookup_object]
          exact henabled
        · exact hunchecked.policyTls hseen hdemanded
    · intro pathRoute hm
      obtain ⟨path, hpath, hpathRoute⟩ := exists_mem_of_forall₂ hread hm
      exact validPrefix_of_trimmed hpathRoute (hone.paths path hpath).valid
        (hunchecked.prefixes pathRoute hm)
    · have hdistinct := hone.distinct
      rw [map_trimmedPathPrefix hread] at hdistinct
      exact List.Nodup.of_map jsTrim hdistinct

/-- The client accepts a document and can exchange tickets for every route. -/
def ClientAccepts (document : Toml) : Prop :=
  ∃ configs, parseClientToml document = .ok configs ∧
    ∀ config ∈ configs, config.oauth.isSome = true

/-- The client accepts a document that is no flat file exactly when it accepts the
multi-route file that it reads. -/
theorem clientAccepts_iff {document : Toml}
    (hmulti : (MultiRouteClientConfig.fromToml document).isSome = true ∨
      ClientConfig.fromToml document = none) :
    ClientAccepts document ↔ ∃ file, MultiRouteClientConfig.fromToml document = some file ∧
      ∃ configs, parseClientConfigs (.multiRoute file) = .ok configs ∧
        ∀ config ∈ configs, config.oauth.isSome = true := by
  have hdocument : ClientConfigDocument.fromToml document =
      (MultiRouteClientConfig.fromToml document).map .multiRoute := by
    rw [ClientConfigDocument.fromToml]
    rcases hmulti with hsome | hnone
    · obtain ⟨file, hfile⟩ := Option.isSome_iff_exists.mp hsome
      rw [hfile]
      rfl
    · rw [hnone, Option.map_none, Option.or_none]
  have hparse : ∀ configs, parseClientToml document = .ok configs ↔
      ∃ file, MultiRouteClientConfig.fromToml document = some file ∧
        parseClientConfigs (.multiRoute file) = .ok configs := by
    intro configs
    simp only [parseClientToml, bind_eq_ok, orMissing_eq_ok, hdocument, Option.map_eq_some_iff]
    constructor
    · rintro ⟨_, ⟨file, hfile, rfl⟩, hconfigs⟩
      exact ⟨file, hfile, hconfigs⟩
    · rintro ⟨file, hfile, hconfigs⟩
      exact ⟨_, ⟨file, hfile, rfl⟩, hconfigs⟩
  simp only [ClientAccepts, hparse]
  constructor
  · rintro ⟨configs, ⟨file, hfile, hconfigs⟩, hticket⟩
    exact ⟨file, hfile, configs, hconfigs, hticket⟩
  · rintro ⟨file, hfile, configs, hconfigs, hticket⟩
    exact ⟨configs, ⟨file, hfile, hconfigs⟩, hticket⟩

/-- A multi-route document without console errors is accepted by the client,
with ticket exchange for every route, exactly when it has the types of the
client's settings and every route has the properties that the console leaves
unchecked. -/
theorem console_sound_iff (entries : ConfigTable)
    (hmulti : (MultiRouteClientConfig.fromToml (.table entries)).isSome = true ∨
      ClientConfig.fromToml (.table entries) = none)
    (hclean : validateClientDocument (.table entries) = []) :
    ClientAccepts (.table entries) ↔
      ∃ file, MultiRouteClientConfig.fromToml (.table entries) = some file ∧
        List.Forall₂ (UncheckedRoute (entries.lookup "defaults") file.defaults)
          (items (entries.lookup "routes")) file.routes := by
  have hdocument := cleanDocument_of_nil hclean
  rw [clientAccepts_iff hmulti]
  refine exists_congr fun file => and_congr_right fun hfile => ?_
  have hfields := documentFields_of_fromToml hfile rfl
  have hroutes := forall₂_iff_forall hfields.routes
    fun value hvalue route hroute =>
      routeAccepted_iff_unchecked hdocument hfields.defaults hvalue hroute
  rw [fileAccepted_iff]
  constructor
  · rintro ⟨-, -, haccepted⟩
    exact hroutes.mp haccepted
  · intro hunchecked
    refine ⟨?_, ?_, hroutes.mpr hunchecked⟩
    · intro hempty
      have hlength := hfields.routes.length_eq
      rw [hempty, List.length_nil, List.length_eq_zero_iff] at hlength
      exact hdocument.routes hlength
    · have hdistinct := hdocument.distinct
      have hread : List.Forall₂ RouteFields (items ((Toml.table entries).get "routes"))
          file.routes := forall₂_read hfields.routes fun value hvalue route hroute =>
        routeFields_of_fromToml hroute (isArray_of_route hdocument hvalue)
      rw [map_trimmedClientId hread] at hdistinct
      exact List.Nodup.of_map jsTrim hdistinct

/-- A complete document with ticket exchange, a machine-wide policy and one
path whose prefix is given. -/
def portalDocument (pathPrefix : String) : Toml :=
  .table [
    ("defaults", .table [
      ("nats_url", .string "nats://control.example"),
      ("backend_addr", .string ":8080"),
      ("acme", .table [("enabled", .boolean true)]),
      ("oauth", .table [
        ("token_url", .string "https://login.example/token"),
        ("provider_client_id", .string "lfp-pipe"),
        ("username", .string "docs"),
        ("client_secret_file", .string "~/.secrets/docs"),
        ("control_plane_url", .string "https://control.example")]),
      ("authorization", .table [
        ("issuer", .string "https://login.example"), ("audiences", textArray ["docs"])])]),
    ("routes", .array [.table [
      ("client_id", .string "docs-client"),
      ("hostname", .string "docs.example"),
      ("path_routes", .array [.table [
        ("path_prefix", .string pathPrefix), ("backend_addr", .string ":9090")]])]])]

/-- The console sees the policy of the portal as the client does. -/
theorem portalDocument_seenAlike (pathPrefix : String) {parts : List (Option Toml)}
    (hparts : ∀ part ∈ parts, part = none) :
    SeenAlike ((portalDocument pathPrefix).get "defaults") parts := by
  have hissuer : BlanksAgree (entry ((portalDocument pathPrefix).get "defaults")
      "authorization") := by
    refine ⟨?_, ?_, ?_, ?_⟩
    · intro text htext
      cases htext
      decide
    · intro text htext
      cases htext
    · intro text htext
      cases htext
    · intro text htext
      cases htext
  refine ⟨written_table _, List.forall_mem_cons.mpr ⟨written_table _, ?_⟩,
    List.forall_mem_cons.mpr ⟨hissuer, ?_⟩⟩
  · intro part hpart
    rw [hparts part hpart]
    exact written_none
  · intro part hpart
    rw [hparts part hpart]
    exact blanksAgree_none

/-- The portal document with a plain prefix has no errors and is accepted. -/
theorem console_sound_portal :
    validateClientDocument (portalDocument "/api") = [] ∧
      ClientAccepts (portalDocument "/api") := by
  have hclean : validateClientDocument (portalDocument "/api") = [] := by rfl
  refine ⟨hclean, (console_sound_iff _ (.inr rfl) hclean).mpr ⟨_, rfl, .cons ?_ .nil⟩⟩
  have hunchecked : Unchecked
      [{ issuer := some "https://login.example", audiences := some ["docs"] }] := by
    refine ⟨⟨_, List.mem_singleton.mpr rfl, rfl⟩, ?_, ?_, ?_, ?_, ?_⟩
    · intro hzero
      cases hzero
    · intro limit hlimit
      cases hlimit
    · intro hlogin
      cases hlogin
    · intro hlogin
      cases hlogin
    · intro hlogin
      cases hlogin
  have halike : ∀ parts : List (Option Toml), (∀ part ∈ parts, part = none) →
      SeenAlike ((portalDocument "/api").get "defaults") parts :=
    fun parts hparts => portalDocument_seenAlike "/api" hparts
  have hone : ∀ part ∈ [(none : Option Toml)], part = none := by simp
  have htwo : ∀ part ∈ [(none : Option Toml), none], part = none := by simp
  refine ⟨rfl, rfl, ?_, fun _ => rfl, ?_, ?_, ?_, ?_, ?_⟩
  · simp [oauthSettings, layered]
  · exact fun hacme => absurd written_none hacme
  · exact fun hseen => absurd ⟨written_none, halike _ hone⟩ hseen
  · exact fun _ => ⟨hunchecked, fun hunseen => absurd (halike _ hone) hunseen⟩
  · exact .cons (fun _ => ⟨hunchecked, fun hunseen => absurd (halike _ htwo) hunseen⟩) .nil
  · intro pathRoute hpath
    cases List.mem_singleton.mp hpath
    rfl

/-- The portal document with a blank before the slash has no errors in the
console, and the client rejects it. -/
theorem console_unsound_blank :
    ClientConfig.fromToml (portalDocument " /api") = none ∧
      validateClientDocument (portalDocument " /api") = [] ∧
      ¬ ClientAccepts (portalDocument " /api") := by
  refine ⟨rfl, rfl, ?_⟩
  rintro ⟨configs, hconfigs, -⟩
  cases hconfigs

end LfpPipe.ConsoleSoundness
