import LfpPipe.ConsoleModel

/-!
# Validation of client documents in the management console

Translated from `validateClientDocument` of
`controlplane/web/src/config-editor.tsx`. The console writes one message for
each field that it rejects; the assignments are listed in program order, so
that a document has no errors exactly when the list is empty. Text is trimmed
with the white space of ECMAScript, which is not that of the client.
-/

namespace LfpPipe.ConfigEditor

open RustText TomlValues ConsoleModel

/-- The white space and line terminators of ECMAScript. -/
def isJsWhitespace (c : Char) : Bool :=
  (9 ≤ c.toNat && c.toNat ≤ 13) || c.toNat == 0x20 || c.toNat == 0xA0 || c.toNat == 0x1680 ||
    (0x2000 ≤ c.toNat && c.toNat ≤ 0x200A) || c.toNat == 0x2028 || c.toNat == 0x2029 ||
    c.toNat == 0x202F || c.toNat == 0x205F || c.toNat == 0x3000 || c.toNat == 0xFEFF

/-- Remove leading and trailing white space. -/
def jsTrim (s : String) : String :=
  String.ofList (dropEndWhile isJsWhitespace (s.toList.dropWhile isJsWhitespace))

/-- A table; everything else counts as an empty one. -/
abbrev asTable (value : Option Toml) : ConfigTable := object value

/-- The items of an array; everything else counts as an empty one. -/
abbrev asRoutes (value : Option Toml) : List Toml := items value

/-- A text; everything else counts as empty. -/
abbrev text (value : Option Toml) : String := string value

/-- A flag; everything else counts as the fallback. -/
def bool (value : Option Toml) (fallback : Bool) : Bool :=
  match value with
  | some (.boolean flag) => flag
  | _ => fallback

/-- How a section relates to the one it inherits from. -/
inductive InheritanceMode where
  | inherit
  | on
  | off
  deriving DecidableEq, Repr

/-- The mode that the switch of a section sets. -/
def enabledMode (settings : ConfigTable) : InheritanceMode :=
  if (settings.lookup "enabled").isNone then .inherit
  else if bool (settings.lookup "enabled") false then .on
  else .off

/-- A section sets something besides its switch. -/
def hasOverrides (settings : ConfigTable) : Bool :=
  settings.any fun setting => setting.1 != "enabled"

/-- What the console concludes about one policy section. -/
structure AuthorizationState where
  /-- The mode of the section. -/
  mode : InheritanceMode
  /-- Whether the inherited policy is on. -/
  inherited : Bool
  /-- Whether the policy is on. -/
  enabled : Bool
  deriving DecidableEq, Repr

/-- Whether a policy section is on, given the settings it inherits. -/
def authorizationState (parent own : ConfigTable) : AuthorizationState :=
  let hasParent := !parent.isEmpty
  let mode :=
    if (own.lookup "enabled").isSome then enabledMode own
    else if hasParent then .inherit
    else if hasOverrides own then .on
    else .inherit
  let inherited := hasParent && !isFalse (parent.lookup "enabled")
  { mode := mode
    inherited := inherited
    enabled := if mode = .inherit then inherited else mode = .on }

/-- The first layer that sets a key. -/
def firstDefined (layers : List ConfigTable) (key : String) : Option Toml :=
  layers.findSome? fun layer => layer.lookup key

/-- The first text of the layers that is not blank, trimmed. -/
def firstText (layers : List ConfigTable) (key fallback : String) : String :=
  ((layers.map fun layer => jsTrim (text (layer.lookup key))).find? fun value =>
    !value.isEmpty).getD fallback

/-- The first array of the layers that has an item. -/
def firstNonEmptyList (layers : List ConfigTable) (key : String) (fallback : List Toml) :
    List Toml :=
  ((layers.map fun layer => items (layer.lookup key)).find? fun value => !value.isEmpty).getD
    fallback

/-- The messages of a document, each for its field. -/
abbrev ConfigValidationErrors := List (String × String)

/-- One message when its condition holds. -/
def report (condition : Bool) (field message : String) : ConfigValidationErrors :=
  if condition then [(field, message)] else []

/-- Bearer tokens are on unless a layer turns them off. -/
def bearerOn (layers : List ConfigTable) : Bool :=
  ((firstDefined layers "bearer").map fun value => truthy (some value)).getD true

/-- The client identifier of browser login. -/
def oidcClientId (layers : List ConfigTable) : String := firstText layers "oidc_client_id" ""

/-- Browser login is what a layer says, or on with a client identifier. -/
def oidcOn (layers : List ConfigTable) : Bool :=
  ((firstDefined layers "oidc").map fun value => truthy (some value)).getD
    !(oidcClientId layers).isEmpty

/-- The scopes of browser login. -/
def oidcScopes (layers : List ConfigTable) : List Toml :=
  firstNonEmptyList layers "oidc_scopes"
    [.string "openid", .string "profile", .string "email", .string "groups"]

/-- The callback path of browser login. -/
def callbackPath (layers : List ConfigTable) : String :=
  firstText layers "oidc_callback_path" "/_lfp/auth/callback"

/-- The logout path of browser login. -/
def logoutPath (layers : List ConfigTable) : String :=
  firstText layers "oidc_logout_path" "/_lfp/auth/logout"

/-- A reserved path without query or fragment. -/
def validOidcPath (value : String) : Bool :=
  startsWith value "/_lfp/auth/" && !containsAny value ['?'] && !containsAny value ['#']

/-- The messages about one policy, from its layers. -/
def validateAuthorization (place : String) (layers : List ConfigTable) : ConfigValidationErrors :=
  let bearer := bearerOn layers
  let oidc := oidcOn layers
  report (!bearer && !oidc) (place ++ ".methods") "Enable bearer tokens, browser OIDC, or both." ++
  report (firstText layers "issuer" "").isEmpty (place ++ ".issuer")
    "Issuer is required when authentication is on." ++
  report (bearer && (firstNonEmptyList layers "audiences" []).isEmpty) (place ++ ".audiences")
    "Add at least one bearer-token audience." ++
  report (oidc && (oidcClientId layers).isEmpty) (place ++ ".oidc_client_id")
    "OIDC client ID is required when browser OIDC is on." ++
  report (oidc && !(oidcScopes layers).any fun scope => scope.asText == some "openid")
    (place ++ ".oidc_scopes") "OIDC scopes must include openid." ++
  report (oidc && !validOidcPath (callbackPath layers)) (place ++ ".oidc_callback_path")
    "Use a reserved /_lfp/auth/ path without a query or fragment." ++
  report (oidc && !validOidcPath (logoutPath layers)) (place ++ ".oidc_logout_path")
    "Use a reserved /_lfp/auth/ path without a query or fragment." ++
  report (oidc && callbackPath layers == logoutPath layers) (place ++ ".oidc_logout_path")
    "Logout and callback paths must be different."

/-- Put an index under its key, behind those that are already there. -/
def addIndex (key : String) (index : ℕ) : List (String × List ℕ) → List (String × List ℕ)
  | [] => [(key, [index])]
  | (found, indexes) :: rest =>
    if found = key then (found, indexes ++ [index]) :: rest
    else (found, indexes) :: addIndex key index rest

/-- The indexes of every key, in the order of first occurrence. -/
def indexGroups (found : List (String × ℕ)) : List (String × List ℕ) :=
  found.foldl (fun groups pair => addIndex pair.1 pair.2 groups) []

/-- One message at every index of a key that occurs more than once. -/
def reportRepeated (found : List (String × ℕ)) (field : ℕ → String) (message : String → String) :
    ConfigValidationErrors :=
  (indexGroups found).flatMap fun group =>
    if 1 < group.2.length then group.2.map fun index => (field index, message group.1) else []

/-- A path that starts with a slash and has no query or fragment. -/
def validPathPrefix (value : String) : Bool :=
  startsWith value "/" && !containsAny value ['?'] && !containsAny value ['#']

/-- The prefix of a path, trimmed. -/
def trimmedPathPrefix (path : Toml) : String := jsTrim (text (path.get "path_prefix"))

/-- The messages about one path. -/
def validatePath (place : String) (routeTls : Bool)
    (defaultAuthorization routeAuthorization : ConfigTable) (path : Toml) :
    ConfigValidationErrors :=
  let value := trimmedPathPrefix path
  let pathAuthorization := asTable (path.get "authorization")
  let pathAuth :=
    authorizationState (spread defaultAuthorization routeAuthorization) pathAuthorization
  (if value.isEmpty then [(place ++ ".path_prefix", "Path is required.")]
    else report (!validPathPrefix value) (place ++ ".path_prefix")
      "Start with / and omit query strings and fragments.") ++
  report (jsTrim (text (path.get "backend_addr"))).isEmpty (place ++ ".backend_addr")
    "Path backend is required." ++
  report (!routeTls) (place ++ ".tls") "TLS must be on so path routing can inspect HTTP." ++
  if pathAuth.enabled && (pathAuth.mode != .inherit || hasOverrides pathAuthorization) then
    validateAuthorization (place ++ ".authorization")
      [pathAuthorization, routeAuthorization, defaultAuthorization]
  else []

/-- The keys of the values that count, with their indexes. -/
def indexedKeys (key : Toml → String) (counted : String → Bool) (values : List Toml) :
    List (String × ℕ) :=
  values.zipIdx.filterMap fun value =>
    if counted (key value.1) then some (key value.1, value.2) else none

/-- The prefixes that are compared for repetition, with their indexes. -/
def pathPrefixes (paths : List Toml) : List (String × ℕ) :=
  indexedKeys trimmedPathPrefix (fun value => !value.isEmpty && validPathPrefix value) paths

/-- TLS termination is on for a route. -/
def routeTlsOn (defaultTls : Bool) (route : Toml) : Bool :=
  match enabledMode (asTable (route.get "acme")) with
  | .inherit => defaultTls
  | .on => true
  | .off => false

/-- The messages about one route, apart from repeated client identifiers. -/
def validateRoute (defaults : ConfigTable) (defaultTls : Bool) (route : Toml) (routeIndex : ℕ) :
    ConfigValidationErrors :=
  let place := "routes." ++ toString routeIndex
  let defaultAuthorization := asTable (defaults.lookup "authorization")
  let routeAuthorization := asTable (route.get "authorization")
  let routeAuth := authorizationState defaultAuthorization routeAuthorization
  let routeTls := routeTlsOn defaultTls route
  let paths := asRoutes (route.get "path_routes")
  report (jsTrim (text (route.get "client_id"))).isEmpty (place ++ ".client_id")
    "Client ID is required." ++
  report (jsTrim (text (route.get "hostname"))).isEmpty (place ++ ".hostname")
    "Public hostname is required." ++
  report ((jsTrim (text (route.get "backend_addr"))).isEmpty &&
      (jsTrim (text (defaults.lookup "backend_addr"))).isEmpty) (place ++ ".backend_addr")
    "Host backend is required when there is no default backend." ++
  (if routeAuth.enabled && (routeAuth.mode != .inherit || hasOverrides routeAuthorization) then
    validateAuthorization (place ++ ".authorization") [routeAuthorization, defaultAuthorization]
    else []) ++
  report (routeAuth.enabled && !routeTls) (place ++ ".tls")
    "TLS must be on so authenticated HTTP can be inspected." ++
  (paths.zipIdx.flatMap fun path =>
    validatePath (place ++ ".path_routes." ++ toString path.2) routeTls defaultAuthorization
      routeAuthorization path.1) ++
  reportRepeated (pathPrefixes paths)
    (fun pathIndex => place ++ ".path_routes." ++ toString pathIndex ++ ".path_prefix")
    (fun value => "Path " ++ value ++ " is duplicated on this route.")

/-- The client identifiers of a document, trimmed, with their indexes. -/
def clientIds (routes : List Toml) : List (String × ℕ) :=
  indexedKeys (fun route => jsTrim (text (route.get "client_id")))
    (fun clientId => !clientId.isEmpty) routes

/-- The settings of a central login, with their labels. -/
def oauthFields : List (String × String) :=
  [("token_url", "Token URL"), ("provider_client_id", "Provider client ID"),
    ("username", "Service username"), ("client_secret_file", "Secret file"),
    ("control_plane_url", "Control plane URL")]

/-- The messages about a document. -/
def validateClientDocument (document : Toml) : ConfigValidationErrors :=
  let defaults := asTable (document.get "defaults")
  let defaultAuthorization := asTable (defaults.lookup "authorization")
  let defaultAuth := authorizationState [] defaultAuthorization
  let acme := asTable (defaults.lookup "acme")
  let defaultTls := !acme.isEmpty && !isFalse (acme.lookup "enabled")
  let routes := asRoutes (document.get "routes")
  let oauth := asTable (defaults.lookup "oauth")
  report routes.isEmpty "routes" "Add at least one public route." ++
  report (routes.any fun route => (jsTrim (text (route.get "nats_url"))).isEmpty &&
      (jsTrim (text (defaults.lookup "nats_url"))).isEmpty) "defaults.nats_url"
    "NATS URL is required for every route." ++
  (if !oauth.isEmpty then oauthFields.flatMap fun field =>
      report (jsTrim (text (oauth.lookup field.1))).isEmpty ("defaults.oauth." ++ field.1)
        (field.2 ++ " is required when identity settings are configured.")
    else []) ++
  (if defaultAuth.enabled then
    validateAuthorization "defaults.authorization" [defaultAuthorization] else []) ++
  (routes.zipIdx.flatMap fun route => validateRoute defaults defaultTls route.1 route.2) ++
  reportRepeated (clientIds routes)
    (fun routeIndex => "routes." ++ toString routeIndex ++ ".client_id")
    (fun clientId => "Client ID " ++ clientId ++ " is used by another route.")

/-- Nothing is reported exactly when the condition fails. -/
@[simp] theorem report_eq_nil {condition : Bool} {field message : String} :
    report condition field message = [] ↔ condition = false := by
  cases condition <;> simp [report]

/-- Trimming removes white space only. -/
theorem mem_jsTrim {c : Char} {s : String} (hc : isJsWhitespace c = false) :
    c ∈ (jsTrim s).toList ↔ c ∈ s.toList := by
  have hdrop : ∀ cs : List Char, c ∈ cs.dropWhile isJsWhitespace ↔ c ∈ cs := by
    intro cs
    constructor
    · exact fun hm => (List.dropWhile_sublist isJsWhitespace).subset hm
    · intro hm
      rw [← List.takeWhile_append_dropWhile (p := isJsWhitespace) (l := cs)] at hm
      rcases List.mem_append.mp hm with htake | hdrop
      · rw [List.mem_takeWhile_imp htake] at hc
        cases hc
      · exact hdrop
  rw [jsTrim, String.toList_ofList, dropEndWhile, List.mem_reverse, hdrop, List.mem_reverse, hdrop]

/-- Trimming keeps whether one of some other characters occurs. -/
theorem containsAny_jsTrim {cs : List Char} (s : String)
    (hcs : ∀ c ∈ cs, isJsWhitespace c = false) : containsAny (jsTrim s) cs = containsAny s cs := by
  rw [Bool.eq_iff_iff, containsAny, containsAny, List.any_eq_true, List.any_eq_true]
  constructor
  · rintro ⟨c, hm, hc⟩
    exact ⟨c, (mem_jsTrim (hcs c (List.contains_iff_mem.mp hc))).mp hm, hc⟩
  · rintro ⟨c, hm, hc⟩
    exact ⟨c, (mem_jsTrim (hcs c (List.contains_iff_mem.mp hc))).mpr hm, hc⟩

/-- The indexes under a key after one more index. -/
theorem lookup_addIndex (key other : String) (index : ℕ) (groups : List (String × List ℕ)) :
    ((addIndex key index groups).lookup other).getD [] =
      (groups.lookup other).getD [] ++ if key = other then [index] else [] := by
  induction groups with
  | nil =>
    by_cases hkey : key = other
    · simp [addIndex, hkey]
    · simp [addIndex, hkey, List.lookup_cons, beq_eq_false_iff_ne.mpr (Ne.symm hkey)]
  | cons group groups ih =>
    obtain ⟨found, indexes⟩ := group
    rw [addIndex]
    by_cases hfound : found = key
    · rw [if_pos hfound, List.lookup_cons, List.lookup_cons]
      by_cases hother : other = found
      · simp [hother, hfound]
      · have hkey : ¬ key = other := fun h => hother (h.symm.trans hfound.symm)
        simp [hkey, beq_eq_false_iff_ne.mpr hother]
    · rw [if_neg hfound, List.lookup_cons, List.lookup_cons]
      by_cases hother : other = found
      · have hkey : ¬ key = other := fun h => hfound (hother.symm.trans h.symm)
        simp [hother, Ne.symm (Ne.intro hfound)]
      · rw [beq_eq_false_iff_ne.mpr hother]
        exact ih

/-- The indexes under a key are those of its occurrences. -/
theorem lookup_indexGroups (found : List (String × ℕ)) (key : String) :
    ((indexGroups found).lookup key).getD [] =
      (found.filter fun pair => pair.1 = key).map Prod.snd := by
  have hfold : ∀ (rest : List (String × ℕ)) (groups : List (String × List ℕ)),
      ((rest.foldl (fun groups pair => addIndex pair.1 pair.2 groups) groups).lookup key).getD [] =
        (groups.lookup key).getD [] ++ (rest.filter fun pair => pair.1 = key).map Prod.snd := by
    intro rest
    induction rest with
    | nil => simp
    | cons pair rest ih =>
      intro groups
      rw [List.foldl_cons, ih, lookup_addIndex, List.append_assoc]
      by_cases hkey : pair.1 = key
      · simp [hkey]
      · simp [hkey]
  exact hfold found []

/-- Nothing is reported only when no key is repeated. -/
theorem nodup_of_reportRepeated {found : List (String × ℕ)} {field : ℕ → String}
    {message : String → String} (h : reportRepeated found field message = []) :
    (found.map Prod.fst).Nodup := by
  rw [List.nodup_iff_count]
  intro key
  have hcount : (found.map Prod.fst).count key =
      (((indexGroups found).lookup key).getD []).length := by
    rw [lookup_indexGroups, List.length_map, List.count, List.countP_map,
      List.countP_eq_length_filter]
    rfl
  rw [hcount]
  cases hlookup : (indexGroups found).lookup key with
  | none => simp
  | some indexes =>
    rw [reportRepeated, List.flatMap_eq_nil_iff] at h
    obtain ⟨before, after, hgroups, -⟩ := List.lookup_eq_some_iff.mp hlookup
    have hgroup := h (key, indexes) (by simp [hgroups])
    by_contra hlong
    rw [Option.getD_some] at hlong
    rw [if_pos (by simpa using hlong), List.map_eq_nil_iff] at hgroup
    have hnil : indexes = [] := hgroup
    rw [hnil] at hlong
    exact hlong (Nat.zero_le 1)

/-- Values that all count are compared by their keys. -/
theorem map_fst_indexedKeys {key : Toml → String} {counted : String → Bool} {values : List Toml}
    (h : ∀ value ∈ values, counted (key value) = true) :
    (indexedKeys key counted values).map Prod.fst = values.map key := by
  have hfrom : ∀ start : ℕ, ((values.zipIdx start).filterMap fun value =>
      if counted (key value.1) then some (key value.1, value.2) else none).map Prod.fst =
        values.map key := by
    induction values with
    | nil => simp
    | cons value values ih =>
      intro start
      rw [List.zipIdx_cons, List.filterMap_cons, if_pos (h value List.mem_cons_self)]
      simp only [List.map_cons]
      rw [ih fun other hm => h other (List.mem_cons_of_mem _ hm)]
  exact hfrom 0

end LfpPipe.ConfigEditor
