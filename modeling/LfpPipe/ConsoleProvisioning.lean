import LfpPipe.ClientIdentity
import LfpPipe.ConfigEditor
import LfpPipe.DocumentEdits
import LfpPipe.ManagedClients
import LfpPipe.ProvisioningRaces
import LfpPipe.StartupValidation
import LfpPipe.StoredConfigurations

/-!
# Browser sign-in that is added in the console

Translated from `provisionIdentity` of `controlplane/web/src/config-editor.tsx`.
The console asks the control plane to register the callback of a route and
writes the answer into the policy of the route, or of one of its paths. The
document is saved for the client, which reads it, resolves the policy through
its layers and validates it: what was written is what the client reads, apart
from what the enclosing policies say about settings that the console leaves
alone. Whether a route with several sign-ins starts is decided by their callback
paths.
-/

namespace LfpPipe.ConsoleProvisioning

open RustText Fallible SharedConfig ConfigExpansion TomlValues ConfigDecoding ConsoleModel
  ConfigEditor TableEdits DocumentEdits ClientIdentity ClientAuthorizer ClientSession
  StartupValidation
open GoText (LowerTable PrintTable asciiTable asciiPrintTable)
open ServicePrincipals (PrincipalMetadata)
open TunnelTickets (Credentials)
open StoredConfigurations (account ownerCredentials)
open ProvisioningRaces (sampleProvisioner sampleAuthentik)
open IdentityProvisioning ManagedClients RouteAuth RemotePrograms AuthentikApi

/-- What a sign-in is added to. -/
inductive Target where
  /-- All paths of a route. -/
  | route (routeIndex : ℕ)
  /-- One path of a route. -/
  | path (routeIndex pathIndex : ℕ)
  deriving DecidableEq, Repr

/-- The index of the route. -/
def Target.routeIndex : Target → ℕ
  | .route routeIndex => routeIndex
  | .path routeIndex _ => routeIndex

/-- The targets that the console offers, with their labels. -/
def identityTargets (document : Toml) : List (Target × String) :=
  (asRoutes (document.get "routes")).zipIdx.flatMap fun route =>
    let hostname := text (route.1.get "hostname")
    if hostname.isEmpty then []
    else (.route route.2, hostname ++ " · all paths") ::
      (asRoutes (route.1.get "path_routes")).zipIdx.map fun path =>
        (.path route.2 path.2, hostname ++ orText (text (path.1.get "path_prefix")) "/")

/-- The route of a target. -/
def targetRoute (document : Toml) (target : Target) : Option Toml :=
  (asRoutes (document.get "routes"))[target.routeIndex]?

/-- The hostname of a target. -/
def targetHostname (document : Toml) (target : Target) : String :=
  text (entry (targetRoute document target) "hostname")

/-- The table of a target in the document. -/
def targetTable (document : Toml) : Target → Option Toml
  | .route routeIndex => (asRoutes (document.get "routes"))[routeIndex]?
  | .path routeIndex pathIndex =>
    (asRoutes (entry (asRoutes (document.get "routes"))[routeIndex]? "path_routes"))[pathIndex]?

/-- What the console asks for; nothing without a hostname. -/
def identityRequest (document : Toml) (target : Target) (provisioningGroup : String) :
    Option ProvisionRequest :=
  if (targetHostname document target).isEmpty then none
  else some ⟨targetHostname document target, "/_lfp/auth/callback", jsTrim provisioningGroup⟩

/-- The settings that the console assigns. -/
def signInSettings (result : ApplicationResult) : ConfigTable :=
  [("enabled", .boolean true),
    ("bearer", .boolean false),
    ("oidc", .boolean true),
    ("issuer", .string result.issuer),
    ("roles_claim", .string "groups"),
    ("required_roles", textArray (if result.group.isEmpty then [] else [result.group])),
    ("role_match", .string "any"),
    ("oidc_client_id", .string result.clientID),
    ("oidc_scopes", textArray result.scopes),
    ("oidc_callback_path", .string result.callbackPath),
    ("oidc_logout_path", .string "/_lfp/auth/logout"),
    ("oidc_session_key_file", .string "~/.secrets/lfp-pipe/oidc-session-key"),
    ("oidc_session_ttl_seconds", .integer 28800)]

/-- The policy table after the edit. -/
def withSignIn (result : ApplicationResult) (policy : ConfigTable) : ConfigTable :=
  remove "oidc_client_secret_file" (assignAll (signInSettings result) policy)

/-- Edit the policy of a route or path. -/
def protectTarget (result : ApplicationResult) : Toml → Toml
  | .table entries =>
    .table (assign "authorization"
      (.table (withSignIn result (asTable (entries.lookup "authorization")))) entries)
  | value => value

/-- Edit the policy of a target in its route. -/
def protectRoute (result : ApplicationResult) : Target → Toml → Toml
  | .route _ => protectTarget result
  | .path _ pathIndex => changeItem "path_routes" pathIndex (protectTarget result)

/-- The document after the edit. -/
def addSignIn (document : Toml) (target : Target) (result : ApplicationResult) : Toml :=
  changeItem "routes" target.routeIndex (protectRoute result target) document

/-- The policy settings that the client reads after the edit. -/
def signedIn (result : ApplicationResult) (own : Option ClientAuthorizationDefaults) :
    ClientAuthorizationDefaults :=
  { own.getD {} with
    enabled := some true
    bearer := some false
    oidc := some true
    issuer := some result.issuer
    rolesClaim := some "groups"
    requiredRoles := some (if result.group.isEmpty then [] else [result.group])
    roleMatch := some .any
    oidcClientId := some result.clientID
    oidcClientSecretFile := none
    oidcScopes := some result.scopes
    oidcCallbackPath := some result.callbackPath
    oidcLogoutPath := some "/_lfp/auth/logout"
    oidcSessionKeyFile := some "~/.secrets/lfp-pipe/oidc-session-key"
    oidcSessionTtlSeconds := some 28800 }

/-- A path with the sign-in. -/
def protectedPathRoute (result : ApplicationResult) (path : ClientPathRouteConfig) :
    ClientPathRouteConfig :=
  { path with authorization := some (signedIn result path.authorization) }

/-- A route with the sign-in on a target. -/
def protectedClientRoute (result : ApplicationResult) (target : Target)
    (route : ClientRouteConfig) : ClientRouteConfig :=
  match target with
  | .route _ => { route with authorization := some (signedIn result route.authorization) }
  | .path _ pathIndex =>
    { route with pathRoutes := route.pathRoutes.modify pathIndex (protectedPathRoute result) }

/-- The file that the client reads after the edit. -/
def protectedFile (file : MultiRouteClientConfig) (target : Target) (result : ApplicationResult) :
    MultiRouteClientConfig :=
  { file with
    routes := file.routes.modify target.routeIndex (protectedClientRoute result target) }

/-- The policy that the client resolves for a target, if the target is there. -/
def resolvedTarget (file : MultiRouteClientConfig) :
    Target → Option (Except AnyError (Option ClientAuthorizationConfig))
  | .route routeIndex => file.routes[routeIndex]?.map fun route =>
    mergeAuthorizationDefaults file.defaults.authorization route.authorization
  | .path routeIndex pathIndex => file.routes[routeIndex]?.bind fun route =>
    route.pathRoutes[pathIndex]?.map fun path =>
      mergeAuthorizationLayers (pathLayers file.defaults route path)

/-- The policies that enclose a target, nearest first. -/
def enclosing (file : MultiRouteClientConfig) : Target → List ClientAuthorizationDefaults
  | .route _ => [file.defaults.authorization].filterMap id
  | .path routeIndex _ =>
    [file.routes[routeIndex]?.bind (·.authorization), file.defaults.authorization].filterMap id

/-- The policy of a target itself. -/
def ownPolicy (file : MultiRouteClientConfig) : Target → Option ClientAuthorizationDefaults
  | .route routeIndex => file.routes[routeIndex]?.bind (·.authorization)
  | .path routeIndex pathIndex =>
    (file.routes[routeIndex]?.bind fun route => route.pathRoutes[pathIndex]?).bind (·.authorization)

/-- What a key of the edited policy holds. -/
theorem lookup_withSignIn (result : ApplicationResult) (policy : ConfigTable) (key : String) :
    (withSignIn result policy).lookup key =
      if key = "oidc_client_secret_file" then none
      else ((signInSettings result).reverse.lookup key).or (policy.lookup key) := by
  rw [withSignIn, lookup_remove, lookup_assignAll]

/-- Texts that were written are read back. -/
theorem optional_textArray (texts : List String) :
    optional Toml.asTexts (some (textArray texts)) = some (some texts) :=
  optional_some (asTexts_eq_some.mpr rfl)

/-- The client reads the edited policy. -/
theorem settings_withSignIn {result : ApplicationResult} {policy : ConfigTable}
    {own : Option ClientAuthorizationDefaults}
    (h : ClientAuthorizationDefaults.fromToml (.table policy) = some (own.getD {})) :
    ClientAuthorizationDefaults.fromToml (.table (withSignIn result policy)) =
      some (signedIn result own) := by
  have hread := settingsRead_of_fromToml h
  apply SettingsRead.fromToml
  constructor
  all_goals rw [lookup_withSignIn]
  · rfl
  · rfl
  · rfl
  · rfl
  · exact hread.audiences
  · exact hread.jwksUri
  · exact hread.jwksCacheFile
  · rfl
  · exact optional_textArray _
  · exact hread.forwardAuthorization
  · rfl
  · exact hread.algorithms
  · exact hread.leewaySeconds
  · exact hread.jwksRefreshSeconds
  · exact hread.jwksMaxStaleSeconds
  · exact hread.headerTimeoutMs
  · exact hread.maxHeaderBytes
  · rfl
  · rfl
  · exact optional_textArray _
  · rfl
  · rfl
  · rfl
  · rfl

/-- A policy that is not written as a date. -/
def Undated (policy : Option Toml) : Prop := ∀ text, policy ≠ some (.datetime text)

/-- A policy that was read is the one of its table; a missing one is empty. -/
theorem settings_of_policy {value : Option Toml} {own : Option ClientAuthorizationDefaults}
    (h : optional ClientAuthorizationDefaults.fromToml value = some own)
    (hwritten : Written value) (hundated : Undated value) :
    ClientAuthorizationDefaults.fromToml (.table (asTable value)) = some (own.getD {}) := by
  cases value with
  | none =>
    cases h
    rfl
  | some value =>
    obtain ⟨settings, hsettings, rfl⟩ := Option.map_eq_some_iff.mp h
    cases value with
    | table entries => exact hsettings
    | array values => cases hwritten _ rfl
    | datetime text => exact (hundated text rfl).elim
    | string value => cases hsettings
    | integer value => cases hsettings
    | float value => cases hsettings
    | boolean value => cases hsettings

/-- The edited policy is read in its table. -/
theorem optional_protected {entries : List (String × Toml)}
    {own : Option ClientAuthorizationDefaults} (result : ApplicationResult)
    (h : optional ClientAuthorizationDefaults.fromToml (entries.lookup "authorization") = some own)
    (hwritten : Written (entries.lookup "authorization"))
    (hundated : Undated (entries.lookup "authorization")) :
    optional ClientAuthorizationDefaults.fromToml
      ((assign "authorization"
        (.table (withSignIn result (asTable (entries.lookup "authorization"))))
        entries).lookup "authorization") = some (some (signedIn result own)) := by
  rw [lookup_assign, if_pos rfl]
  exact optional_some (settings_withSignIn (settings_of_policy h hwritten hundated))

/-- An edited path reads as the path with the sign-in. -/
theorem path_protected {value : Toml} {path : ClientPathRouteConfig} (result : ApplicationResult)
    (h : ClientPathRouteConfig.fromToml value = some path) (htabular : TabularPath value)
    (hundated : Undated (value.get "authorization")) :
    ClientPathRouteConfig.fromToml (protectTarget result value) =
      some (protectedPathRoute result path) := by
  obtain ⟨entries, rfl⟩ := table_of_path h htabular.outer
  have hparts := pathParts_of_fromToml h
  refine hparts.change (fun key hkey => ?_)
    (optional_protected result hparts.authorization htabular.authorization hundated)
  rw [lookup_assign, if_neg hkey]

/-- A route whose policy was edited reads as the route with the sign-in. -/
theorem route_protected {value : Toml} {route : ClientRouteConfig} (result : ApplicationResult)
    (h : ClientRouteConfig.fromToml value = some route) (htabular : TabularRoute value)
    (hundated : Undated (value.get "authorization")) :
    ClientRouteConfig.fromToml (protectTarget result value) =
      some { route with authorization := some (signedIn result route.authorization) } := by
  obtain ⟨entries, rfl⟩ := table_of_route h htabular.outer
  have hparts := routeParts_of_fromToml h
  refine hparts.change (fun key hkey _ => ?_)
    (optional_protected result hparts.authorization htabular.authorization hundated) ?_
  · rw [lookup_assign, if_neg hkey]
  · rw [lookup_assign, if_neg (by decide)]
    exact hparts.pathRoutes

/-- A route with an edited path reads as the route with this path changed. -/
theorem route_changed_path {value : Toml} {route : ClientRouteConfig} {pathIndex : ℕ}
    (result : ApplicationResult) (h : ClientRouteConfig.fromToml value = some route)
    (htabular : TabularRoute value)
    (hundated : ∀ path, (asRoutes (value.get "path_routes"))[pathIndex]? = some path →
      Undated (path.get "authorization")) :
    ClientRouteConfig.fromToml
      (changeItem "path_routes" pathIndex (protectTarget result) value) =
      some { route with
        pathRoutes := route.pathRoutes.modify pathIndex (protectedPathRoute result) } := by
  obtain ⟨entries, rfl⟩ := table_of_route h htabular.outer
  have hparts := routeParts_of_fromToml h
  refine hparts.change (fun key _ hkey => ?_) ?_ ?_
  · rw [lookup_assign, if_neg hkey]
  · rw [lookup_assign, if_neg (by decide)]
    exact hparts.authorization
  · rw [lookup_assign, if_pos rfl]
    exact defaulted_changeItem hparts.pathRoutes fun item path hitem hpath =>
      path_protected result hpath (htabular.paths item (List.mem_of_getElem? hitem))
        (hundated item hitem)

/-- The edited document reads as the file with the sign-in on its target. -/
theorem document_protected {document : Toml} {file : MultiRouteClientConfig} {target : Target}
    (result : ApplicationResult) (h : MultiRouteClientConfig.fromToml document = some file)
    (htabular : Tabular document)
    (hundated : Undated (entry (targetTable document target) "authorization")) :
    MultiRouteClientConfig.fromToml (addSignIn document target result) =
      some (protectedFile file target result) := by
  obtain ⟨entries, rfl⟩ := table_of_document h htabular.outer
  refine document_fromToml_changeItem h fun item route hitem hroute => ?_
  have hroutes : (asRoutes ((Toml.table entries).get "routes"))[target.routeIndex]? = some item :=
    hitem
  have htable := htabular.routes item (List.mem_of_getElem? hitem)
  cases target with
  | route routeIndex =>
    refine route_protected result hroute htable ?_
    rw [targetTable, show routeIndex = (Target.route routeIndex).routeIndex from rfl, hroutes]
      at hundated
    exact hundated
  | path routeIndex pathIndex =>
    refine route_changed_path result hroute htable fun path hpath => ?_
    rw [targetTable, show routeIndex = (Target.path routeIndex pathIndex).routeIndex from rfl,
      hroutes] at hundated
    have hentry : entry (some item) "path_routes" = item.get "path_routes" := rfl
    rw [hentry, hpath] at hundated
    exact hundated

/-- A text with a character that is no white space is not blank. -/
theorem isBlank_of_mem {s : String} {c : Char} (hm : c ∈ s.toList) (hc : isWhitespace c = false) :
    isBlank s = false := by
  have hdrop : ∀ cs : List Char, c ∈ cs → c ∈ cs.dropWhile isWhitespace := by
    intro cs hcs
    rw [← List.takeWhile_append_dropWhile (p := isWhitespace) (l := cs)] at hcs
    rcases List.mem_append.mp hcs with htake | hdrop
    · rw [List.mem_takeWhile_imp htake] at hc
      cases hc
    · exact hdrop
  have htrim : c ∈ (trim s).toList := by
    rw [trim, String.toList_ofList, dropEndWhile, List.mem_reverse]
    exact hdrop _ (List.mem_reverse.mpr (hdrop _ hm))
  cases hblank : isBlank s with
  | false => rfl
  | true =>
    rw [isBlank, String.isEmpty_iff] at hblank
    rw [hblank] at htrim
    cases htrim

section

variable {table : LowerTable} {idna : Idna} {print : PrintTable} {float : JsonValues.FloatReader}
  {p : Provisioner}

/-- What a provisioning request answers. -/
theorem provisionApplication_returns (request : ApplicationRequest) :
    (p.provisionApplication print request).Returns fun answer =>
      ∀ result, answer = .ok result →
        ∃ provider created, result = p.result request provider created := by
  rw [Provisioner.provisionApplication]
  refine Program.returns_bind (Program.returns_true _) fun ensured _ => ?_
  cases ensured with
  | error message =>
    rintro result h
    cases h
  | ok ensured =>
    obtain ⟨provider, created⟩ := ensured
    rw [Provisioner.finish]
    split
    · refine Program.returns_bind (Program.returns_true _) fun groupCreated _ => ?_
      cases groupCreated with
      | error message =>
        rintro result h
        cases h
      | ok groupCreated =>
        rintro result h
        cases h
        exact ⟨provider, _, rfl⟩
    · rintro result h
      cases h
      exact ⟨provider, created, rfl⟩

/-- What the handler answers: the result of an admitted request. -/
theorem provisionIdentityApplication_returns (checked rechecked : ℤ) (credentials : Credentials)
    (id : String) (body : Option ProvisionRequest) :
    (provisionIdentityApplication table idna print float (some p) checked rechecked credentials id
      body).Returns fun answer => ∀ result, answer = .ok result →
        ∃ metadata request provider created,
          admitApplication table idna metadata body = .ok request ∧
            result = p.result request provider created := by
  rw [provisionIdentityApplication]
  refine Program.returns_bind (Program.returns_true _) fun session _ => ?_
  cases session with
  | error error =>
    rintro result h
    cases h
  | ok session =>
    refine Program.returns_bind (Program.returns_true _) fun owned _ => ?_
    cases owned with
    | error message =>
      rintro result h
      cases h
    | ok owned =>
      obtain ⟨user, metadata⟩ := owned
      dsimp only
      cases hadmit : admitApplication table idna metadata body with
      | error error =>
        rintro result h
        cases h
      | ok request =>
        refine Program.returns_bind (provisionApplication_returns request) fun answer hanswer => ?_
        cases answer with
        | error message =>
          rintro result h
          cases h
        | ok found =>
          rintro result h
          cases h
          obtain ⟨provider, created, hresult⟩ := hanswer _ rfl
          exact ⟨metadata, request, provider, created, hadmit, hresult⟩

/-- What the console can rely on in an answer. -/
structure Answered (table : LowerTable) (idna : Idna) (body : ProvisionRequest)
    (result : ApplicationResult) : Prop where
  /-- There is an issuer. -/
  issuer : isBlank result.issuer = false
  /-- The scopes are fixed. -/
  scopes : result.scopes = ["openid", "profile", "email"]
  /-- The path is the one that was asked for. -/
  callbackPath : result.callbackPath = body.callbackPath
  /-- The callback has the hostname in its normal form. -/
  callbackURL : ∃ hostname, normalizeHostname table idna body.hostname = .ok hostname ∧
    result.callbackURL = "https://" ++ hostname ++ body.callbackPath

/-- An admitted request has the hostname in its normal form and its own callback path. -/
theorem admitted {metadata : PrincipalMetadata} {hostname group : String}
    {request : ApplicationRequest}
    (h : admitApplication table idna metadata (some ⟨hostname, "/_lfp/auth/callback", group⟩) =
      .ok request) :
    normalizeHostname table idna hostname = .ok request.hostname ∧
      request.callbackPath = "/_lfp/auth/callback" := by
  have hpath : normalizeIdentityCallbackPath "/_lfp/auth/callback" =
      .ok "/_lfp/auth/callback" := by rfl
  rw [admitApplication] at h
  dsimp only at h
  cases hhostname : normalizeHostname table idna hostname with
  | error message =>
    rw [hhostname] at h
    cases h
  | ok normal =>
    rw [hhostname, hpath] at h
    dsimp only at h
    split at h
    · cases h
    · split at h
      · cases h
      · cases h
        exact ⟨rfl, rfl⟩

/-- An answer of the handler to the request of the console. -/
theorem answered_of_run {State Event : Type}
    {serve : Event → Service State Request Answer} {events : List Event} {start : State}
    {checked rechecked : ℤ} {credentials : Credentials} {id : String} {document : Toml}
    {target : Target} {group : String} {body : ProvisionRequest} {result : ApplicationResult}
    (hbody : identityRequest document target group = some body)
    (hrun : (perform serve events start (provisionIdentityApplication table idna print float
      (some p) checked rechecked credentials id (some body))).2 = .done (.ok result)) :
    Answered table idna body result := by
  obtain ⟨metadata, request, provider, created, hadmit, rfl⟩ :=
    returns_perform serve (provisionIdentityApplication_returns checked rechecked credentials id
      (some body)) hrun result rfl
  rw [identityRequest] at hbody
  split at hbody
  · cases hbody
  · cases hbody
    obtain ⟨hhostname, hpath⟩ := admitted hadmit
    have hslash : '/' ∈ (p.result request provider created).issuer.toList := by
      simp [Provisioner.result]
    refine ⟨isBlank_of_mem hslash (by decide), rfl, hpath, request.hostname, hhostname, ?_⟩
    exact congrArg (fun path => "https://" ++ request.hostname ++ path) hpath

end

/-- What the policy of an added sign-in says. -/
structure SignIn (result : ApplicationResult) (own : Option ClientAuthorizationDefaults)
    (enclosing : List ClientAuthorizationDefaults) (policy : ClientAuthorizationConfig) : Prop where
  /-- Bearer tokens are not accepted. -/
  bearer : policy.bearerEnabled = false
  /-- Browsers are sent to sign in. -/
  oidc : policy.oidcEnabled = true
  /-- The issuer is the one of the answer. -/
  issuer : policy.issuer = result.issuer
  /-- The client is the one of the answer. -/
  oidcClientId : policy.oidcClientId = some result.clientID
  /-- The scopes are those of the answer. -/
  oidcScopes : policy.oidcScopes = result.scopes
  /-- The callback path is the one of the answer. -/
  oidcCallbackPath : policy.oidcCallbackPath = result.callbackPath
  /-- The secret file is the one that the nearest enclosing policy names. -/
  oidcClientSecretFile :
    policy.oidcClientSecretFile = enclosing.findSome? (·.oidcClientSecretFile)
  /-- No secret is loaded exactly when none of them names a file, or the nearest one
  that does names a blank one. -/
  publicClient : ∀ {Key : Type} (env : LoadEnv Key), loadClientSecret env policy = .ok none ↔
    (enclosing.findSome? (·.oidcClientSecretFile)).all isBlank = true
  /-- The address of the keys is left to the policies. -/
  jwksUri : policy.jwksUri = (own.bind (·.jwksUri)).or (enclosing.findSome? (·.jwksUri))
  /-- Only the group of the answer is let in, or everyone without one. -/
  roles : ∀ claims, validateRoles claims policy = .ok () ↔ result.group = "" ∨
    ∃ roles, claimStrings claims "groups" = .ok roles ∧ result.group ∈ roles
  /-- The policy is valid unless a limit that the console leaves alone is not. -/
  valid : ConfigExpansion.validateAuthorization policy = .ok () ↔
    0 < policy.headerTimeoutMs ∧ 8192 ≤ policy.maxHeaderBytes
  /-- Another sign-in with this callback path starts beside it only when it is the
  same. -/
  alone : ∀ other : ClientAuthorizationConfig, other.oidcEnabled = true →
    other.oidcCallbackPath = result.callbackPath → (Compatible policy other ↔ policy = other)

section

variable {table : LowerTable} {idna : Idna} {body : ProvisionRequest} {result : ApplicationResult}

/-- A text of the first layer that is not blank counts. -/
theorem nonBlankStringValue_first {first : ClientAuthorizationDefaults}
    {layers : List ClientAuthorizationDefaults}
    {select : ClientAuthorizationDefaults → Option String} {value : String}
    (hvalue : select first = some value) (hblank : isBlank value = false) :
    nonBlankStringValue (first :: layers) select = some value := by
  have hkept : (select first).filter (fun value => !isBlank value) = some value := by
    rw [hvalue, Option.filter_some, hblank]
    rfl
  rw [nonBlankStringValue, List.findSome?_cons, hkept]

/-- A policy without a secret file that is not blank is that of a public client. -/
theorem loadClientSecret_eq_none_iff {Key : Type} (env : LoadEnv Key)
    (policy : ClientAuthorizationConfig) :
    loadClientSecret env policy = .ok none ↔ policy.oidcClientSecretFile.all isBlank = true := by
  rw [loadClientSecret]
  cases policy.oidcClientSecretFile with
  | none => simp
  | some path =>
    rw [Option.filter_some, Option.all_some]
    cases hblank : isBlank path with
    | true => simp
    | false =>
      simp only [Bool.not_false, if_true, bind_eq_ok, Except.ok.injEq, reduceCtorEq, and_false,
        exists_false, Bool.false_eq_true]

/-- Two sign-ins with one callback path start side by side only when they are the
same. -/
theorem compatible_iff_of_callbackPath {policy other : ClientAuthorizationConfig}
    (hpolicy : policy.oidcEnabled = true) (hother : other.oidcEnabled = true)
    (hpath : policy.oidcCallbackPath = other.oidcCallbackPath) :
    Compatible policy other ↔ policy = other := by
  have hoverlap : endpointsOverlap policy other = true := by
    rw [endpointsOverlap, hpath, beq_self_eq_true, Bool.true_or, Bool.true_or, Bool.true_or]
  rw [Compatible, or_iff_left]
  exact fun h => h ⟨hpolicy, hother, hoverlap⟩

/-- The roles that an added sign-in lets in. -/
theorem validateRoles_signIn {policy : ClientAuthorizationConfig}
    (hclaim : policy.rolesClaim = "groups") (hmatch : policy.roleMatch = .any)
    (hroles : policy.requiredRoles = if result.group.isEmpty then [] else [result.group])
    (claims : Value) :
    validateRoles claims policy = .ok () ↔ result.group = "" ∨
      ∃ roles, claimStrings claims "groups" = .ok roles ∧ result.group ∈ roles := by
  rw [validateRoles_eq_ok, hclaim, hroles]
  by_cases hgroup : result.group = ""
  · simp [hgroup]
  · have hfull : result.group.isEmpty = false := by
      rw [← Bool.not_eq_true, String.isEmpty_iff]
      exact hgroup
    simp [hgroup, hfull, rolesSatisfied, hmatch, hroles]

/-- What the console writes passes the checks on browser sign-in. -/
theorem validateOidc_signIn {policy : ClientAuthorizationConfig} {clientID : String}
    (hclient : policy.oidcClientId = some clientID) (hnamed : isBlank clientID = false)
    (hscopes : policy.oidcScopes = ["openid", "profile", "email"])
    (hcallback : policy.oidcCallbackPath = "/_lfp/auth/callback")
    (hlogout : policy.oidcLogoutPath = "/_lfp/auth/logout")
    (hkey : policy.oidcSessionKeyFile = "~/.secrets/lfp-pipe/oidc-session-key")
    (httl : policy.oidcSessionTtlSeconds = 28800) : validateOidc policy = .ok () := by
  have hopenid : (["openid", "profile", "email"].any fun scope => scope == "openid") = true := by
    decide
  have hcallbackValid : ConfigExpansion.validOidcPath "/_lfp/auth/callback" = true := by decide
  have hlogoutValid : ConfigExpansion.validOidcPath "/_lfp/auth/logout" = true := by decide
  have hdiffer : ("/_lfp/auth/callback" != "/_lfp/auth/logout") = true := by decide
  have hfile : isBlank "~/.secrets/lfp-pipe/oidc-session-key" = false := by decide
  simp only [validateOidc, validateOidcPath, bind_eq_ok, ensure_eq_ok, hclient, hscopes, hcallback,
    hlogout, hkey, httl, Option.getD_some, hnamed, hfile]
  exact ⟨(), rfl, (), hopenid, (), hcallbackValid, (), hlogoutValid, (), hdiffer, (), rfl,
    by decide⟩

/-- The layers of an added sign-in resolve to its policy. -/
theorem merge_signedIn (hanswered : Answered table idna body result)
    (hpath : body.callbackPath = "/_lfp/auth/callback") (hclient : isBlank result.clientID = false)
    (own : Option ClientAuthorizationDefaults) (enclosing : List ClientAuthorizationDefaults) :
    ∃ policy, mergeAuthorizationLayers (signedIn result own :: enclosing) = .ok (some policy) ∧
      SignIn result own enclosing policy := by
  have hissuer : nonBlankStringValue (signedIn result own :: enclosing) (·.issuer) =
      some result.issuer := nonBlankStringValue_first rfl hanswered.issuer
  have hid : nonBlankStringValue (signedIn result own :: enclosing) (·.oidcClientId) =
      some result.clientID := nonBlankStringValue_first rfl hclient
  have hcallback : nonBlankStringValue (signedIn result own :: enclosing) (·.oidcCallbackPath) =
      some result.callbackPath := by
    refine nonBlankStringValue_first rfl ?_
    rw [hanswered.callbackPath, hpath]
    decide
  have hscopes : nonEmptyListValue (signedIn result own :: enclosing) (·.oidcScopes) =
      some result.scopes := by
    rw [nonEmptyListValue, List.findSome?_cons]
    have hkept : ((signedIn result own).oidcScopes).filter (fun value => !value.isEmpty) =
        some result.scopes := by
      rw [show (signedIn result own).oidcScopes = some result.scopes from rfl,
        Option.filter_some, hanswered.scopes]
      rfl
    rw [hkept]
  have hlogout : nonBlankStringValue (signedIn result own :: enclosing) (·.oidcLogoutPath) =
      some "/_lfp/auth/logout" := nonBlankStringValue_first rfl (by decide)
  have hkey : nonBlankStringValue (signedIn result own :: enclosing) (·.oidcSessionKeyFile) =
      some "~/.secrets/lfp-pipe/oidc-session-key" := nonBlankStringValue_first rfl (by decide)
  have hclaim : nonBlankStringValue (signedIn result own :: enclosing) (·.rolesClaim) =
      some "groups" := nonBlankStringValue_first rfl (by decide)
  have hdemanded : Demanded (signedIn result own :: enclosing) := ⟨List.cons_ne_nil _ _, rfl⟩
  refine ⟨resolvedPolicy (signedIn result own :: enclosing) result.issuer,
    mergeAuthorizationLayers_eq_ok_iff.mpr (.inr ⟨result.issuer, hdemanded, hissuer, rfl⟩), ?_⟩
  generalize hpolicy : resolvedPolicy (signedIn result own :: enclosing) result.issuer = policy
  have hbearer : policy.bearerEnabled = false := by
    rw [← hpolicy]
    rfl
  have hoidc : policy.oidcEnabled = true := by
    rw [← hpolicy]
    rfl
  have hpolicyIssuer : policy.issuer = result.issuer := by
    rw [← hpolicy]
    rfl
  have hpolicyClient : policy.oidcClientId = some result.clientID := by
    rw [← hpolicy, resolvedPolicy, hid]
  have hpolicyScopes : policy.oidcScopes = result.scopes := by
    rw [← hpolicy, resolvedPolicy, hscopes]
    rfl
  have hpolicyCallback : policy.oidcCallbackPath = result.callbackPath := by
    rw [← hpolicy, resolvedPolicy, hcallback]
    rfl
  have hpolicyLogout : policy.oidcLogoutPath = "/_lfp/auth/logout" := by
    rw [← hpolicy, resolvedPolicy, hlogout]
    rfl
  have hpolicyKey : policy.oidcSessionKeyFile = "~/.secrets/lfp-pipe/oidc-session-key" := by
    rw [← hpolicy, resolvedPolicy, hkey]
    rfl
  have hpolicyClaim : policy.rolesClaim = "groups" := by
    rw [← hpolicy, resolvedPolicy, hclaim]
    rfl
  have hpolicyTtl : policy.oidcSessionTtlSeconds = 28800 := by
    rw [← hpolicy]
    rfl
  have hbrowser : validateOidc policy = .ok () :=
    validateOidc_signIn hpolicyClient hclient (hpolicyScopes.trans hanswered.scopes)
      (hpolicyCallback.trans (hanswered.callbackPath.trans hpath)) hpolicyLogout hpolicyKey
      hpolicyTtl
  have hpolicySecret :
      policy.oidcClientSecretFile = enclosing.findSome? (·.oidcClientSecretFile) := by
    rw [← hpolicy]
    rfl
  refine ⟨hbearer, hoidc, hpolicyIssuer, hpolicyClient, hpolicyScopes, hpolicyCallback,
    hpolicySecret, ?_, ?_,
    validateRoles_signIn hpolicyClaim (by rw [← hpolicy]; rfl) (by rw [← hpolicy]; rfl), ?_, ?_⟩
  · intro Key env
    rw [loadClientSecret_eq_none_iff, hpolicySecret]
  · rw [← hpolicy]
    cases own with
    | none => rfl
    | some own =>
      change (signedIn result (some own) :: enclosing).findSome? (·.jwksUri) = _
      rw [List.findSome?_cons, show (signedIn result (some own)).jwksUri = own.jwksUri from rfl,
        Option.bind_some]
      cases own.jwksUri <;> rfl
  · simp only [ConfigExpansion.validateAuthorization, bind_eq_ok, ensure_eq_ok, checkWhen_eq_ok,
      decide_eq_true_eq]
    constructor
    · rintro ⟨_, -, _, -, _, -, _, -, _, htimeout, hbytes⟩
      exact ⟨htimeout, hbytes⟩
    · rintro ⟨htimeout, hbytes⟩
      have hmethods : (policy.bearerEnabled || policy.oidcEnabled) = true := by
        rw [hoidc, Bool.or_true]
      have hnamed : (!isBlank policy.issuer) = true := by
        rw [hpolicyIssuer, hanswered.issuer]
        rfl
      have hbearers : policy.bearerEnabled = true → validateBearer policy = .ok () := by
        rw [hbearer]
        exact fun h => absurd h Bool.false_ne_true
      exact ⟨(), hmethods, (), hnamed, (), hbearers, (), fun _ => hbrowser, (), htimeout, hbytes⟩
  · exact fun other hother hpath =>
      compatible_iff_of_callbackPath hoidc hother (hpolicyCallback.trans hpath.symm)

end

/-- A target that is offered is in the document. -/
theorem exists_targetTable {document : Toml} {target : Target}
    (h : target ∈ (identityTargets document).map Prod.fst) :
    ∃ value, targetTable document target = some value := by
  obtain ⟨⟨found, label⟩, hmem, rfl⟩ := List.mem_map.mp h
  obtain ⟨⟨route, routeIndex⟩, hroute, hfound⟩ := List.mem_flatMap.mp hmem
  have hvalue := List.mem_zipIdx_iff_getElem?.mp hroute
  dsimp only at hvalue hfound
  split at hfound
  · cases hfound
  · rcases List.mem_cons.mp hfound with hsame | hpath
    · cases hsame
      exact ⟨route, hvalue⟩
    · obtain ⟨⟨path, pathIndex⟩, hitem, hsame⟩ := List.mem_map.mp hpath
      cases hsame
      refine ⟨path, ?_⟩
      rw [targetTable, hvalue]
      exact List.mem_zipIdx_iff_getElem?.mp hitem

section

variable {document : Toml} {file : MultiRouteClientConfig} {target : Target}
  {result : ApplicationResult}

/-- The route of a target in the document is the one in the file. -/
theorem exists_route (hread : DocumentRead document file) {value : Toml}
    (h : targetTable document target = some value) :
    ∃ item route, targetRoute document target = some item ∧
      file.routes[target.routeIndex]? = some route ∧ RouteRead item route := by
  have hitem : ∃ item, targetRoute document target = some item := by
    cases target with
    | route routeIndex => exact ⟨value, h⟩
    | path routeIndex pathIndex =>
      cases hroute : targetRoute document (.path routeIndex pathIndex) with
      | some item => exact ⟨item, rfl⟩
      | none =>
        rw [targetRoute, Target.routeIndex] at hroute
        rw [targetTable, hroute] at h
        cases h
  obtain ⟨item, hitem⟩ := hitem
  obtain ⟨route, hroute, hrel⟩ := exists_getElem?_of_forall₂ hread.routes.flip hitem
  exact ⟨item, route, hitem, hroute, hrel⟩

/-- A target that is in the document is in the file, where the edit resolves it with
its new policy in front of the enclosing ones. -/
theorem resolvedTarget_protected (hread : DocumentRead document file) {value : Toml}
    (h : targetTable document target = some value) :
    resolvedTarget (protectedFile file target result) target =
      some (mergeAuthorizationLayers
        (signedIn result (ownPolicy file target) :: enclosing file target)) := by
  obtain ⟨item, route, hitem, hroute, hrel⟩ := exists_route hread h
  cases target with
  | route routeIndex =>
    have hindex : file.routes[routeIndex]? = some route := hroute
    rw [resolvedTarget, protectedFile, Target.routeIndex, List.getElem?_modify, hindex, ownPolicy,
      hindex]
    simp only [if_true, Option.map_eq_map, Option.map_some, Option.bind_some]
    rfl
  | path routeIndex pathIndex =>
    have hindex : file.routes[routeIndex]? = some route := hroute
    rw [targetTable] at h
    rw [targetRoute, Target.routeIndex] at hitem
    rw [hitem] at h
    obtain ⟨path, hpath, -⟩ := exists_getElem?_of_forall₂ hrel.pathRoutes.flip h
    rw [resolvedTarget, protectedFile, Target.routeIndex, List.getElem?_modify, hindex, ownPolicy,
      enclosing, hindex]
    simp only [if_true, Option.map_eq_map, Option.map_some, Option.bind_some, protectedClientRoute,
      List.getElem?_modify, hpath]
    rfl

end

/-- The redirect that the client sends for a hostname. -/
def redirect (hostname : String) (config : ClientAuthorizationConfig) : String :=
  "https://" ++ hostname ++ config.oidcCallbackPath

section

variable {table : LowerTable} {idna : Idna} {print : PrintTable} {float : JsonValues.FloatReader}
  {p : Provisioner} {State Event : Type} {serve : Event → Service State Request Answer}
  {events : List Event} {start : State} {checked rechecked : ℤ} {credentials : Credentials}
  {id group : String} {document : Toml} {file : MultiRouteClientConfig} {target : Target}
  {body : ProvisionRequest} {result : ApplicationResult}

/-- A sign-in that the console adds to a target is what the client resolves there. The
edited document reads as the file with the policy of the target changed and nothing
else; the policy resolves through its layers to a sign-in with the answered client,
beside which no other one with its callback path starts; and the callback that the
client sends is the registered one exactly when the hostname is written in its
normal form. -/
theorem added_sign_in_protects (hread : MultiRouteClientConfig.fromToml document = some file)
    (htabular : Tabular document) (htarget : target ∈ (identityTargets document).map Prod.fst)
    (hundated : Undated (entry (targetTable document target) "authorization"))
    (hbody : identityRequest document target group = some body)
    (hrun : (perform serve events start (provisionIdentityApplication table idna print float
      (some p) checked rechecked credentials id (some body))).2 = .done (.ok result))
    (hclient : isBlank result.clientID = false) :
    MultiRouteClientConfig.fromToml (addSignIn document target result) =
        some (protectedFile file target result) ∧
      ∃ policy route,
        resolvedTarget (protectedFile file target result) target = some (.ok (some policy)) ∧
        SignIn result (ownPolicy file target) (enclosing file target) policy ∧
        file.routes[target.routeIndex]? = some route ∧
        (redirect route.hostname policy = result.callbackURL ↔
          normalizeHostname table idna route.hostname = .ok route.hostname) := by
  refine ⟨document_protected result hread htabular hundated, ?_⟩
  have hanswered := answered_of_run hbody hrun
  obtain ⟨value, hvalue⟩ := exists_targetTable htarget
  have hdocument := documentRead_of_fromToml hread htabular
  obtain ⟨item, route, hitem, hroute, hrel⟩ := exists_route hdocument hvalue
  have hasked : body.hostname = route.hostname ∧ body.callbackPath = "/_lfp/auth/callback" := by
    rw [identityRequest] at hbody
    split at hbody
    · cases hbody
    · cases hbody
      refine ⟨?_, rfl⟩
      rw [targetHostname, hitem]
      exact congrArg ConsoleModel.string hrel.hostname
  obtain ⟨hhostname, hpath⟩ := hasked
  obtain ⟨policy, hmerge, hsignIn⟩ :=
    merge_signedIn hanswered hpath hclient (ownPolicy file target) (enclosing file target)
  refine ⟨policy, route, ?_, hsignIn, hroute, ?_⟩
  · rw [resolvedTarget_protected hdocument hvalue, hmerge]
  · obtain ⟨hostname, hnormal, hurl⟩ := hanswered.callbackURL
    rw [redirect, hurl, hsignIn.oidcCallbackPath, hanswered.callbackPath, String.append_left_inj,
      String.append_right_inj]
    rw [hhostname] at hnormal
    constructor
    · rintro rfl
      exact hnormal
    · intro hsame
      rw [hsame] at hnormal
      cases hnormal
      rfl

end

/-- A document with one route and a policy on one of its paths. -/
def sampleDocument : Toml :=
  .table [("routes", .array [.table
    [("client_id", .string "web"),
      ("hostname", .string "app.example.com"),
      ("path_routes", .array [.table
        [("path_prefix", .string "/admin"),
          ("backend_addr", .string "8080"),
          ("authorization", .table
            [("oidc_client_secret_file", .string "~/secret"),
              ("jwks_refresh_seconds", .integer 60)])]])]])]

/-- The sections of the document are tables. -/
theorem tabular_sampleDocument : Tabular sampleDocument := by
  have hnone : ∀ {value : Option Toml}, value = none → Written value := by
    rintro value rfl found h
    cases h
  refine ⟨rfl, hnone rfl, hnone rfl, hnone rfl, hnone rfl, ?_⟩
  intro route hroute
  rw [List.mem_singleton.mp hroute]
  refine ⟨rfl, hnone rfl, hnone rfl, hnone rfl, ?_⟩
  intro path hpath
  rw [List.mem_singleton.mp hpath]
  refine ⟨rfl, ?_⟩
  rintro found h
  cases h
  rfl

/-- The account of a machine below a domain. -/
def sampleMachine : User :=
  account 2 "web" [("lfp_pipe", .object [("managed", .bool true), ("owner_subject", .string "ann"),
    ("entitlement", .string "route:example.com")])]

/-- Authentik with an administrator, a machine of hers and the application for routes. -/
def sampleDirectory : Authentik :=
  { sampleAuthentik with
    users := [{ account 1 "ann" [] with serviceAccount := false, isSuperuser := true },
      sampleMachine] }

/-- A sign-in that is added to a path is what the client resolves there, and its
callback is the registered one. -/
theorem added_sign_in_protects_admin :
    ∃ (file : MultiRouteClientConfig) (result : ApplicationResult)
      (policy : ClientAuthorizationConfig) (route : ClientRouteConfig),
      MultiRouteClientConfig.fromToml (addSignIn sampleDocument (.path 0 0) result) =
        some (protectedFile file (.path 0 0) result) ∧
      resolvedTarget (protectedFile file (.path 0 0) result) (.path 0 0) =
        some (.ok (some policy)) ∧
      redirect route.hostname policy = result.callbackURL := by
  obtain ⟨file, hread⟩ : ∃ file, MultiRouteClientConfig.fromToml sampleDocument = some file :=
    ⟨_, rfl⟩
  obtain ⟨result, hrun, hclient, hurl⟩ : ∃ result,
      (perform (fun outcome => deliver (apply countingAllocator) outcome)
        [.answered, .answered, .answered, .answered] sampleDirectory
        (provisionIdentityApplication asciiTable plainIdna asciiPrintTable JsonValues.exactReader
          (some sampleProvisioner) 1700000000000000000 1700000000000000000 (ownerCredentials "ann")
          "2" (some ⟨"app.example.com", "/_lfp/auth/callback", ""⟩))).2 = .done (.ok result) ∧
        isBlank result.clientID = false ∧
        result.callbackURL = "https://app.example.com/_lfp/auth/callback" :=
    ⟨_, rfl, by decide, by decide⟩
  have hbody : identityRequest sampleDocument (.path 0 0) "" =
      some ⟨"app.example.com", "/_lfp/auth/callback", ""⟩ := by rfl
  have htarget : Target.path 0 0 ∈ (identityTargets sampleDocument).map Prod.fst := by decide
  have hundated : Undated (entry (targetTable sampleDocument (.path 0 0)) "authorization") := by
    rintro text h
    cases h
  obtain ⟨hfile, policy, route, hpolicy, -, hroute, hcallback⟩ :=
    added_sign_in_protects hread tabular_sampleDocument htarget hundated hbody hrun hclient
  refine ⟨file, result, policy, route, hfile, hpolicy, hcallback.mpr ?_⟩
  have hhostname : file.routes[0]?.map (·.hostname) = some "app.example.com" := by
    cases hread
    rfl
  rw [show file.routes[0]? = some route from hroute, Option.map_some] at hhostname
  rw [Option.some.inj hhostname]
  rfl

end LfpPipe.ConsoleProvisioning
