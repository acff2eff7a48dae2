import LfpPipe.ConfigDecoding
import LfpPipe.TableEdits

/-!
# Reading an edited document

The client reads a record from the keys of its table. When one key is
assigned, the record that is read differs in the field of this key only, so
an edit of a policy deep in a document is an edit of the file that is read.
-/

namespace LfpPipe.DocumentEdits

open SharedConfig TomlValues ConfigDecoding TableEdits

/-- The fields of policy settings, each read from its key. -/
structure SettingsRead (field : String → Option Toml) (settings : ClientAuthorizationDefaults) :
    Prop where
  /-- The switch. -/
  enabled : optional Toml.asFlag (field "enabled") = some settings.enabled
  /-- Bearer tokens. -/
  bearer : optional Toml.asFlag (field "bearer") = some settings.bearer
  /-- Browser login. -/
  oidc : optional Toml.asFlag (field "oidc") = some settings.oidc
  /-- Issuer. -/
  issuer : optional Toml.asText (field "issuer") = some settings.issuer
  /-- Accepted audiences. -/
  audiences : optional Toml.asTexts (field "audiences") = some settings.audiences
  /-- Address of the keys. -/
  jwksUri : optional Toml.asText (field "jwks_uri") = some settings.jwksUri
  /-- Cache of the keys. -/
  jwksCacheFile : optional Toml.asText (field "jwks_cache_file") = some settings.jwksCacheFile
  /-- Path of the role claim. -/
  rolesClaim : optional Toml.asText (field "roles_claim") = some settings.rolesClaim
  /-- Required roles. -/
  requiredRoles : optional Toml.asTexts (field "required_roles") = some settings.requiredRoles
  /-- Whether tokens are forwarded. -/
  forwardAuthorization :
    optional Toml.asFlag (field "forward_authorization") = some settings.forwardAuthorization
  /-- Whether any or all roles are required. -/
  roleMatch : optional RoleMatch.fromToml (field "role_match") = some settings.roleMatch
  /-- Algorithms. -/
  algorithms : optional Toml.asTexts (field "algorithms") = some settings.algorithms
  /-- Allowance for clocks. -/
  leewaySeconds : optional Toml.asCount (field "leeway_seconds") = some settings.leewaySeconds
  /-- Interval of key refreshes. -/
  jwksRefreshSeconds :
    optional Toml.asCount (field "jwks_refresh_seconds") = some settings.jwksRefreshSeconds
  /-- Greatest age of the keys. -/
  jwksMaxStaleSeconds :
    optional Toml.asCount (field "jwks_max_stale_seconds") = some settings.jwksMaxStaleSeconds
  /-- Time limit of request headers. -/
  headerTimeoutMs :
    optional Toml.asCount (field "header_timeout_ms") = some settings.headerTimeoutMs
  /-- Size limit of request headers. -/
  maxHeaderBytes : optional Toml.asCount (field "max_header_bytes") = some settings.maxHeaderBytes
  /-- Client identifier. -/
  oidcClientId : optional Toml.asText (field "oidc_client_id") = some settings.oidcClientId
  /-- File of the client secret. -/
  oidcClientSecretFile :
    optional Toml.asText (field "oidc_client_secret_file") = some settings.oidcClientSecretFile
  /-- Scopes. -/
  oidcScopes : optional Toml.asTexts (field "oidc_scopes") = some settings.oidcScopes
  /-- Path of the callback. -/
  oidcCallbackPath :
    optional Toml.asText (field "oidc_callback_path") = some settings.oidcCallbackPath
  /-- Path of the logout. -/
  oidcLogoutPath : optional Toml.asText (field "oidc_logout_path") = some settings.oidcLogoutPath
  /-- File of the cookie key. -/
  oidcSessionKeyFile :
    optional Toml.asText (field "oidc_session_key_file") = some settings.oidcSessionKeyFile
  /-- Lifetime of sessions. -/
  oidcSessionTtlSeconds :
    optional Toml.asCount (field "oidc_session_ttl_seconds") = some settings.oidcSessionTtlSeconds

/-- Policy settings that were read have their fields. -/
theorem settingsRead_of_fromToml {entries : List (String × Toml)}
    {settings : ClientAuthorizationDefaults}
    (h : ClientAuthorizationDefaults.fromToml (.table entries) = some settings) :
    SettingsRead (fun key => entries.lookup key) settings := by
  obtain ⟨enabled, henabled, h⟩ := Option.bind_eq_some_iff.mp h
  obtain ⟨bearer, hbearer, h⟩ := Option.bind_eq_some_iff.mp h
  obtain ⟨oidc, hoidc, h⟩ := Option.bind_eq_some_iff.mp h
  obtain ⟨issuer, hissuer, h⟩ := Option.bind_eq_some_iff.mp h
  obtain ⟨audiences, haudiences, h⟩ := Option.bind_eq_some_iff.mp h
  obtain ⟨jwksUri, hjwksUri, h⟩ := Option.bind_eq_some_iff.mp h
  obtain ⟨jwksCacheFile, hjwksCacheFile, h⟩ := Option.bind_eq_some_iff.mp h
  obtain ⟨rolesClaim, hrolesClaim, h⟩ := Option.bind_eq_some_iff.mp h
  obtain ⟨requiredRoles, hrequiredRoles, h⟩ := Option.bind_eq_some_iff.mp h
  obtain ⟨forwardAuthorization, hforward, h⟩ := Option.bind_eq_some_iff.mp h
  obtain ⟨roleMatch, hroleMatch, h⟩ := Option.bind_eq_some_iff.mp h
  obtain ⟨algorithms, halgorithms, h⟩ := Option.bind_eq_some_iff.mp h
  obtain ⟨leewaySeconds, hleeway, h⟩ := Option.bind_eq_some_iff.mp h
  obtain ⟨jwksRefreshSeconds, hrefresh, h⟩ := Option.bind_eq_some_iff.mp h
  obtain ⟨jwksMaxStaleSeconds, hstale, h⟩ := Option.bind_eq_some_iff.mp h
  obtain ⟨headerTimeoutMs, htimeout, h⟩ := Option.bind_eq_some_iff.mp h
  obtain ⟨maxHeaderBytes, hbytes, h⟩ := Option.bind_eq_some_iff.mp h
  obtain ⟨oidcClientId, hclient, h⟩ := Option.bind_eq_some_iff.mp h
  obtain ⟨oidcClientSecretFile, hsecret, h⟩ := Option.bind_eq_some_iff.mp h
  obtain ⟨oidcScopes, hscopes, h⟩ := Option.bind_eq_some_iff.mp h
  obtain ⟨oidcCallbackPath, hcallback, h⟩ := Option.bind_eq_some_iff.mp h
  obtain ⟨oidcLogoutPath, hlogout, h⟩ := Option.bind_eq_some_iff.mp h
  obtain ⟨oidcSessionKeyFile, hkey, h⟩ := Option.bind_eq_some_iff.mp h
  obtain ⟨oidcSessionTtlSeconds, httl, h⟩ := Option.bind_eq_some_iff.mp h
  cases h
  exact ⟨henabled, hbearer, hoidc, hissuer, haudiences, hjwksUri, hjwksCacheFile, hrolesClaim,
    hrequiredRoles, hforward, hroleMatch, halgorithms, hleeway, hrefresh, hstale, htimeout, hbytes,
    hclient, hsecret, hscopes, hcallback, hlogout, hkey, httl⟩

/-- Fields that can be read are policy settings. -/
theorem SettingsRead.fromToml {entries : List (String × Toml)}
    {settings : ClientAuthorizationDefaults}
    (h : SettingsRead (fun key => entries.lookup key) settings) :
    ClientAuthorizationDefaults.fromToml (.table entries) = some settings := by
  refine Option.bind_eq_some_iff.mpr ⟨_, h.enabled, ?_⟩
  refine Option.bind_eq_some_iff.mpr ⟨_, h.bearer, ?_⟩
  refine Option.bind_eq_some_iff.mpr ⟨_, h.oidc, ?_⟩
  refine Option.bind_eq_some_iff.mpr ⟨_, h.issuer, ?_⟩
  refine Option.bind_eq_some_iff.mpr ⟨_, h.audiences, ?_⟩
  refine Option.bind_eq_some_iff.mpr ⟨_, h.jwksUri, ?_⟩
  refine Option.bind_eq_some_iff.mpr ⟨_, h.jwksCacheFile, ?_⟩
  refine Option.bind_eq_some_iff.mpr ⟨_, h.rolesClaim, ?_⟩
  refine Option.bind_eq_some_iff.mpr ⟨_, h.requiredRoles, ?_⟩
  refine Option.bind_eq_some_iff.mpr ⟨_, h.forwardAuthorization, ?_⟩
  refine Option.bind_eq_some_iff.mpr ⟨_, h.roleMatch, ?_⟩
  refine Option.bind_eq_some_iff.mpr ⟨_, h.algorithms, ?_⟩
  refine Option.bind_eq_some_iff.mpr ⟨_, h.leewaySeconds, ?_⟩
  refine Option.bind_eq_some_iff.mpr ⟨_, h.jwksRefreshSeconds, ?_⟩
  refine Option.bind_eq_some_iff.mpr ⟨_, h.jwksMaxStaleSeconds, ?_⟩
  refine Option.bind_eq_some_iff.mpr ⟨_, h.headerTimeoutMs, ?_⟩
  refine Option.bind_eq_some_iff.mpr ⟨_, h.maxHeaderBytes, ?_⟩
  refine Option.bind_eq_some_iff.mpr ⟨_, h.oidcClientId, ?_⟩
  refine Option.bind_eq_some_iff.mpr ⟨_, h.oidcClientSecretFile, ?_⟩
  refine Option.bind_eq_some_iff.mpr ⟨_, h.oidcScopes, ?_⟩
  refine Option.bind_eq_some_iff.mpr ⟨_, h.oidcCallbackPath, ?_⟩
  refine Option.bind_eq_some_iff.mpr ⟨_, h.oidcLogoutPath, ?_⟩
  refine Option.bind_eq_some_iff.mpr ⟨_, h.oidcSessionKeyFile, ?_⟩
  exact Option.bind_eq_some_iff.mpr ⟨_, h.oidcSessionTtlSeconds, rfl⟩

/-- What a path that was read says about its policy, and how another table that
differs in the policy is read. -/
structure PathParts (entries : List (String × Toml)) (path : ClientPathRouteConfig) : Prop where
  /-- Its policy settings. -/
  authorization : optional ClientAuthorizationDefaults.fromToml (entries.lookup "authorization") =
    some path.authorization
  /-- Another policy is the only difference. -/
  change : ∀ {others : List (String × Toml)} {settings : Option ClientAuthorizationDefaults},
    (∀ key, key ≠ "authorization" → others.lookup key = entries.lookup key) →
    optional ClientAuthorizationDefaults.fromToml (others.lookup "authorization") =
      some settings →
    ClientPathRouteConfig.fromToml (.table others) = some { path with authorization := settings }

/-- The parts of a path. -/
theorem pathParts_of_fromToml {entries : List (String × Toml)} {path : ClientPathRouteConfig}
    (h : ClientPathRouteConfig.fromToml (.table entries) = some path) : PathParts entries path := by
  obtain ⟨pathPrefix, hpath, h⟩ := Option.bind_eq_some_iff.mp h
  obtain ⟨backendAddr, hbackend, h⟩ := Option.bind_eq_some_iff.mp h
  obtain ⟨backendHost, hhost, h⟩ := Option.bind_eq_some_iff.mp h
  obtain ⟨stripPathPrefix, hstrip, h⟩ := Option.bind_eq_some_iff.mp h
  obtain ⟨proxyHeaders, hproxy, h⟩ := Option.bind_eq_some_iff.mp h
  obtain ⟨authorization, hauthorization, h⟩ := Option.bind_eq_some_iff.mp h
  cases h
  refine ⟨hauthorization, fun {others settings} hsame hsettings => ?_⟩
  dsimp only at hpath hbackend hhost hstrip hproxy
  rw [← hsame "path_prefix" (by decide)] at hpath
  rw [← hsame "backend_addr" (by decide)] at hbackend
  rw [← hsame "backend_host" (by decide)] at hhost
  rw [← hsame "strip_path_prefix" (by decide)] at hstrip
  rw [← hsame "proxy_headers" (by decide)] at hproxy
  refine Option.bind_eq_some_iff.mpr ⟨_, hpath, ?_⟩
  refine Option.bind_eq_some_iff.mpr ⟨_, hbackend, ?_⟩
  refine Option.bind_eq_some_iff.mpr ⟨_, hhost, ?_⟩
  refine Option.bind_eq_some_iff.mpr ⟨_, hstrip, ?_⟩
  refine Option.bind_eq_some_iff.mpr ⟨_, hproxy, ?_⟩
  exact Option.bind_eq_some_iff.mpr ⟨_, hsettings, rfl⟩

/-- What a route that was read says about its policy and its paths, and how
another table that differs in these is read. -/
structure RouteParts (entries : List (String × Toml)) (route : ClientRouteConfig) : Prop where
  /-- Its policy settings. -/
  authorization : optional ClientAuthorizationDefaults.fromToml (entries.lookup "authorization") =
    some route.authorization
  /-- Its paths. -/
  pathRoutes : defaulted [] (Toml.asList ClientPathRouteConfig.fromToml)
    (entries.lookup "path_routes") = some route.pathRoutes
  /-- Another policy and other paths are the only differences. -/
  change : ∀ {others : List (String × Toml)} {settings : Option ClientAuthorizationDefaults}
    {paths : List ClientPathRouteConfig},
    (∀ key, key ≠ "authorization" → key ≠ "path_routes" →
      others.lookup key = entries.lookup key) →
    optional ClientAuthorizationDefaults.fromToml (others.lookup "authorization") =
      some settings →
    defaulted [] (Toml.asList ClientPathRouteConfig.fromToml) (others.lookup "path_routes") =
      some paths →
    ClientRouteConfig.fromToml (.table others) =
      some { route with authorization := settings, pathRoutes := paths }

/-- The parts of a route. -/
theorem routeParts_of_fromToml {entries : List (String × Toml)} {route : ClientRouteConfig}
    (h : ClientRouteConfig.fromToml (.table entries) = some route) : RouteParts entries route := by
  obtain ⟨clientId, hclient, h⟩ := Option.bind_eq_some_iff.mp h
  obtain ⟨hostname, hhostname, h⟩ := Option.bind_eq_some_iff.mp h
  obtain ⟨pattern, hpattern, h⟩ := Option.bind_eq_some_iff.mp h
  obtain ⟨natsUrl, hnats, h⟩ := Option.bind_eq_some_iff.mp h
  obtain ⟨natsTokenFile, htoken, h⟩ := Option.bind_eq_some_iff.mp h
  obtain ⟨oauth, hoauth, h⟩ := Option.bind_eq_some_iff.mp h
  obtain ⟨acme, hacme, h⟩ := Option.bind_eq_some_iff.mp h
  obtain ⟨authorization, hauthorization, h⟩ := Option.bind_eq_some_iff.mp h
  obtain ⟨tcpPassthrough, htcp, h⟩ := Option.bind_eq_some_iff.mp h
  obtain ⟨relayMode, hrelay, h⟩ := Option.bind_eq_some_iff.mp h
  obtain ⟨requestSubject, hsubject, h⟩ := Option.bind_eq_some_iff.mp h
  obtain ⟨claimAckTimeoutMs, htimeout, h⟩ := Option.bind_eq_some_iff.mp h
  obtain ⟨backendAddr, hbackend, h⟩ := Option.bind_eq_some_iff.mp h
  obtain ⟨backendHost, hhost, h⟩ := Option.bind_eq_some_iff.mp h
  obtain ⟨httpBackendAddr, hhttp, h⟩ := Option.bind_eq_some_iff.mp h
  obtain ⟨proxyHeaders, hproxy, h⟩ := Option.bind_eq_some_iff.mp h
  obtain ⟨pathRoutes, hpaths, h⟩ := Option.bind_eq_some_iff.mp h
  cases h
  refine ⟨hauthorization, hpaths, fun {others settings paths} hsame hsettings hothers => ?_⟩
  dsimp only at hclient hhostname hpattern hnats htoken hoauth hacme htcp hrelay hsubject htimeout
  dsimp only at hbackend hhost hhttp hproxy
  rw [← hsame "client_id" (by decide) (by decide)] at hclient
  rw [← hsame "hostname" (by decide) (by decide)] at hhostname
  rw [← hsame "pattern" (by decide) (by decide)] at hpattern
  rw [← hsame "nats_url" (by decide) (by decide)] at hnats
  rw [← hsame "nats_token_file" (by decide) (by decide)] at htoken
  rw [← hsame "oauth" (by decide) (by decide)] at hoauth
  rw [← hsame "acme" (by decide) (by decide)] at hacme
  rw [← hsame "tcp_passthrough" (by decide) (by decide)] at htcp
  rw [← hsame "relay_mode" (by decide) (by decide)] at hrelay
  rw [← hsame "request_subject" (by decide) (by decide)] at hsubject
  rw [← hsame "claim_ack_timeout_ms" (by decide) (by decide)] at htimeout
  rw [← hsame "backend_addr" (by decide) (by decide)] at hbackend
  rw [← hsame "backend_host" (by decide) (by decide)] at hhost
  rw [← hsame "http_backend_addr" (by decide) (by decide)] at hhttp
  rw [← hsame "proxy_headers" (by decide) (by decide)] at hproxy
  refine Option.bind_eq_some_iff.mpr ⟨_, hclient, ?_⟩
  refine Option.bind_eq_some_iff.mpr ⟨_, hhostname, ?_⟩
  refine Option.bind_eq_some_iff.mpr ⟨_, hpattern, ?_⟩
  refine Option.bind_eq_some_iff.mpr ⟨_, hnats, ?_⟩
  refine Option.bind_eq_some_iff.mpr ⟨_, htoken, ?_⟩
  refine Option.bind_eq_some_iff.mpr ⟨_, hoauth, ?_⟩
  refine Option.bind_eq_some_iff.mpr ⟨_, hacme, ?_⟩
  refine Option.bind_eq_some_iff.mpr ⟨_, hsettings, ?_⟩
  refine Option.bind_eq_some_iff.mpr ⟨_, htcp, ?_⟩
  refine Option.bind_eq_some_iff.mpr ⟨_, hrelay, ?_⟩
  refine Option.bind_eq_some_iff.mpr ⟨_, hsubject, ?_⟩
  refine Option.bind_eq_some_iff.mpr ⟨_, htimeout, ?_⟩
  refine Option.bind_eq_some_iff.mpr ⟨_, hbackend, ?_⟩
  refine Option.bind_eq_some_iff.mpr ⟨_, hhost, ?_⟩
  refine Option.bind_eq_some_iff.mpr ⟨_, hhttp, ?_⟩
  refine Option.bind_eq_some_iff.mpr ⟨_, hproxy, ?_⟩
  exact Option.bind_eq_some_iff.mpr ⟨_, hothers, rfl⟩

/-- A value that is there is read. -/
theorem optional_some {α : Type} {read : Toml → Option α} {value : Toml} {found : α}
    (h : read value = some found) : optional read (some value) = some (some found) := by
  rw [TomlValues.optional, h, Option.map_some]

/-- Change one item of the array under a key. -/
def changeItem (key : String) (index : ℕ) (change : Toml → Toml) : Toml → Toml
  | .table entries =>
    .table (assign key (.array ((items (entries.lookup key)).modify index change)) entries)
  | value => value

/-- Items that are read one by one are read with one change. -/
theorem mapM_modify {α : Type} {read : Toml → Option α} {values : List Toml} {found : List α}
    (h : values.mapM read = some found) {index : ℕ} {change : Toml → Toml} {changed : α → α}
    (hchange : ∀ item element, values[index]? = some item → read item = some element →
      read (change item) = some (changed element)) :
    (values.modify index change).mapM read = some (found.modify index changed) := by
  induction values generalizing index found with
  | nil =>
    cases h
    cases index <;> rfl
  | cons item values ih =>
    rw [List.mapM_cons] at h
    obtain ⟨first, hfirst, h⟩ := Option.bind_eq_some_iff.mp h
    obtain ⟨rest, hrest, h⟩ := Option.bind_eq_some_iff.mp h
    cases h
    cases index with
    | zero =>
      rw [List.modify_zero_cons, List.modify_zero_cons, List.mapM_cons,
        hchange item first rfl hfirst, hrest]
      rfl
    | succ index =>
      rw [List.modify_succ_cons, List.modify_succ_cons, List.mapM_cons, hfirst,
        ih hrest fun other element hother => hchange other element (by simpa using hother)]
      rfl

/-- An array that is read is read with one change. -/
theorem defaulted_changeItem {α : Type} {read : Toml → Option α} {key : String}
    {entries : List (String × Toml)} {found : List α}
    (h : defaulted [] (Toml.asList read) (entries.lookup key) = some found) {index : ℕ}
    {change : Toml → Toml} {changed : α → α}
    (hchange : ∀ item element, (items (entries.lookup key))[index]? = some item →
      read item = some element → read (change item) = some (changed element)) :
    Toml.asList read (.array ((items (entries.lookup key)).modify index change)) =
      some (found.modify index changed) := by
  cases hvalue : entries.lookup key with
  | none =>
    rw [hvalue] at h
    cases h
    cases index <;> rfl
  | some value =>
    rw [hvalue] at h hchange
    cases value with
    | array values => exact mapM_modify h hchange
    | string value => cases h
    | integer value => cases h
    | float value => cases h
    | boolean value => cases h
    | datetime text => cases h
    | table entries => cases h

/-- A document with one route changed reads as the file with this route changed. -/
theorem document_fromToml_changeItem {entries : List (String × Toml)}
    {file : MultiRouteClientConfig}
    (h : MultiRouteClientConfig.fromToml (.table entries) = some file) {index : ℕ}
    {change : Toml → Toml} {changed : ClientRouteConfig → ClientRouteConfig}
    (hchange : ∀ item route, (items (entries.lookup "routes"))[index]? = some item →
      ClientRouteConfig.fromToml item = some route →
      ClientRouteConfig.fromToml (change item) = some (changed route)) :
    MultiRouteClientConfig.fromToml (changeItem "routes" index change (.table entries)) =
      some { file with routes := file.routes.modify index changed } := by
  obtain ⟨defaults, hdefaults, h⟩ := Option.bind_eq_some_iff.mp h
  obtain ⟨routes, hroutes, h⟩ := Option.bind_eq_some_iff.mp h
  cases h
  dsimp only at hdefaults hroutes
  obtain ⟨value, hvalue, hread⟩ := Option.bind_eq_some_iff.mp hroutes
  have hfound : defaulted [] (Toml.asList ClientRouteConfig.fromToml)
      (entries.lookup "routes") = some routes := by
    rw [hvalue]
    exact hread
  have hedited := defaulted_changeItem hfound hchange
  refine Option.bind_eq_some_iff.mpr ⟨defaults, ?_, ?_⟩
  · dsimp only
    rw [lookup_assign, if_neg (by decide)]
    exact hdefaults
  · refine Option.bind_eq_some_iff.mpr ⟨_, ?_, rfl⟩
    dsimp only
    rw [lookup_assign, if_pos rfl]
    exact hedited

/-- A record with a key that must be there is a table, unless it is an array. -/
theorem table_of_required {α β : Type} {names : List String} {value : Toml} {key : String}
    {read : Toml → Option α} {rest : (String → Option Toml) → α → Option β} {found : β}
    (h : (do
      let field ← value.fields names
      let first ← required read (field key)
      rest field first) = some found) (hwritten : value.isArray = false) :
    ∃ entries, value = .table entries := by
  obtain ⟨field, hfield, h⟩ := Option.bind_eq_some_iff.mp h
  obtain ⟨first, hfirst, -⟩ := Option.bind_eq_some_iff.mp h
  cases value with
  | table entries => exact ⟨entries, rfl⟩
  | array values => cases hwritten
  | string value => cases hfield
  | integer value => cases hfield
  | float value => cases hfield
  | boolean value => cases hfield
  | datetime text =>
    cases hfield
    cases hfirst

/-- A route that is read is a table, unless it is an array. -/
theorem table_of_route {value : Toml} {route : ClientRouteConfig}
    (h : ClientRouteConfig.fromToml value = some route) (hwritten : value.isArray = false) :
    ∃ entries, value = .table entries := table_of_required h hwritten

/-- A path that is read is a table, unless it is an array. -/
theorem table_of_path {value : Toml} {path : ClientPathRouteConfig}
    (h : ClientPathRouteConfig.fromToml value = some path) (hwritten : value.isArray = false) :
    ∃ entries, value = .table entries := table_of_required h hwritten

/-- A document that is read is a table, unless it is an array. -/
theorem table_of_document {value : Toml} {file : MultiRouteClientConfig}
    (h : MultiRouteClientConfig.fromToml value = some file) (hwritten : value.isArray = false) :
    ∃ entries, value = .table entries := by
  cases value with
  | table entries => exact ⟨entries, rfl⟩
  | array values => cases hwritten
  | string value => cases h
  | integer value => cases h
  | float value => cases h
  | boolean value => cases h
  | datetime text => cases h

end LfpPipe.DocumentEdits
