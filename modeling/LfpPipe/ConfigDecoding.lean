import LfpPipe.ConfigExpansion
import LfpPipe.TomlValues

/-!
# Client documents as parsed TOML

The derived deserializers of the types of `shared/src/config.rs`: for each
record its keys in declaration order, with the type, requirement or default
of each of them. A document is tried as a multi-route file first and as a
flat file second, and then resolved and validated.
-/

namespace LfpPipe.ConfigDecoding

open Fallible SharedConfig ConfigExpansion TomlValues

/-- The name of a copy implementation. A document of two shapes is buffered before
it is decoded, and the buffer gives a variant by its name only. -/
def RelayMode.fromToml : Toml → Option RelayMode
  | .string "auto" => some .auto
  | .string "buffered" => some .buffered
  | .string "splice" => some .splice
  | _ => none

/-- The name of a matching mode. -/
def RoleMatch.fromToml : Toml → Option RoleMatch
  | .string "any" => some .any
  | .string "all" => some .all
  | _ => none

/-- Keys of inheritable policy settings and of a policy, without the switch. -/
def policyKeys : List String :=
  ["bearer", "oidc", "issuer", "audiences", "jwks_uri", "jwks_cache_file", "roles_claim",
    "required_roles", "forward_authorization", "role_match", "algorithms", "leeway_seconds",
    "jwks_refresh_seconds", "jwks_max_stale_seconds", "header_timeout_ms", "max_header_bytes",
    "oidc_client_id", "oidc_client_secret_file", "oidc_scopes", "oidc_callback_path",
    "oidc_logout_path", "oidc_session_key_file", "oidc_session_ttl_seconds"]

/-- Inheritable policy settings. -/
def ClientAuthorizationDefaults.fromToml (value : Toml) : Option ClientAuthorizationDefaults := do
  let field ← value.fields ("enabled" :: policyKeys)
  let enabled ← optional Toml.asFlag (field "enabled")
  let bearer ← optional Toml.asFlag (field "bearer")
  let oidc ← optional Toml.asFlag (field "oidc")
  let issuer ← optional Toml.asText (field "issuer")
  let audiences ← optional Toml.asTexts (field "audiences")
  let jwksUri ← optional Toml.asText (field "jwks_uri")
  let jwksCacheFile ← optional Toml.asText (field "jwks_cache_file")
  let rolesClaim ← optional Toml.asText (field "roles_claim")
  let requiredRoles ← optional Toml.asTexts (field "required_roles")
  let forwardAuthorization ← optional Toml.asFlag (field "forward_authorization")
  let roleMatch ← optional RoleMatch.fromToml (field "role_match")
  let algorithms ← optional Toml.asTexts (field "algorithms")
  let leewaySeconds ← optional Toml.asCount (field "leeway_seconds")
  let jwksRefreshSeconds ← optional Toml.asCount (field "jwks_refresh_seconds")
  let jwksMaxStaleSeconds ← optional Toml.asCount (field "jwks_max_stale_seconds")
  let headerTimeoutMs ← optional Toml.asCount (field "header_timeout_ms")
  let maxHeaderBytes ← optional Toml.asCount (field "max_header_bytes")
  let oidcClientId ← optional Toml.asText (field "oidc_client_id")
  let oidcClientSecretFile ← optional Toml.asText (field "oidc_client_secret_file")
  let oidcScopes ← optional Toml.asTexts (field "oidc_scopes")
  let oidcCallbackPath ← optional Toml.asText (field "oidc_callback_path")
  let oidcLogoutPath ← optional Toml.asText (field "oidc_logout_path")
  let oidcSessionKeyFile ← optional Toml.asText (field "oidc_session_key_file")
  let oidcSessionTtlSeconds ← optional Toml.asCount (field "oidc_session_ttl_seconds")
  some ⟨enabled, bearer, oidc, issuer, audiences, jwksUri, jwksCacheFile, rolesClaim,
    requiredRoles, forwardAuthorization, roleMatch, algorithms, leewaySeconds,
    jwksRefreshSeconds, jwksMaxStaleSeconds, headerTimeoutMs, maxHeaderBytes, oidcClientId,
    oidcClientSecretFile, oidcScopes, oidcCallbackPath, oidcLogoutPath, oidcSessionKeyFile,
    oidcSessionTtlSeconds⟩

/-- Inheritable exchange settings. -/
def ClientOAuthDefaults.fromToml (value : Toml) : Option ClientOAuthDefaults := do
  let field ← value.fields ["token_url", "provider_client_id", "username", "client_secret_file",
    "control_plane_url", "scopes", "renew_before_seconds"]
  let tokenUrl ← optional Toml.asText (field "token_url")
  let providerClientId ← optional Toml.asText (field "provider_client_id")
  let username ← optional Toml.asText (field "username")
  let clientSecretFile ← optional Toml.asText (field "client_secret_file")
  let controlPlaneUrl ← optional Toml.asText (field "control_plane_url")
  let scopes ← optional Toml.asTexts (field "scopes")
  let renewBeforeSeconds ← optional Toml.asCount (field "renew_before_seconds")
  some ⟨tokenUrl, providerClientId, username, clientSecretFile, controlPlaneUrl, scopes,
    renewBeforeSeconds⟩

/-- Inheritable certificate settings. -/
def ClientAcmeDefaults.fromToml (value : Toml) : Option ClientAcmeDefaults := do
  let field ← value.fields ["enabled", "contacts", "cache_dir", "production", "directory_url"]
  let enabled ← optional Toml.asFlag (field "enabled")
  let contacts ← optional Toml.asTexts (field "contacts")
  let cacheDir ← optional Toml.asText (field "cache_dir")
  let production ← optional Toml.asFlag (field "production")
  let directoryUrl ← optional Toml.asText (field "directory_url")
  some ⟨enabled, contacts, cacheDir, production, directoryUrl⟩

/-- Keys of inherited values, in the order of both records that have them. -/
def inheritedKeys : List String :=
  ["nats_url", "nats_token_file", "oauth", "acme", "authorization", "tcp_passthrough",
    "relay_mode", "request_subject", "claim_ack_timeout_ms", "backend_addr", "backend_host",
    "http_backend_addr", "proxy_headers"]

/-- Values inherited by every route. -/
def ClientConfigDefaults.fromToml (value : Toml) : Option ClientConfigDefaults := do
  let field ← value.fields inheritedKeys
  let natsUrl ← optional Toml.asText (field "nats_url")
  let natsTokenFile ← optional Toml.asText (field "nats_token_file")
  let oauth ← optional ClientOAuthDefaults.fromToml (field "oauth")
  let acme ← optional ClientAcmeDefaults.fromToml (field "acme")
  let authorization ← optional ClientAuthorizationDefaults.fromToml (field "authorization")
  let tcpPassthrough ← optional Toml.asFlag (field "tcp_passthrough")
  let relayMode ← optional RelayMode.fromToml (field "relay_mode")
  let requestSubject ← optional Toml.asText (field "request_subject")
  let claimAckTimeoutMs ← optional Toml.asCount (field "claim_ack_timeout_ms")
  let backendAddr ← optional Toml.asText (field "backend_addr")
  let backendHost ← optional Toml.asText (field "backend_host")
  let httpBackendAddr ← optional Toml.asText (field "http_backend_addr")
  let proxyHeaders ← optional Toml.asFlag (field "proxy_headers")
  some ⟨natsUrl, natsTokenFile, oauth, acme, authorization, tcpPassthrough, relayMode,
    requestSubject, claimAckTimeoutMs, backendAddr, backendHost, httpBackendAddr, proxyHeaders⟩

/-- One path-specific backend. -/
def ClientPathRouteConfig.fromToml (value : Toml) : Option ClientPathRouteConfig := do
  let field ← value.fields ["path_prefix", "backend_addr", "backend_host", "strip_path_prefix",
    "proxy_headers", "authorization"]
  let pathPrefix ← required Toml.asText (field "path_prefix")
  let backendAddr ← required Toml.asText (field "backend_addr")
  let backendHost ← optional Toml.asText (field "backend_host")
  let stripPathPrefix ← defaulted false Toml.asFlag (field "strip_path_prefix")
  let proxyHeaders ← optional Toml.asFlag (field "proxy_headers")
  let authorization ← optional ClientAuthorizationDefaults.fromToml (field "authorization")
  some ⟨pathPrefix, backendAddr, backendHost, stripPathPrefix, proxyHeaders, authorization⟩

/-- One hostname of a multi-route file. -/
def ClientRouteConfig.fromToml (value : Toml) : Option ClientRouteConfig := do
  let field ← value.fields
    ("client_id" :: "hostname" :: "pattern" :: inheritedKeys ++ ["path_routes"])
  let clientId ← required Toml.asText (field "client_id")
  let hostname ← required Toml.asText (field "hostname")
  let pattern ← optional Toml.asText (field "pattern")
  let natsUrl ← optional Toml.asText (field "nats_url")
  let natsTokenFile ← optional Toml.asText (field "nats_token_file")
  let oauth ← optional ClientOAuthDefaults.fromToml (field "oauth")
  let acme ← optional ClientAcmeDefaults.fromToml (field "acme")
  let authorization ← optional ClientAuthorizationDefaults.fromToml (field "authorization")
  let tcpPassthrough ← optional Toml.asFlag (field "tcp_passthrough")
  let relayMode ← optional RelayMode.fromToml (field "relay_mode")
  let requestSubject ← optional Toml.asText (field "request_subject")
  let claimAckTimeoutMs ← optional Toml.asCount (field "claim_ack_timeout_ms")
  let backendAddr ← optional Toml.asText (field "backend_addr")
  let backendHost ← optional Toml.asText (field "backend_host")
  let httpBackendAddr ← optional Toml.asText (field "http_backend_addr")
  let proxyHeaders ← optional Toml.asFlag (field "proxy_headers")
  let pathRoutes ←
    defaulted [] (Toml.asList ClientPathRouteConfig.fromToml) (field "path_routes")
  some ⟨clientId, hostname, pattern, natsUrl, natsTokenFile, oauth, acme, authorization,
    tcpPassthrough, relayMode, requestSubject, claimAckTimeoutMs, backendAddr, backendHost,
    httpBackendAddr, proxyHeaders, pathRoutes⟩

/-- A multi-route file. -/
def MultiRouteClientConfig.fromToml (value : Toml) : Option MultiRouteClientConfig := do
  let field ← value.fields ["defaults", "routes"]
  let defaults ← defaulted {} ClientConfigDefaults.fromToml (field "defaults")
  let routes ← required (Toml.asList ClientRouteConfig.fromToml) (field "routes")
  some ⟨defaults, routes⟩

/-- A policy of a flat file. -/
def ClientAuthorizationConfig.fromToml (value : Toml) : Option ClientAuthorizationConfig := do
  let field ← value.fields policyKeys
  let bearer ← optional Toml.asFlag (field "bearer")
  let oidc ← optional Toml.asFlag (field "oidc")
  let issuer ← required Toml.asText (field "issuer")
  let audiences ← required Toml.asTexts (field "audiences")
  let jwksUri ← optional Toml.asText (field "jwks_uri")
  let jwksCacheFile ← defaulted defaultJwksCacheFile Toml.asText (field "jwks_cache_file")
  let rolesClaim ← defaulted defaultRolesClaim Toml.asText (field "roles_claim")
  let requiredRoles ← defaulted [] Toml.asTexts (field "required_roles")
  let forwardAuthorization ← defaulted false Toml.asFlag (field "forward_authorization")
  let roleMatch ← defaulted .any RoleMatch.fromToml (field "role_match")
  let algorithms ← defaulted defaultJwtAlgorithms Toml.asTexts (field "algorithms")
  let leewaySeconds ← defaulted defaultJwtLeewaySeconds Toml.asCount (field "leeway_seconds")
  let jwksRefreshSeconds ←
    defaulted defaultJwksRefreshSeconds Toml.asCount (field "jwks_refresh_seconds")
  let jwksMaxStaleSeconds ←
    defaulted defaultJwksMaxStaleSeconds Toml.asCount (field "jwks_max_stale_seconds")
  let headerTimeoutMs ←
    defaulted defaultAuthHeaderTimeoutMs Toml.asCount (field "header_timeout_ms")
  let maxHeaderBytes ← defaulted defaultAuthMaxHeaderBytes Toml.asCount (field "max_header_bytes")
  let oidcClientId ← optional Toml.asText (field "oidc_client_id")
  let oidcClientSecretFile ← optional Toml.asText (field "oidc_client_secret_file")
  let oidcScopes ← defaulted defaultBrowserOidcScopes Toml.asTexts (field "oidc_scopes")
  let oidcCallbackPath ← defaulted defaultOidcCallbackPath Toml.asText (field "oidc_callback_path")
  let oidcLogoutPath ← defaulted defaultOidcLogoutPath Toml.asText (field "oidc_logout_path")
  let oidcSessionKeyFile ←
    defaulted defaultOidcSessionKeyFile Toml.asText (field "oidc_session_key_file")
  let oidcSessionTtlSeconds ←
    defaulted defaultOidcSessionTtlSeconds Toml.asCount (field "oidc_session_ttl_seconds")
  some ⟨bearer, oidc, issuer, audiences, jwksUri, jwksCacheFile, rolesClaim, requiredRoles,
    forwardAuthorization, roleMatch, algorithms, leewaySeconds, jwksRefreshSeconds,
    jwksMaxStaleSeconds, headerTimeoutMs, maxHeaderBytes, oidcClientId, oidcClientSecretFile,
    oidcScopes, oidcCallbackPath, oidcLogoutPath, oidcSessionKeyFile, oidcSessionTtlSeconds⟩

/-- The exchange settings of a flat file. -/
def ClientOAuthConfig.fromToml (value : Toml) : Option ClientOAuthConfig := do
  let field ← value.fields ["token_url", "provider_client_id", "username", "client_secret_file",
    "control_plane_url", "hostname", "scopes", "renew_before_seconds"]
  let tokenUrl ← required Toml.asText (field "token_url")
  let providerClientId ← required Toml.asText (field "provider_client_id")
  let username ← required Toml.asText (field "username")
  let clientSecretFile ← required Toml.asText (field "client_secret_file")
  let controlPlaneUrl ← required Toml.asText (field "control_plane_url")
  let hostname ← required Toml.asText (field "hostname")
  let scopes ← defaulted defaultOAuthScopes Toml.asTexts (field "scopes")
  let renewBeforeSeconds ←
    defaulted defaultOAuthRenewBeforeSeconds Toml.asCount (field "renew_before_seconds")
  some ⟨tokenUrl, providerClientId, username, clientSecretFile, controlPlaneUrl, hostname, scopes,
    renewBeforeSeconds⟩

/-- The certificate settings of a flat file. -/
def ClientAcmeConfig.fromToml (value : Toml) : Option ClientAcmeConfig := do
  let field ← value.fields ["domain", "contacts", "cache_dir", "production", "directory_url"]
  let domain ← required Toml.asText (field "domain")
  let contacts ← defaulted [] Toml.asTexts (field "contacts")
  let cacheDir ← defaulted defaultAcmeCacheDir Toml.asText (field "cache_dir")
  let production ← defaulted false Toml.asFlag (field "production")
  let directoryUrl ← optional Toml.asText (field "directory_url")
  some ⟨domain, contacts, cacheDir, production, directoryUrl⟩

/-- One rule of a flat file. -/
def BackendRule.fromToml (value : Toml) : Option BackendRule := do
  let field ← value.fields ["pattern", "path_prefix", "strip_path_prefix", "proxy_headers",
    "backend_addr", "backend_host", "http_backend_addr", "authorization"]
  let pattern ← defaulted "" Toml.asText (field "pattern")
  let pathPrefix ← optional Toml.asText (field "path_prefix")
  let stripPathPrefix ← defaulted false Toml.asFlag (field "strip_path_prefix")
  let proxyHeaders ← defaulted true Toml.asFlag (field "proxy_headers")
  let backendAddr ← required Toml.asText (field "backend_addr")
  let backendHost ← optional Toml.asText (field "backend_host")
  let httpBackendAddr ← optional Toml.asText (field "http_backend_addr")
  let authorization ← optional ClientAuthorizationConfig.fromToml (field "authorization")
  some ⟨pattern, pathPrefix, stripPathPrefix, proxyHeaders, backendAddr, backendHost,
    httpBackendAddr, authorization⟩

/-- A flat file. -/
def ClientConfig.fromToml (value : Toml) : Option ClientConfig := do
  let field ← value.fields ["client_id", "nats_url", "nats_token_file", "oauth", "acme",
    "authorization", "tcp_passthrough", "relay_mode", "request_subject", "claim_ack_timeout_ms",
    "backend_rules"]
  let clientId ← required Toml.asText (field "client_id")
  let natsUrl ← required Toml.asText (field "nats_url")
  let natsTokenFile ← optional Toml.asText (field "nats_token_file")
  let oauth ← optional ClientOAuthConfig.fromToml (field "oauth")
  let acme ← optional ClientAcmeConfig.fromToml (field "acme")
  let authorization ← optional ClientAuthorizationConfig.fromToml (field "authorization")
  let tcpPassthrough ← defaulted true Toml.asFlag (field "tcp_passthrough")
  let relayMode ← defaulted .auto RelayMode.fromToml (field "relay_mode")
  let requestSubject ← defaulted defaultRequestSubject Toml.asText (field "request_subject")
  let claimAckTimeoutMs ←
    defaulted defaultClaimAckTimeoutMs Toml.asCount (field "claim_ack_timeout_ms")
  let backendRules ← required (Toml.asList BackendRule.fromToml) (field "backend_rules")
  some ⟨clientId, natsUrl, natsTokenFile, oauth, acme, authorization, tcpPassthrough, relayMode,
    requestSubject, claimAckTimeoutMs, backendRules⟩

/-- A client document of either shape; the multi-route shape is tried first. -/
def ClientConfigDocument.fromToml (value : Toml) : Option ClientConfigDocument :=
  ((MultiRouteClientConfig.fromToml value).map .multiRoute).or
    ((ClientConfig.fromToml value).map .legacy)

/-- Decode, resolve and validate a parsed document. -/
def parseClientToml (value : Toml) : Except AnyError (List ClientConfig) := do
  let document ← orMissing "data did not match any variant of untagged enum ClientConfigDocument"
    (ClientConfigDocument.fromToml value)
  parseClientConfigs document

/-- An array of texts. -/
def textArray (texts : List String) : Toml := .array (texts.map .string)

/-- What reading policy settings keeps of the keys that another reader of the
same document looks at. -/
structure AuthorizationRead (value : Option Toml) (settings : Option ClientAuthorizationDefaults) :
    Prop where
  /-- The settings are there exactly when the section is. -/
  present : settings.isSome = value.isSome
  /-- The switch. -/
  enabled : entry value "enabled" = (settings.bind (·.enabled)).map .boolean
  /-- Bearer tokens. -/
  bearer : entry value "bearer" = (settings.bind (·.bearer)).map .boolean
  /-- Browser login. -/
  oidc : entry value "oidc" = (settings.bind (·.oidc)).map .boolean
  /-- The issuer. -/
  issuer : entry value "issuer" = (settings.bind (·.issuer)).map .string
  /-- The audiences. -/
  audiences : entry value "audiences" = (settings.bind (·.audiences)).map textArray
  /-- The required roles. -/
  requiredRoles : entry value "required_roles" = (settings.bind (·.requiredRoles)).map textArray
  /-- The relying-party client identifier. -/
  oidcClientId : entry value "oidc_client_id" = (settings.bind (·.oidcClientId)).map .string
  /-- The scopes. -/
  oidcScopes : entry value "oidc_scopes" = (settings.bind (·.oidcScopes)).map textArray
  /-- The callback path. -/
  oidcCallbackPath :
    entry value "oidc_callback_path" = (settings.bind (·.oidcCallbackPath)).map .string
  /-- The logout path. -/
  oidcLogoutPath : entry value "oidc_logout_path" = (settings.bind (·.oidcLogoutPath)).map .string

/-- An optional text that was read. -/
theorem optional_asText {value : Option Toml} {found : Option String}
    (h : optional Toml.asText value = some found) : value = found.map .string :=
  (optional_eq_some fun _ _ => asText_eq_some).mp h

/-- An optional flag that was read. -/
theorem optional_asFlag {value : Option Toml} {found : Option Bool}
    (h : optional Toml.asFlag value = some found) : value = found.map .boolean :=
  (optional_eq_some fun _ _ => asFlag_eq_some).mp h

/-- Optional texts that were read. -/
theorem optional_asTexts {value : Option Toml} {found : Option (List String)}
    (h : optional Toml.asTexts value = some found) : value = found.map textArray :=
  (optional_eq_some fun _ _ => asTexts_eq_some).mp h

/-- Policy settings that were read from a table. -/
theorem authorizationRead_of_fromToml {value : Option Toml}
    {settings : Option ClientAuthorizationDefaults}
    (h : optional ClientAuthorizationDefaults.fromToml value = some settings)
    (hwritten : Written value) : AuthorizationRead value settings := by
  have hpresent := optional_isSome h
  cases value with
  | none =>
    cases h
    constructor <;> rfl
  | some value =>
    obtain ⟨record, hrecord, rfl⟩ := Option.map_eq_some_iff.mp h
    obtain ⟨field, hfield, hrecord⟩ := Option.bind_eq_some_iff.mp hrecord
    obtain ⟨enabled, henabled, hrecord⟩ := Option.bind_eq_some_iff.mp hrecord
    obtain ⟨bearer, hbearer, hrecord⟩ := Option.bind_eq_some_iff.mp hrecord
    obtain ⟨oidc, hoidc, hrecord⟩ := Option.bind_eq_some_iff.mp hrecord
    obtain ⟨issuer, hissuer, hrecord⟩ := Option.bind_eq_some_iff.mp hrecord
    obtain ⟨audiences, haudiences, hrecord⟩ := Option.bind_eq_some_iff.mp hrecord
    obtain ⟨_, -, hrecord⟩ := Option.bind_eq_some_iff.mp hrecord
    obtain ⟨_, -, hrecord⟩ := Option.bind_eq_some_iff.mp hrecord
    obtain ⟨_, -, hrecord⟩ := Option.bind_eq_some_iff.mp hrecord
    obtain ⟨requiredRoles, hroles, hrecord⟩ := Option.bind_eq_some_iff.mp hrecord
    obtain ⟨_, -, hrecord⟩ := Option.bind_eq_some_iff.mp hrecord
    obtain ⟨_, -, hrecord⟩ := Option.bind_eq_some_iff.mp hrecord
    obtain ⟨_, -, hrecord⟩ := Option.bind_eq_some_iff.mp hrecord
    obtain ⟨_, -, hrecord⟩ := Option.bind_eq_some_iff.mp hrecord
    obtain ⟨_, -, hrecord⟩ := Option.bind_eq_some_iff.mp hrecord
    obtain ⟨_, -, hrecord⟩ := Option.bind_eq_some_iff.mp hrecord
    obtain ⟨_, -, hrecord⟩ := Option.bind_eq_some_iff.mp hrecord
    obtain ⟨_, -, hrecord⟩ := Option.bind_eq_some_iff.mp hrecord
    obtain ⟨oidcClientId, hclient, hrecord⟩ := Option.bind_eq_some_iff.mp hrecord
    obtain ⟨_, -, hrecord⟩ := Option.bind_eq_some_iff.mp hrecord
    obtain ⟨oidcScopes, hscopes, hrecord⟩ := Option.bind_eq_some_iff.mp hrecord
    obtain ⟨oidcCallbackPath, hcallback, hrecord⟩ := Option.bind_eq_some_iff.mp hrecord
    obtain ⟨oidcLogoutPath, hlogout, hrecord⟩ := Option.bind_eq_some_iff.mp hrecord
    obtain ⟨_, -, hrecord⟩ := Option.bind_eq_some_iff.mp hrecord
    obtain ⟨_, -, hrecord⟩ := Option.bind_eq_some_iff.mp hrecord
    cases hrecord
    obtain rfl : field = value.get := fields_eq_get hfield (hwritten value rfl)
    exact ⟨hpresent, optional_asFlag henabled, optional_asFlag hbearer, optional_asFlag hoidc,
      optional_asText hissuer, optional_asTexts haudiences, optional_asTexts hroles,
      optional_asText hclient, optional_asTexts hscopes, optional_asText hcallback,
      optional_asText hlogout⟩

/-- The fields of a path that is written as a table; its policy section is read
on its own. -/
structure PathFields (value : Toml) (path : ClientPathRouteConfig) : Prop where
  /-- The prefix. -/
  pathPrefix : value.get "path_prefix" = some (.string path.pathPrefix)
  /-- The destination. -/
  backendAddr : value.get "backend_addr" = some (.string path.backendAddr)
  /-- The policy settings. -/
  authorization : optional ClientAuthorizationDefaults.fromToml (value.get "authorization") =
    some path.authorization

/-- The fields of a route that is written as a table; its sections and its paths
are read on their own. -/
structure RouteFields (value : Toml) (route : ClientRouteConfig) : Prop where
  /-- The client identifier. -/
  clientId : value.get "client_id" = some (.string route.clientId)
  /-- The hostname. -/
  hostname : value.get "hostname" = some (.string route.hostname)
  /-- The control-message server. -/
  natsUrl : value.get "nats_url" = route.natsUrl.map .string
  /-- The destination of raw traffic. -/
  backendAddr : value.get "backend_addr" = route.backendAddr.map .string
  /-- The exchange settings. -/
  oauth : optional ClientOAuthDefaults.fromToml (value.get "oauth") = some route.oauth
  /-- The certificate settings. -/
  acme : optional ClientAcmeDefaults.fromToml (value.get "acme") = some route.acme
  /-- The policy settings. -/
  authorization : optional ClientAuthorizationDefaults.fromToml (value.get "authorization") =
    some route.authorization
  /-- The paths, in order. -/
  pathRoutes : List.Forall₂ (fun item path => ClientPathRouteConfig.fromToml item = some path)
    (items (value.get "path_routes")) route.pathRoutes

/-- The fields of inherited values that are written as a table or missing; their
sections are read on their own. -/
structure DefaultsFields (value : Option Toml) (defaults : ClientConfigDefaults) : Prop where
  /-- The control-message server. -/
  natsUrl : entry value "nats_url" = defaults.natsUrl.map .string
  /-- The destination of raw traffic. -/
  backendAddr : entry value "backend_addr" = defaults.backendAddr.map .string
  /-- The exchange settings. -/
  oauth : optional ClientOAuthDefaults.fromToml (entry value "oauth") = some defaults.oauth
  /-- The certificate settings. -/
  acme : optional ClientAcmeDefaults.fromToml (entry value "acme") = some defaults.acme
  /-- The policy settings. -/
  authorization : optional ClientAuthorizationDefaults.fromToml (entry value "authorization") =
    some defaults.authorization

/-- The fields of a document that is written as a table. -/
structure DocumentFields (document : Toml) (file : MultiRouteClientConfig) : Prop where
  /-- The inherited values. -/
  defaults : defaulted {} ClientConfigDefaults.fromToml (document.get "defaults") =
    some file.defaults
  /-- The routes, in order. -/
  routes : List.Forall₂ (fun item route => ClientRouteConfig.fromToml item = some route)
    (items (document.get "routes")) file.routes

/-- A required text that was read. -/
theorem required_asText {value : Option Toml} {text : String}
    (h : required Toml.asText value = some text) : value = some (.string text) := by
  obtain ⟨found, rfl, hfound⟩ := Option.bind_eq_some_iff.mp h
  rw [asText_eq_some.mp hfound]

/-- A path that was read from a table. -/
theorem pathFields_of_fromToml {value : Toml} {path : ClientPathRouteConfig}
    (h : ClientPathRouteConfig.fromToml value = some path) (hwritten : value.isArray = false) :
    PathFields value path := by
  simp only [ClientPathRouteConfig.fromToml, Option.bind_eq_bind, Option.bind_eq_some_iff,
    Option.some.injEq] at h
  obtain ⟨field, hfield, pathPrefix, hpathPrefix, backendAddr, hbackend, _, -, _, -, _, -,
    authorization, hp, rfl⟩ := h
  obtain rfl : field = value.get := fields_eq_get hfield hwritten
  exact ⟨required_asText hpathPrefix, required_asText hbackend, hp⟩

/-- A route that was read from a table. -/
theorem routeFields_of_fromToml {value : Toml} {route : ClientRouteConfig}
    (h : ClientRouteConfig.fromToml value = some route) (hwritten : value.isArray = false) :
    RouteFields value route := by
  obtain ⟨field, hfield, h⟩ := Option.bind_eq_some_iff.mp h
  obtain ⟨clientId, hclient, h⟩ := Option.bind_eq_some_iff.mp h
  obtain ⟨hostname, hhostname, h⟩ := Option.bind_eq_some_iff.mp h
  obtain ⟨_, -, h⟩ := Option.bind_eq_some_iff.mp h
  obtain ⟨natsUrl, hnats, h⟩ := Option.bind_eq_some_iff.mp h
  obtain ⟨_, -, h⟩ := Option.bind_eq_some_iff.mp h
  obtain ⟨oauth, ho, h⟩ := Option.bind_eq_some_iff.mp h
  obtain ⟨acme, ha, h⟩ := Option.bind_eq_some_iff.mp h
  obtain ⟨authorization, hp, h⟩ := Option.bind_eq_some_iff.mp h
  obtain ⟨_, -, h⟩ := Option.bind_eq_some_iff.mp h
  obtain ⟨_, -, h⟩ := Option.bind_eq_some_iff.mp h
  obtain ⟨_, -, h⟩ := Option.bind_eq_some_iff.mp h
  obtain ⟨_, -, h⟩ := Option.bind_eq_some_iff.mp h
  obtain ⟨backendAddr, hbackend, h⟩ := Option.bind_eq_some_iff.mp h
  obtain ⟨_, -, h⟩ := Option.bind_eq_some_iff.mp h
  obtain ⟨_, -, h⟩ := Option.bind_eq_some_iff.mp h
  obtain ⟨_, -, h⟩ := Option.bind_eq_some_iff.mp h
  obtain ⟨pathRoutes, hpaths, h⟩ := Option.bind_eq_some_iff.mp h
  cases h
  obtain rfl : field = value.get := fields_eq_get hfield hwritten
  refine ⟨required_asText hclient, required_asText hhostname, optional_asText hnats,
    optional_asText hbackend, ho, ha, hp, ?_⟩
  cases hvalue : value.get "path_routes" with
  | none =>
    rw [hvalue] at hpaths
    cases hpaths
    exact .nil
  | some found =>
    rw [hvalue] at hpaths
    exact forall₂_of_asList hpaths

/-- Inherited values that were read from a table or by default. -/
theorem defaultsFields_of_fromToml {value : Option Toml} {defaults : ClientConfigDefaults}
    (h : defaulted {} ClientConfigDefaults.fromToml value = some defaults)
    (hwritten : Written value) : DefaultsFields value defaults := by
  cases value with
  | none =>
    cases h
    constructor <;> rfl
  | some value =>
    obtain ⟨field, hfield, h⟩ := Option.bind_eq_some_iff.mp h
    obtain ⟨natsUrl, hnats, h⟩ := Option.bind_eq_some_iff.mp h
    obtain ⟨_, -, h⟩ := Option.bind_eq_some_iff.mp h
    obtain ⟨oauth, ho, h⟩ := Option.bind_eq_some_iff.mp h
    obtain ⟨acme, ha, h⟩ := Option.bind_eq_some_iff.mp h
    obtain ⟨authorization, hp, h⟩ := Option.bind_eq_some_iff.mp h
    obtain ⟨_, -, h⟩ := Option.bind_eq_some_iff.mp h
    obtain ⟨_, -, h⟩ := Option.bind_eq_some_iff.mp h
    obtain ⟨_, -, h⟩ := Option.bind_eq_some_iff.mp h
    obtain ⟨_, -, h⟩ := Option.bind_eq_some_iff.mp h
    obtain ⟨backendAddr, hbackend, h⟩ := Option.bind_eq_some_iff.mp h
    obtain ⟨_, -, h⟩ := Option.bind_eq_some_iff.mp h
    obtain ⟨_, -, h⟩ := Option.bind_eq_some_iff.mp h
    obtain ⟨_, -, h⟩ := Option.bind_eq_some_iff.mp h
    cases h
    obtain rfl : field = value.get := fields_eq_get hfield (hwritten value rfl)
    exact ⟨optional_asText hnats, optional_asText hbackend, ho, ha, hp⟩

/-- A multi-route document that was read from a table. -/
theorem documentFields_of_fromToml {document : Toml} {file : MultiRouteClientConfig}
    (h : MultiRouteClientConfig.fromToml document = some file)
    (hwritten : document.isArray = false) : DocumentFields document file := by
  simp only [MultiRouteClientConfig.fromToml, Option.bind_eq_bind, Option.bind_eq_some_iff,
    Option.some.injEq] at h
  obtain ⟨field, hfield, defaults, hdefaults, routes, hroutes, rfl⟩ := h
  obtain rfl : field = document.get := fields_eq_get hfield hwritten
  obtain ⟨found, hfound, hread⟩ := Option.bind_eq_some_iff.mp hroutes
  have hitems := forall₂_of_asList hread
  rw [← hfound] at hitems
  exact ⟨hdefaults, hitems⟩

/-- What reading certificate settings keeps. -/
structure AcmeRead (value : Option Toml) (settings : Option ClientAcmeDefaults) : Prop where
  /-- The settings are there exactly when the section is. -/
  present : settings.isSome = value.isSome
  /-- The switch. -/
  enabled : entry value "enabled" = (settings.bind (·.enabled)).map .boolean

/-- What reading exchange settings keeps. -/
structure OAuthRead (value : Option Toml) (settings : Option ClientOAuthDefaults) : Prop where
  /-- The settings are there exactly when the section is. -/
  present : settings.isSome = value.isSome
  /-- The token endpoint. -/
  tokenUrl : entry value "token_url" = (settings.bind (·.tokenUrl)).map .string
  /-- The provider client identifier. -/
  providerClientId :
    entry value "provider_client_id" = (settings.bind (·.providerClientId)).map .string
  /-- The username. -/
  username : entry value "username" = (settings.bind (·.username)).map .string
  /-- The secret file. -/
  clientSecretFile :
    entry value "client_secret_file" = (settings.bind (·.clientSecretFile)).map .string
  /-- The control-plane origin. -/
  controlPlaneUrl :
    entry value "control_plane_url" = (settings.bind (·.controlPlaneUrl)).map .string

/-- What reading inherited values keeps. -/
structure DefaultsRead (value : Option Toml) (defaults : ClientConfigDefaults) : Prop where
  /-- The control-message server. -/
  natsUrl : entry value "nats_url" = defaults.natsUrl.map .string
  /-- The destination of raw traffic. -/
  backendAddr : entry value "backend_addr" = defaults.backendAddr.map .string
  /-- The exchange settings. -/
  oauth : OAuthRead (entry value "oauth") defaults.oauth
  /-- The certificate settings. -/
  acme : AcmeRead (entry value "acme") defaults.acme
  /-- The policy settings. -/
  authorization : AuthorizationRead (entry value "authorization") defaults.authorization

/-- What reading a path keeps. -/
structure PathRead (value : Toml) (path : ClientPathRouteConfig) : Prop where
  /-- The prefix. -/
  pathPrefix : value.get "path_prefix" = some (.string path.pathPrefix)
  /-- The destination. -/
  backendAddr : value.get "backend_addr" = some (.string path.backendAddr)
  /-- The policy settings. -/
  authorization : AuthorizationRead (value.get "authorization") path.authorization

/-- What reading a route keeps. -/
structure RouteRead (value : Toml) (route : ClientRouteConfig) : Prop where
  /-- The client identifier. -/
  clientId : value.get "client_id" = some (.string route.clientId)
  /-- The hostname. -/
  hostname : value.get "hostname" = some (.string route.hostname)
  /-- The control-message server. -/
  natsUrl : value.get "nats_url" = route.natsUrl.map .string
  /-- The destination of raw traffic. -/
  backendAddr : value.get "backend_addr" = route.backendAddr.map .string
  /-- The exchange settings. -/
  oauth : OAuthRead (value.get "oauth") route.oauth
  /-- The certificate settings. -/
  acme : AcmeRead (value.get "acme") route.acme
  /-- The policy settings. -/
  authorization : AuthorizationRead (value.get "authorization") route.authorization
  /-- The paths, in order. -/
  pathRoutes : List.Forall₂ PathRead (items (value.get "path_routes")) route.pathRoutes

/-- What reading a multi-route document keeps. -/
structure DocumentRead (document : Toml) (file : MultiRouteClientConfig) : Prop where
  /-- The inherited values. -/
  defaults : DefaultsRead (document.get "defaults") file.defaults
  /-- The routes, in order. -/
  routes : List.Forall₂ RouteRead (items (document.get "routes")) file.routes

/-- A path that is written with tables. -/
structure TabularPath (path : Toml) : Prop where
  /-- The path itself. -/
  outer : path.isArray = false
  /-- Its policy settings. -/
  authorization : Written (path.get "authorization")

/-- A route that is written with tables. -/
structure TabularRoute (route : Toml) : Prop where
  /-- The route itself. -/
  outer : route.isArray = false
  /-- Its exchange settings. -/
  oauth : Written (route.get "oauth")
  /-- Its certificate settings. -/
  acme : Written (route.get "acme")
  /-- Its policy settings. -/
  authorization : Written (route.get "authorization")
  /-- Its paths. -/
  paths : ∀ path ∈ items (route.get "path_routes"), TabularPath path

/-- A document whose sections are written as tables. -/
structure Tabular (document : Toml) : Prop where
  /-- The document itself. -/
  outer : document.isArray = false
  /-- The inherited values. -/
  defaults : Written (document.get "defaults")
  /-- Their exchange settings. -/
  oauth : Written (entry (document.get "defaults") "oauth")
  /-- Their certificate settings. -/
  acme : Written (entry (document.get "defaults") "acme")
  /-- Their policy settings. -/
  authorization : Written (entry (document.get "defaults") "authorization")
  /-- The routes. -/
  routes : ∀ route ∈ items (document.get "routes"), TabularRoute route

/-- Certificate settings that were read from a table. -/
theorem acmeRead_of_fromToml {value : Option Toml} {settings : Option ClientAcmeDefaults}
    (h : optional ClientAcmeDefaults.fromToml value = some settings) (hwritten : Written value) :
    AcmeRead value settings := by
  have hpresent := optional_isSome h
  cases value with
  | none =>
    cases h
    constructor <;> rfl
  | some value =>
    obtain ⟨record, hrecord, rfl⟩ := Option.map_eq_some_iff.mp h
    simp only [ClientAcmeDefaults.fromToml, Option.bind_eq_bind, Option.bind_eq_some_iff,
      Option.some.injEq] at hrecord
    obtain ⟨field, hfield, enabled, henabled, _, -, _, -, _, -, _, -, rfl⟩ := hrecord
    rw [fields_eq_get hfield (hwritten value rfl)] at henabled
    exact ⟨hpresent, optional_asFlag henabled⟩

/-- Exchange settings that were read from a table. -/
theorem oauthRead_of_fromToml {value : Option Toml} {settings : Option ClientOAuthDefaults}
    (h : optional ClientOAuthDefaults.fromToml value = some settings) (hwritten : Written value) :
    OAuthRead value settings := by
  have hpresent := optional_isSome h
  cases value with
  | none =>
    cases h
    constructor <;> rfl
  | some value =>
    obtain ⟨record, hrecord, rfl⟩ := Option.map_eq_some_iff.mp h
    simp only [ClientOAuthDefaults.fromToml, Option.bind_eq_bind, Option.bind_eq_some_iff,
      Option.some.injEq] at hrecord
    obtain ⟨field, hfield, tokenUrl, htoken, providerClientId, hprovider, username, husername,
      clientSecretFile, hsecret, controlPlaneUrl, hcontrol, _, -, _, -, rfl⟩ := hrecord
    obtain rfl : field = value.get := fields_eq_get hfield (hwritten value rfl)
    exact ⟨hpresent, optional_asText htoken, optional_asText hprovider, optional_asText husername,
      optional_asText hsecret, optional_asText hcontrol⟩

/-- Inherited values that were read from a table. -/
theorem defaultsRead_of_fromToml {value : Option Toml} {defaults : ClientConfigDefaults}
    (h : defaulted {} ClientConfigDefaults.fromToml value = some defaults)
    (hwritten : Written value) (hoauth : Written (entry value "oauth"))
    (hacme : Written (entry value "acme"))
    (hauthorization : Written (entry value "authorization")) :
    DefaultsRead value defaults := by
  have hfields := defaultsFields_of_fromToml h hwritten
  exact ⟨hfields.natsUrl, hfields.backendAddr, oauthRead_of_fromToml hfields.oauth hoauth,
    acmeRead_of_fromToml hfields.acme hacme,
    authorizationRead_of_fromToml hfields.authorization hauthorization⟩

/-- A path whose section was read from a table. -/
theorem pathRead_of_fromToml {value : Toml} {path : ClientPathRouteConfig}
    (h : ClientPathRouteConfig.fromToml value = some path) (htabular : TabularPath value) :
    PathRead value path := by
  have hfields := pathFields_of_fromToml h htabular.outer
  exact ⟨hfields.pathPrefix, hfields.backendAddr,
    authorizationRead_of_fromToml hfields.authorization htabular.authorization⟩

/-- Reading item by item keeps what reading one item keeps. -/
theorem forall₂_read {α : Type} {read : Toml → Option α} {Kept : Toml → α → Prop}
    {value : Option Toml} {found : List α}
    (h : List.Forall₂ (fun item element => read item = some element) (items value) found)
    (hkept : ∀ item ∈ items value, ∀ element, read item = some element → Kept item element) :
    List.Forall₂ Kept (items value) found := by
  generalize items value = values at h hkept
  induction h with
  | nil => exact .nil
  | cons hfirst hrest ih =>
    exact .cons (hkept _ (List.mem_cons_self ..) _ hfirst)
      (ih fun item hm => hkept item (List.mem_cons_of_mem _ hm))

/-- A route whose sections were read from tables. -/
theorem routeRead_of_fromToml {value : Toml} {route : ClientRouteConfig}
    (h : ClientRouteConfig.fromToml value = some route) (htabular : TabularRoute value) :
    RouteRead value route := by
  have hfields := routeFields_of_fromToml h htabular.outer
  refine ⟨hfields.clientId, hfields.hostname, hfields.natsUrl, hfields.backendAddr,
    oauthRead_of_fromToml hfields.oauth htabular.oauth,
    acmeRead_of_fromToml hfields.acme htabular.acme,
    authorizationRead_of_fromToml hfields.authorization htabular.authorization, ?_⟩
  exact forall₂_read hfields.pathRoutes fun item hm path hpath =>
    pathRead_of_fromToml hpath (htabular.paths item hm)

/-- A multi-route document that was read from tables. -/
theorem documentRead_of_fromToml {document : Toml} {file : MultiRouteClientConfig}
    (h : MultiRouteClientConfig.fromToml document = some file) (htabular : Tabular document) :
    DocumentRead document file := by
  have hfields := documentFields_of_fromToml h htabular.outer
  refine ⟨defaultsRead_of_fromToml hfields.defaults htabular.defaults htabular.oauth
    htabular.acme htabular.authorization, ?_⟩
  exact forall₂_read hfields.routes fun item hm route hroute =>
    routeRead_of_fromToml hroute (htabular.routes item hm)

end LfpPipe.ConfigDecoding
