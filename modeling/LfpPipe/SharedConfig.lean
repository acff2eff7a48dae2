import LfpPipe.RustText
import LfpPipe.Fallible

/-!
# Client configuration records

Typed values of one parsed client document, from `shared/src/config.rs`. The
flat shape is a concrete route; the multi-route shape has optional values at
the level of the machine, the route and the path. TOML decoding itself is
external, so a document is the value that it yields. Numbers are natural
because decoding already rejects what does not fit their Rust types.
-/

namespace LfpPipe.SharedConfig

open RustText Fallible

/-- Available bidirectional stream-copy implementations. -/
inductive RelayMode where
  | auto
  | buffered
  | splice
  deriving DecidableEq, Repr

/-- Required-role matching semantics. -/
inductive RoleMatch where
  | any
  | all
  deriving DecidableEq, Repr

/-- JWT resource-server policy protecting a private HTTP backend. -/
structure ClientAuthorizationConfig where
  /-- Accept bearer access tokens; on when omitted. -/
  bearer : Option Bool
  /-- Run browser login; when omitted, on if a client ID is configured. -/
  oidc : Option Bool
  /-- Exact issuer claim, also used for discovery. -/
  issuer : String
  /-- Accepted audience values. -/
  audiences : List String
  /-- Explicit key endpoint. -/
  jwksUri : Option String
  /-- Persistent key cache. -/
  jwksCacheFile : String
  /-- Dot-separated claim path with role names. -/
  rolesClaim : String
  /-- Roles required in that claim; empty requires none. -/
  requiredRoles : List String
  /-- Forward the bearer token to the backend. -/
  forwardAuthorization : Bool
  /-- Whether any or all required roles must be present. -/
  roleMatch : RoleMatch
  /-- Asymmetric signature algorithm allowlist. -/
  algorithms : List String
  /-- Clock skew for expiry validation. -/
  leewaySeconds : ℕ
  /-- Key refresh interval. -/
  jwksRefreshSeconds : ℕ
  /-- Maximum age of cached keys; zero is unlimited. -/
  jwksMaxStaleSeconds : ℕ
  /-- Wait for the first complete header block. -/
  headerTimeoutMs : ℕ
  /-- Maximum request-header size. -/
  maxHeaderBytes : ℕ
  /-- Relying-party client identifier. -/
  oidcClientId : Option String
  /-- File with a confidential client secret. -/
  oidcClientSecretFile : Option String
  /-- Scopes requested during browser login. -/
  oidcScopes : List String
  /-- Reserved callback path. -/
  oidcCallbackPath : String
  /-- Reserved logout path. -/
  oidcLogoutPath : String
  /-- File containing or receiving the cookie key. -/
  oidcSessionKeyFile : String
  /-- Absolute browser-session lifetime. -/
  oidcSessionTtlSeconds : ℕ
  deriving DecidableEq, Repr

/-- Whether bearer-token authorization is active for this policy. -/
def ClientAuthorizationConfig.bearerEnabled (policy : ClientAuthorizationConfig) : Bool :=
  policy.bearer.getD true

/-- Whether interactive authorization is active for this policy. -/
def ClientAuthorizationConfig.oidcEnabled (policy : ClientAuthorizationConfig) : Bool :=
  policy.oidc.getD (policy.oidcClientId.any fun value => !isBlank value)

/-- Machine credential and control-plane exchange of one route. -/
structure ClientOAuthConfig where
  /-- Token endpoint. -/
  tokenUrl : String
  /-- Public provider client identifier. -/
  providerClientId : String
  /-- Service-account username. -/
  username : String
  /-- File with the service-account password. -/
  clientSecretFile : String
  /-- Control-plane origin. -/
  controlPlaneUrl : String
  /-- Hostname for which tickets are requested. -/
  hostname : String
  /-- Requested scopes. -/
  scopes : List String
  /-- Renewal lead time. -/
  renewBeforeSeconds : ℕ
  deriving DecidableEq, Repr

/-- Automatic certificate settings of one route. -/
structure ClientAcmeConfig where
  /-- Exact certificate name. -/
  domain : String
  /-- Account contacts. -/
  contacts : List String
  /-- Persistent account and certificate directory. -/
  cacheDir : String
  /-- Use the production directory. -/
  production : Bool
  /-- Custom directory, taking precedence. -/
  directoryUrl : Option String
  deriving DecidableEq, Repr

/-- One ordered hostname pattern and its private backend. -/
structure BackendRule where
  /-- Exact host, wildcard suffix, or empty for traffic without a name. -/
  pattern : String
  /-- Optional URL path prefix, matched on a segment boundary. -/
  pathPrefix : Option String
  /-- Remove the path prefix before forwarding. -/
  stripPathPrefix : Bool
  /-- Set trusted forwarding headers. -/
  proxyHeaders : Bool
  /-- Socket address dialed for this rule. -/
  backendAddr : String
  /-- Host header value presented to the backend. -/
  backendHost : Option String
  /-- Destination for plaintext HTTP. -/
  httpBackendAddr : Option String
  /-- Policy applied when this rule is selected. -/
  authorization : Option ClientAuthorizationConfig
  deriving DecidableEq, Repr

/-- Private-backend client configuration of one route session. -/
structure ClientConfig where
  /-- Identifier in claims and callback prefixes. -/
  clientId : String
  /-- Control-message server. -/
  natsUrl : String
  /-- File with a bearer token for it. -/
  natsTokenFile : Option String
  /-- Ticket exchange. -/
  oauth : Option ClientOAuthConfig
  /-- Local TLS termination. -/
  acme : Option ClientAcmeConfig
  /-- Policy of rules without their own. -/
  authorization : Option ClientAuthorizationConfig
  /-- Let non-HTTP connections use the fallback backend. -/
  tcpPassthrough : Bool
  /-- Stream-copy implementation. -/
  relayMode : RelayMode
  /-- Subject of connection requests. -/
  requestSubject : String
  /-- Wait for a claim decision. -/
  claimAckTimeoutMs : ℕ
  /-- Ordered routing rules. -/
  backendRules : List BackendRule
  deriving DecidableEq, Repr

/-- Inheritable policy settings; each may be absent at any level. -/
structure ClientAuthorizationDefaults where
  /-- Whether authorization is inherited or enabled. -/
  enabled : Option Bool := none
  /-- Accept bearer access tokens. -/
  bearer : Option Bool := none
  /-- Enable browser login. -/
  oidc : Option Bool := none
  /-- Exact issuer. -/
  issuer : Option String := none
  /-- Accepted audiences. -/
  audiences : Option (List String) := none
  /-- Explicit key endpoint. -/
  jwksUri : Option String := none
  /-- Persistent key cache. -/
  jwksCacheFile : Option String := none
  /-- Role claim path. -/
  rolesClaim : Option String := none
  /-- Required role names. -/
  requiredRoles : Option (List String) := none
  /-- Forward the bearer token. -/
  forwardAuthorization : Option Bool := none
  /-- Any or all matching. -/
  roleMatch : Option RoleMatch := none
  /-- Algorithm allowlist. -/
  algorithms : Option (List String) := none
  /-- Clock skew allowance. -/
  leewaySeconds : Option ℕ := none
  /-- Key refresh interval. -/
  jwksRefreshSeconds : Option ℕ := none
  /-- Maximum cache age. -/
  jwksMaxStaleSeconds : Option ℕ := none
  /-- Header read timeout. -/
  headerTimeoutMs : Option ℕ := none
  /-- Maximum request-header size. -/
  maxHeaderBytes : Option ℕ := none
  /-- Relying-party client identifier. -/
  oidcClientId : Option String := none
  /-- File with the client secret. -/
  oidcClientSecretFile : Option String := none
  /-- Browser-login scopes. -/
  oidcScopes : Option (List String) := none
  /-- Callback path. -/
  oidcCallbackPath : Option String := none
  /-- Logout path. -/
  oidcLogoutPath : Option String := none
  /-- Cookie key file. -/
  oidcSessionKeyFile : Option String := none
  /-- Browser-session lifetime. -/
  oidcSessionTtlSeconds : Option ℕ := none
  deriving Repr

/-- Inheritable exchange settings. -/
structure ClientOAuthDefaults where
  /-- Token endpoint. -/
  tokenUrl : Option String := none
  /-- Public provider client identifier. -/
  providerClientId : Option String := none
  /-- Service-account username. -/
  username : Option String := none
  /-- File with the service-account password. -/
  clientSecretFile : Option String := none
  /-- Control-plane origin. -/
  controlPlaneUrl : Option String := none
  /-- Requested scopes. -/
  scopes : Option (List String) := none
  /-- Renewal lead time. -/
  renewBeforeSeconds : Option ℕ := none
  deriving Repr

/-- Inheritable certificate settings; the domain is always the hostname. -/
structure ClientAcmeDefaults where
  /-- Whether TLS termination is inherited or enabled. -/
  enabled : Option Bool := none
  /-- Account contacts. -/
  contacts : Option (List String) := none
  /-- Persistent directory. -/
  cacheDir : Option String := none
  /-- Use the production directory. -/
  production : Option Bool := none
  /-- Custom directory. -/
  directoryUrl : Option String := none
  deriving Repr

/-- Values inherited by every route of a multi-route file. -/
structure ClientConfigDefaults where
  /-- Control-message server. -/
  natsUrl : Option String := none
  /-- File with a bearer token for it. -/
  natsTokenFile : Option String := none
  /-- Exchange settings. -/
  oauth : Option ClientOAuthDefaults := none
  /-- Certificate settings. -/
  acme : Option ClientAcmeDefaults := none
  /-- Policy settings. -/
  authorization : Option ClientAuthorizationDefaults := none
  /-- Non-HTTP passthrough. -/
  tcpPassthrough : Option Bool := none
  /-- Stream-copy implementation. -/
  relayMode : Option RelayMode := none
  /-- Subject of connection requests. -/
  requestSubject : Option String := none
  /-- Wait for a claim decision. -/
  claimAckTimeoutMs : Option ℕ := none
  /-- Destination for TLS or raw traffic. -/
  backendAddr : Option String := none
  /-- Host header value. -/
  backendHost : Option String := none
  /-- Destination for plaintext HTTP. -/
  httpBackendAddr : Option String := none
  /-- Forwarding-header behavior. -/
  proxyHeaders : Option Bool := none
  deriving Repr

/-- One path-specific backend beneath a multi-route hostname. -/
structure ClientPathRouteConfig where
  /-- URL path prefix. -/
  pathPrefix : String
  /-- Destination of requests under it. -/
  backendAddr : String
  /-- Host header value. -/
  backendHost : Option String := none
  /-- Remove the prefix before forwarding. -/
  stripPathPrefix : Bool := false
  /-- Forwarding-header behavior. -/
  proxyHeaders : Option Bool := none
  /-- Policy of only this path. -/
  authorization : Option ClientAuthorizationDefaults := none
  deriving Repr

/-- One independently authenticated hostname of a multi-route file. -/
structure ClientRouteConfig where
  /-- Identifier in claims and callback prefixes. -/
  clientId : String
  /-- Exact hostname. -/
  hostname : String
  /-- Backend pattern; the hostname when absent. -/
  pattern : Option String := none
  /-- Control-message server. -/
  natsUrl : Option String := none
  /-- File with a bearer token for it. -/
  natsTokenFile : Option String := none
  /-- Exchange settings. -/
  oauth : Option ClientOAuthDefaults := none
  /-- Certificate settings. -/
  acme : Option ClientAcmeDefaults := none
  /-- Policy settings. -/
  authorization : Option ClientAuthorizationDefaults := none
  /-- Non-HTTP passthrough. -/
  tcpPassthrough : Option Bool := none
  /-- Stream-copy implementation. -/
  relayMode : Option RelayMode := none
  /-- Subject of connection requests. -/
  requestSubject : Option String := none
  /-- Wait for a claim decision. -/
  claimAckTimeoutMs : Option ℕ := none
  /-- Destination for TLS or raw traffic. -/
  backendAddr : Option String := none
  /-- Host header value. -/
  backendHost : Option String := none
  /-- Destination for plaintext HTTP. -/
  httpBackendAddr : Option String := none
  /-- Forwarding-header behavior. -/
  proxyHeaders : Option Bool := none
  /-- Path backends under this hostname. -/
  pathRoutes : List ClientPathRouteConfig := []
  deriving Repr

/-- A multi-route client file. -/
structure MultiRouteClientConfig where
  /-- Values inherited by every route. -/
  defaults : ClientConfigDefaults
  /-- The routes, in file order. -/
  routes : List ClientRouteConfig
  deriving Repr

/-- The two accepted shapes of a client file. -/
inductive ClientConfigDocument where
  | multiRoute (config : MultiRouteClientConfig)
  | legacy (config : ClientConfig)
  deriving Repr

/-- One exact TLS name that the ingress forwards directly. -/
structure SniPassthroughRoute where
  /-- Exact hostname. -/
  hostname : String
  /-- Backend of the passthrough. -/
  backendAddr : String
  deriving DecidableEq, Repr

/-- Settings of the public ingress that decide about connections. -/
structure IngressConfig where
  /-- Subject of connection requests. -/
  requestSubject : String
  /-- Use one subject for each hostname. -/
  domainSubjectRouting : Bool
  /-- Lifetime of a pending connection. -/
  pendingTimeoutMs : ℕ
  /-- Limit of public connections; zero is no limit. -/
  maxIngressConnections : ℕ
  /-- Limit of callback handshakes; zero is no limit. -/
  maxCallbackHandshakes : ℕ
  /-- Direct TLS routes. -/
  sniPassthroughRoutes : List SniPassthroughRoute
  deriving DecidableEq, Repr

/-- Resolve shorthand port addresses to loopback. -/
def resolveLoopbackShorthand (raw : String) : String :=
  let address := trim raw
  if address.toList.all Char.isDigit && !address.isEmpty then "127.0.0.1:" ++ address
  else if startsWith address ":" then "127.0.0.1" ++ address
  else address

/-- Destination of TLS or raw traffic. -/
def BackendRule.resolvedBackendAddr (rule : BackendRule) : String :=
  resolveLoopbackShorthand rule.backendAddr

/-- Destination of plaintext HTTP, falling back to the default backend. -/
def BackendRule.resolvedHttpBackendAddr (rule : BackendRule) : String :=
  match rule.httpBackendAddr with
  | some address => resolveLoopbackShorthand address
  | none => rule.resolvedBackendAddr

def defaultRequestSubject : String := "tunnel.connect.request"

def defaultClaimAckTimeoutMs : ℕ := 1500

def defaultOAuthScopes : List String := ["openid", "profile", "email", "entitlements"]

def defaultOAuthRenewBeforeSeconds : ℕ := 60

def defaultRolesClaim : String := "groups"

def defaultJwtAlgorithms : List String := ["RS256"]

def defaultJwtLeewaySeconds : ℕ := 30

def defaultJwksCacheFile : String := "~/.cache/lfp-pipe/auth/jwks.json"

def defaultAcmeCacheDir : String := "~/.cache/lfp-pipe/acme"

def defaultJwksRefreshSeconds : ℕ := 3600

def defaultJwksMaxStaleSeconds : ℕ := 604800

def defaultAuthHeaderTimeoutMs : ℕ := 5000

def defaultAuthMaxHeaderBytes : ℕ := 32 * 1024

def defaultBrowserOidcScopes : List String := ["openid", "profile", "email", "groups"]

def defaultOidcCallbackPath : String := "/_lfp/auth/callback"

def defaultOidcLogoutPath : String := "/_lfp/auth/logout"

def defaultOidcSessionKeyFile : String := "~/.secrets/lfp-pipe/oidc-session-key"

def defaultOidcSessionTtlSeconds : ℕ := 8 * 60 * 60

example : resolveLoopbackShorthand ":7777" = "127.0.0.1:7777" := by decide

end LfpPipe.SharedConfig
