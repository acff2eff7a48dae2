import LfpPipe.AuthentikApi
import LfpPipe.DeviceEnrollment
import LfpPipe.DevicePresence

/-!
# Service principals

Translated from the service-principal handlers of
`controlplane/internal/httpapi/server.go`. A principal is a service account
of Authentik whose attributes carry a table of ownership metadata and its
client configuration. The handlers are programs over the calls of the
administrative interface. The verified session, the decoded body, the source
of randomness and the clock are inputs; the hash function, the number
conversion of the JSON package and the Unicode tables are parameters.
-/

namespace LfpPipe.ServicePrincipals

open GoText RouteAuth TunnelTickets JsonValues RemotePrograms AuthentikApi DeviceEnrollment
open DevicePresence

/-- The settings of the control plane that the handlers read. -/
structure ServerConfig extends TunnelTickets.Config where
  /-- Public address of the control plane. -/
  publicURL : String
  /-- Short name of the application that has the entitlements. -/
  authentikApplicationSlug : String
  /-- Token endpoint. -/
  oauthTokenURL : String
  /-- Client identifier at the identity provider. -/
  oidcClientID : String
  /-- Scopes that are asked for. -/
  oidcScopes : List String
  deriving DecidableEq, Repr

/-- What the attributes of a user say about a principal. -/
structure PrincipalMetadata where
  /-- The account belongs to this program. -/
  managed : Bool
  /-- Subject of the owner. -/
  ownerSubject : String
  /-- Mail address of the owner. -/
  ownerEmail : String
  /-- Client identifier. -/
  clientID : String
  /-- Entitlement of the principal. -/
  entitlement : String
  /-- Stored client configuration. -/
  configTOML : String
  deriving DecidableEq, Repr

/-- The table of the metadata inside the attributes. -/
def metadataRoot (attributes : Fields) : Fields := Json.fieldsOr (attributes.lookup "lfp_pipe")

/-- Read the metadata; a missing value or one of another type is empty. -/
def metadataFromUser (user : User) : PrincipalMetadata :=
  let root := metadataRoot user.attributes
  { managed := Json.boolOr (root.lookup "managed")
    ownerSubject := Json.textOr (root.lookup "owner_subject")
    ownerEmail := Json.textOr (root.lookup "owner_email")
    clientID := Json.textOr (root.lookup "client_id")
    entitlement := Json.textOr (root.lookup "entitlement")
    configTOML := Json.textOr (root.lookup "config_toml") }

/-- The attributes of a new principal. -/
def principalAttributes (session : BrowserSession) (clientID entitlement configTOML : String) :
    Fields :=
  [("lfp_pipe", .object
    [("managed", .bool true), ("owner_subject", .string session.subject),
      ("owner_email", .string session.email), ("client_id", .string clientID),
      ("entitlement", .string entitlement), ("config_toml", .string configTOML)])]

/-- Whether a session owns the account with the given metadata. -/
def PrincipalMetadata.ownedBy (metadata : PrincipalMetadata) (session : BrowserSession) : Bool :=
  metadata.managed && metadata.ownerSubject == session.subject

/-- The configuration that a new principal starts with. -/
def defaultClientConfig (print : PrintTable) (config : ServerConfig)
    (clientID hostname username : String) : String :=
  let natsURL := config.natsPublicURLs.headD "tls://nats.example.com:443"
  "[defaults]\nnats_url = " ++ quote print natsURL ++
    "\nrelay_mode = \"auto\"\nclaim_ack_timeout_ms = 1500\nbackend_addr = \"127.0.0.1:443\"\n" ++
    "http_backend_addr = \"127.0.0.1:80\"\n\n[defaults.acme]\nproduction = true\n\n" ++
    "[defaults.oauth]\ntoken_url = " ++ quote print config.oauthTokenURL ++
    "\nprovider_client_id = " ++ quote print config.oidcClientID ++
    "\nusername = " ++ quote print username ++
    "\nclient_secret_file = \"__central__\"\ncontrol_plane_url = " ++
    quote print config.publicURL ++
    "\nscopes = [\"openid\", \"profile\", \"entitlements\"]\nrenew_before_seconds = 60\n\n" ++
    "[[routes]]\nclient_id = " ++ quote print clientID ++
    "\nhostname = " ++ quote print hostname ++ "\n"

/-- Lowercase hexadecimal digits of some bytes. -/
def hexEncode (bytes : List UInt8) : String :=
  String.ofList (bytes.flatMap fun byte => hexDigits 2 byte.toNat)

/-- The revision of a configuration. -/
def configRevision (sha256 : List UInt8 → List UInt8) (configTOML : String) : String :=
  hexEncode (sha256 (configTOML.toList.flatMap String.utf8EncodeChar))

/-- Body of a request for a principal. -/
structure PrincipalRequest where
  /-- Display name. -/
  name : String
  /-- Wanted entitlement. -/
  entitlement : String
  deriving DecidableEq, Repr

/-- Settings that a new principal is given to sign in. -/
structure OAuthSettings where
  /-- Token endpoint. -/
  tokenURL : String
  /-- Client identifier at the identity provider. -/
  clientID : String
  /-- Address of the control plane. -/
  controlPlaneURL : String
  /-- Scopes to ask for. -/
  scopes : List String
  /-- Addresses to connect to. -/
  natsURLs : List String
  deriving DecidableEq, Repr

/-- The answer of status 201 to a request for a principal. -/
structure CreatedPrincipal where
  /-- The principal itself. -/
  principal : ServicePrincipal
  /-- Its secret, shown once. -/
  clientSecret : String
  /-- How to sign in. -/
  oauth : OAuthSettings
  deriving DecidableEq, Repr

/-- What a request for a principal or a claim may create. -/
structure Admitted where
  /-- Who asks. -/
  session : BrowserSession
  /-- Client identifier of the principal. -/
  clientID : String
  /-- Its entitlement, in normal form. -/
  entitlement : String
  deriving DecidableEq, Repr

section

variable (table : LowerTable) (idna : Idna) (print : PrintTable) (config : ServerConfig)

/-- The checks before a principal is created. -/
def admitPrincipal (checked : ℤ) (credentials : Credentials) (body : Option PrincipalRequest) :
    Except HttpError Admitted :=
  match requireSession checked credentials with
  | .error _ => .error signIn
  | .ok session =>
    match body with
    | none => .error ⟨400, "Provide a name and entitlement."⟩
    | some request =>
      match clientID table request.name with
      | .error message => .error ⟨400, message⟩
      | .ok name =>
        match ownedEntitlement table idna session.entitlements request.entitlement
            config.allowedRouteSuffix with
        | .error message => .error ⟨403, message⟩
        | .ok entitlement => .ok ⟨session, name, entitlement⟩

/-- Answer to the creation of a principal. -/
def createdPrincipal (admitted : Admitted) (displayName : String)
    (created : CreatedServiceAccount) : CreatedPrincipal where
  principal := ⟨created.userPK, created.username, displayName, admitted.clientID,
    admitted.entitlement⟩
  clientSecret := created.token
  oauth := ⟨config.oauthTokenURL, config.oidcClientID, config.publicURL, config.oidcScopes,
    config.natsPublicURLs⟩

/-- Store the metadata of a new account and bind it; an account that could not
be completed is deleted. -/
def completePrincipal (admitted : Admitted) (target : Entitlement) (displayName : String)
    (created : CreatedServiceAccount) : Api (Except HttpError CreatedPrincipal) := do
  let attributes := principalAttributes admitted.session admitted.clientID admitted.entitlement
    (defaultClientConfig print config admitted.clientID admitted.entitlement created.username)
  match ← Program.send (Request.updateUserAttributes created.userPK attributes) with
  | .error _ => do
    let _ ← Program.send (Request.deleteUser created.userPK)
    pure (.error internalError)
  | .ok _ =>
    match ← Program.send (Request.bindUser created.userPK target.pbmUUID) with
    | .error _ => do
      let _ ← Program.send (Request.deleteUser created.userPK)
      pure (.error internalError)
    | .ok _ => pure (.ok (createdPrincipal config admitted displayName created))

/-- Create a principal; the display name ends with random digits. -/
def createServicePrincipal (checked : ℤ) (credentials : Credentials)
    (body : Option PrincipalRequest) (random : Option String) :
    Api (Except HttpError CreatedPrincipal) :=
  match admitPrincipal table idna config checked credentials body with
  | .error error => pure (.error error)
  | .ok admitted => do
    match ← findEntitlement print config.authentikApplicationSlug admitted.entitlement with
    | .error _ => pure (.error internalError)
    | .ok target =>
      match random with
      | none => pure (.error internalError)
      | some digits =>
        let displayName := "lfp-pipe-" ++ admitted.clientID ++ "-" ++ digits
        match ← Program.send (Request.createServiceAccount displayName) with
        | .error _ => pure (.error internalError)
        | .ok created => completePrincipal print config admitted target displayName created

/-- The checks before a claim creates an account; the record is the one that
is registered under the code. -/
def admitClaim (checked : ℤ) (credentials : Credentials) (requested : Option String)
    (enrollment : Option Enrollment) (now : ℤ) : Except HttpError (Admitted × Enrollment) :=
  match requireSession checked credentials with
  | .error _ => .error signIn
  | .ok session =>
    match requested with
    | none => .error ⟨400, "Entitlement is required."⟩
    | some requested =>
      match ownedEntitlement table idna session.entitlements requested
          config.allowedRouteSuffix with
      | .error message => .error ⟨403, message⟩
      | .ok entitlement =>
        match enrollment with
        | none => .error enrollmentExpired
        | some enrollment =>
          if enrollment.expires < now then .error enrollmentExpired
          else
            let name := match clientID table enrollment.name with
              | .ok name => name
              | .error _ => "managed-client"
            .ok (⟨session, name, entitlement⟩, enrollment)

/-- Store the metadata of a claimed account and try to bind it. Neither the
search for the entitlement nor the binding is checked, and nothing is
deleted. The result is the record as it is written, and the principal that is
answered. -/
def completeClaim (admitted : Admitted) (enrollment : Enrollment)
    (created : CreatedServiceAccount) :
    Api (Except HttpError (Enrollment × ServicePrincipal)) := do
  let attributes := principalAttributes admitted.session admitted.clientID admitted.entitlement
    (defaultClientConfig print config admitted.clientID admitted.entitlement created.username)
  match ← Program.send (Request.updateUserAttributes created.userPK attributes) with
  | .error _ => pure (.error internalError)
  | .ok _ =>
    let account : Account := ⟨created.userPK, created.username, created.token⟩
    let claimed : Enrollment × ServicePrincipal := (enrollment.write account,
      ⟨created.userPK, created.username, enrollment.name, admitted.clientID,
        admitted.entitlement⟩)
    match ← findEntitlement print config.authentikApplicationSlug admitted.entitlement with
    | .error _ => pure (.ok claimed)
    | .ok target => do
      let _ ← Program.send (Request.bindUser created.userPK target.pbmUUID)
      pure (.ok claimed)

/-- Claim an enrollment. -/
def claimPrincipal (checked : ℤ) (credentials : Credentials) (requested : Option String)
    (enrollment : Option Enrollment) (now : ℤ) :
    Api (Except HttpError (Enrollment × ServicePrincipal)) :=
  match admitClaim table idna config checked credentials requested enrollment now with
  | .error error => pure (.error error)
  | .ok (admitted, enrollment) => do
    match ← Program.send (Request.createServiceAccount admitted.clientID) with
    | .error _ => pure (.error internalError)
    | .ok created => completeClaim print config admitted enrollment created

end

section

variable (float : FloatReader)

/-- The number in a path, when it can be a primary key. -/
def principalID (id : String) : Option ℤ := (atoi id).filter fun number => 1 ≤ number

/-- The account that a path names, when the signed-in user owns it. -/
def ownedPrincipal (checked : ℤ) (credentials : Credentials) (id : String) :
    Api (Except String (User × PrincipalMetadata)) :=
  match requireSession checked credentials with
  | .error _ => pure (.error "authentication required")
  | .ok session =>
    match principalID id with
    | none => pure (.error "invalid principal ID")
    | some pk => do
      match ← getUser float pk with
      | .error message => pure (.error message)
      | .ok user =>
        if !(metadataFromUser user).ownedBy session then
          pure (.error "principal is not owned by this user")
        else pure (.ok (user, metadataFromUser user))

/-- Store the configuration of a principal and wake its client; the name is
also announced to the other replicas. -/
def putServicePrincipalConfig (checked : ℤ) (credentials : Credentials) (id : String)
    (body : Option String) (registry : Registry) :
    Api (Registry × Option String × Except HttpError String) := do
  match ← ownedPrincipal float checked credentials id with
  | .error message => pure (registry, none, .error ⟨403, message⟩)
  | .ok (user, _) =>
    let refused : HttpError := ⟨400, "Provide a non-empty TOML configuration."⟩
    match body with
    | none => pure (registry, none, .error refused)
    | some configTOML =>
      if trimSpace configTOML == "" then pure (registry, none, .error refused)
      else
        let root := (metadataRoot user.attributes).set "config_toml" (.string configTOML)
        match ← Program.send
            (Request.updateUserAttributes user.pk [("lfp_pipe", .object root)]) with
        | .error _ => pure (registry, none, .error internalError)
        | .ok _ => pure (registry.notify user.username, some user.username, .ok configTOML)

/-- The configuration that a machine is answered with. -/
structure MachineConfig where
  /-- The document. -/
  configTOML : String
  /-- Its revision. -/
  configRevision : String
  /-- User name of the machine. -/
  username : String
  deriving DecidableEq, Repr

/-- Whether an account has a configuration for a machine. -/
def User.configures (username : String) (user : User) : Bool :=
  user.username == username && (metadataFromUser user).managed &&
    (metadataFromUser user).configTOML != ""

variable (sha256 : List UInt8 → List UInt8)

/-- The answer for a machine whose account has a configuration. -/
def machineConfig (username : String) (user : User) : MachineConfig :=
  ⟨(metadataFromUser user).configTOML, configRevision sha256 (metadataFromUser user).configTOML,
    username⟩

/-- Hand a machine its configuration and record its presence. -/
def getMachineClientConfig (verify : String → Except String BrowserSession) (checked now : ℤ)
    (credentials : Credentials) (headers : DeviceHeaders) (registry : Registry) :
    Api (Registry × Option DeviceState × Except HttpError MachineConfig) :=
  let refused : HttpError := ⟨401, "An Authentik machine token is required."⟩
  match requireIdentity verify checked credentials with
  | .error _ => pure (registry, none, .error refused)
  | .ok identity =>
    if identity.username == "" then pure (registry, none, .error refused)
    else do
      let (registry, device) := registry.recordDevicePresence identity.username headers now
      match ← listServiceAccounts float with
      | .error _ => pure (registry, some device, .error internalError)
      | .ok users =>
        match users.find? (User.configures identity.username) with
        | none =>
          pure (registry, some device,
            .error ⟨404, "No central configuration is assigned to this client."⟩)
        | some user =>
          pure (registry, some device, .ok (machineConfig sha256 identity.username user))

end

end LfpPipe.ServicePrincipals
