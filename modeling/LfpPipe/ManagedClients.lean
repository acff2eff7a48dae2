import LfpPipe.ServicePrincipals
import LfpPipe.IdentityProvisioning

/-!
# Managed clients in the console

Translated from `provisionIdentityApplication`, `listManagedClients`,
`getManagedClientEvents` and their helpers of the HTTP API. The states that the
console shows are made from the accounts of the signed-in user and the presence
registry of the replica. The stream of states is a list of ticks: presence may
have changed, or it is time to read the accounts again. The JSON encoder, the
hash function and the clock are parameters.
-/

namespace LfpPipe.ManagedClients

open RustText GoText OwnedTables RouteAuth TunnelTickets JsonValues RemotePrograms AuthentikApi
open DeviceEnrollment DevicePresence ServicePrincipals IdentityProvisioning

section

variable (float : FloatReader)

end

section

variable (sha256 : List UInt8 → List UInt8)

variable (clock : String → ℤ)

end

section

variable {sha256 : List UInt8 → List UInt8} {clock : String → ℤ}

/-- The entries of a registry list under one login name. -/
def entriesOf (username : String) (devices : List DeviceState) : List DeviceState :=
  devices.filter fun device => device.username == username

end

section

variable (float : FloatReader) (sha256 : List UInt8 → List UInt8)

variable (marshal : List DeviceState → Option String)

end

/-- Body of a request for an identity application. -/
structure ProvisionRequest where
  /-- Hostname of the route. -/
  hostname : String
  /-- Path of the callback; the default one when it is blank. -/
  callbackPath : String
  /-- Group that may use the route. -/
  group : String
  deriving DecidableEq, Repr

/-- Whether a hostname lies within an entitlement. -/
def hostnameBelongsTo (hostname entitlement : String) : Bool :=
  let entitlement := trimPrefix (trimSpace entitlement) "route:"
  hostname == entitlement || hasSuffix hostname ("." ++ entitlement)

/-- A reserved callback path, or the default one. -/
def normalizeIdentityCallbackPath (value : String) : Except String String :=
  let value := trimSpace value
  if value == "" then .ok "/_lfp/auth/callback"
  else if !hasPrefix value "/_lfp/auth/" || containsAny value ['?', '#', '\r', '\n'] then
    .error "callback path must be a reserved /_lfp/auth/ path"
  else .ok value

section

variable (table : LowerTable) (idna : Idna) (print : PrintTable) (float : FloatReader)

/-- The checks of a request for an owned machine. -/
def admitApplication (metadata : PrincipalMetadata) (body : Option ProvisionRequest) :
    Except HttpError ApplicationRequest :=
  let outside : HttpError := ⟨403, "The hostname is outside this machine's authorized domain."⟩
  match body with
  | none => .error ⟨400, "Provide a hostname and optional group."⟩
  | some request =>
    match normalizeHostname table idna request.hostname with
    | .error _ => .error outside
    | .ok hostname =>
      if !hostnameBelongsTo hostname metadata.entitlement then .error outside
      else
        match normalizeIdentityCallbackPath request.callbackPath with
        | .error message => .error ⟨400, message⟩
        | .ok callbackPath =>
          let group := trimSpace request.group
          if 150 < group.utf8ByteSize || containsAny group ['\r', '\n', Char.ofNat 0] then
            .error ⟨400, "The group name is invalid."⟩
          else .ok ⟨hostname, callbackPath, group⟩

/-- Provisioning is for administrators of the identity provider. -/
def requireProvisioningAdmin (provisioner : Option Provisioner) (checked : ℤ)
    (credentials : Credentials) : Api (Except HttpError BrowserSession) :=
  match requireSession checked credentials with
  | .error _ => pure (.error ⟨401, "Sign in to continue."⟩)
  | .ok session =>
    match provisioner with
    | none => pure (.error ⟨404, "Identity provisioning is not enabled."⟩)
    | some _ => do
      match ← isAdmin print float session.username with
      | .error _ => pure (.error internalError)
      | .ok admin =>
        if !admin then pure (.error ⟨403, "Identity administrator access is required."⟩)
        else pure (.ok session)

/-- Register the callback of a route of an owned machine. The session is checked
a second time with the ownership. -/
def provisionIdentityApplication (provisioner : Option Provisioner) (checked rechecked : ℤ)
    (credentials : Credentials) (id : String) (body : Option ProvisionRequest) :
    Api (Except HttpError ApplicationResult) := do
  match ← requireProvisioningAdmin print float provisioner checked credentials with
  | .error error => pure (.error error)
  | .ok _ =>
    match ← ownedPrincipal float rechecked credentials id with
    | .error message => pure (.error ⟨403, message⟩)
    | .ok (_, metadata) =>
      match admitApplication table idna metadata body with
      | .error error => pure (.error error)
      | .ok request =>
        match provisioner with
        | none => pure (.error internalError)
        | some p =>
          match ← p.provisionApplication print request with
          | .error _ => pure (.error internalError)
          | .ok result => pure (.ok result)

end

end LfpPipe.ManagedClients
