import LfpPipe.GoText
import LfpPipe.JsonValues
import LfpPipe.RemotePrograms

/-!
# The administrative interface of Authentik

Requests and stored objects follow `controlplane/internal/authentik/client.go`
and the types of `provisioner.go`. Authentik itself is the service behind the
calls, with what the callers rely on of its documented endpoints: lists are
answered one page at a time in a fixed order and only the first page is ever
asked for, a change of attributes or of redirect URIs replaces the whole value,
and names that must be unique are checked. The keys and passwords that it draws
are a parameter. A failed call is its message.
-/

namespace LfpPipe.AuthentikApi

open GoText JsonValues RemotePrograms

/-- A user, in particular a service account. -/
structure User where
  /-- Primary key. -/
  pk : ℤ
  /-- Login name. -/
  username : String
  /-- Display name. -/
  name : String
  /-- The user is a service account. -/
  serviceAccount : Bool
  /-- The user may sign in. -/
  isActive : Bool
  /-- The user administers Authentik. -/
  isSuperuser : Bool
  /-- Custom attributes. -/
  attributes : Fields

/-- The answer to the creation of a service account. -/
structure CreatedServiceAccount where
  /-- Login name. -/
  username : String
  /-- The one-time app password. -/
  token : String
  /-- Primary key of the user. -/
  userPK : ℤ
  deriving DecidableEq, Repr

/-- An application. -/
structure Application where
  /-- Primary key. -/
  pk : String
  /-- Display name. -/
  name : String
  /-- Unique short name. -/
  slug : String
  /-- The provider behind it. -/
  provider : Option ℤ
  deriving DecidableEq, Repr

/-- An entitlement of an application. -/
structure Entitlement where
  /-- Its name. -/
  name : String
  /-- What users are bound to. -/
  pbmUUID : String
  /-- Primary key of the application. -/
  app : String
  deriving DecidableEq, Repr

/-- A user bound to a target. -/
structure Binding where
  /-- Primary key of the user. -/
  user : ℤ
  /-- What the user is bound to. -/
  target : String
  deriving DecidableEq, Repr

/-- A registered redirect. -/
structure RedirectURI where
  /-- How requested redirects are compared with it. -/
  matchingMode : String
  /-- The redirect itself. -/
  url : String
  /-- What the redirect is for. -/
  redirectURIType : String
  deriving DecidableEq, Repr

/-- An OAuth provider. -/
structure OAuthProvider where
  /-- Primary key. -/
  pk : ℤ
  /-- Unique name. -/
  name : String
  /-- Flow that authenticates. -/
  authenticationFlow : Option String
  /-- Flow that authorizes. -/
  authorizationFlow : String
  /-- Flow that ends sessions. -/
  invalidationFlow : String
  /-- Property mappings. -/
  propertyMappings : List String
  /-- Short name of the application it belongs to, or the empty text. -/
  assignedApplicationSlug : String
  /-- Whether the client keeps a secret. -/
  clientType : String
  /-- Unique client identifier. -/
  clientID : String
  /-- Whether tokens carry all claims. -/
  includeClaimsInIDToken : Bool
  /-- Key that signs tokens. -/
  signingKey : Option String
  /-- Registered redirects. -/
  redirectURIs : List RedirectURI
  /-- How subjects are derived. -/
  subMode : String
  deriving DecidableEq, Repr

/-- A group. -/
structure Group where
  /-- Primary key. -/
  pk : String
  /-- Its name. -/
  name : String
  deriving DecidableEq, Repr

/-- The objects that Authentik stores. -/
structure Authentik where
  /-- Users, in the order of lists. -/
  users : List User
  /-- Applications. -/
  applications : List Application
  /-- Entitlements. -/
  entitlements : List Entitlement
  /-- Bindings of users. -/
  bindings : List Binding
  /-- OAuth providers. -/
  providers : List OAuthProvider
  /-- Groups. -/
  groups : List Group

/-- The keys and defaults that Authentik chooses for new objects. -/
structure Allocator where
  /-- Key of a new user. -/
  userPK : List User → ℤ
  /-- It is not in use. -/
  userPK_fresh : ∀ users, ∀ user ∈ users, user.pk ≠ userPK users
  /-- App password of a new service account. -/
  appPassword : List User → String
  /-- Attributes of a new service account. -/
  newAttributes : Fields
  /-- Key of a new provider. -/
  providerPK : List OAuthProvider → ℤ
  /-- It is not in use. -/
  providerPK_fresh : ∀ providers, ∀ provider ∈ providers, provider.pk ≠ providerPK providers
  /-- Key of a new application. -/
  applicationPK : List Application → String
  /-- Key of a new group. -/
  groupPK : List Group → String

/-- One request to Authentik. -/
inductive Request where
  /-- The first hundred service accounts. -/
  | listServiceAccounts
  /-- One user. -/
  | getUser (pk : ℤ)
  /-- The first two users with a login name. -/
  | findUsers (username : String)
  /-- Create a service account that does not expire. -/
  | createServiceAccount (name : String)
  /-- Replace the attributes of a user. -/
  | updateUserAttributes (pk : ℤ) (attributes : Fields)
  /-- Delete a user with its bindings. -/
  | deleteUser (pk : ℤ)
  /-- The first hundred applications. -/
  | listApplications
  /-- The first hundred entitlements of an application. -/
  | listEntitlements (app : String)
  /-- Bind a user to a target. -/
  | bindUser (user : ℤ) (target : String)
  /-- The first thousand OAuth providers. -/
  | listProviders
  /-- Create an OAuth provider; the key in the body is ignored. -/
  | createProvider (body : OAuthProvider)
  /-- Replace the redirects of a provider. -/
  | updateRedirectURIs (pk : ℤ) (redirectURIs : List RedirectURI)
  /-- Create an application on a provider. -/
  | createApplication (name slug : String) (provider : ℤ)
  /-- The first two applications with a short name. -/
  | findApplications (slug : String)
  /-- The first hundred groups with a name. -/
  | findGroups (name : String)
  /-- Create a group. -/
  | createGroup (name : String)

/-- What a request is answered with. -/
def Reply : Request → Type
  | .listServiceAccounts => List User
  | .getUser _ => User
  | .findUsers _ => List User
  | .createServiceAccount _ => CreatedServiceAccount
  | .updateUserAttributes _ _ => Unit
  | .deleteUser _ => Unit
  | .listApplications => List Application
  | .listEntitlements _ => List Entitlement
  | .bindUser _ _ => Unit
  | .listProviders => List OAuthProvider
  | .createProvider _ => OAuthProvider
  | .updateRedirectURIs _ _ => OAuthProvider
  | .createApplication _ _ _ => Application
  | .findApplications _ => List Application
  | .findGroups _ => List Group
  | .createGroup _ => Group

/-- An answer, or the message of a failed call. -/
abbrev Answer (request : Request) : Type := Except String (Reply request)

/-- A program that calls Authentik. -/
abbrev Api (Result : Type) : Type := Program Request Answer Result

/-- Rejection of a request for an object that does not exist. -/
def notFound : String := "Authentik API returned 404 Not Found"

/-- Rejection of a value that must be unique. -/
def notUnique : String := "Authentik API returned 400 Bad Request"

/-- The service account that a creation makes. -/
def newServiceAccount (alloc : Allocator) (users : List User) (name : String) : User where
  pk := alloc.userPK users
  username := name
  name := name
  serviceAccount := true
  isActive := true
  isSuperuser := false
  attributes := alloc.newAttributes

/-- How Authentik acts on a request and answers it. -/
def apply (alloc : Allocator) (s : Authentik) : (request : Request) → Authentik × Answer request
  | .listServiceAccounts => (s, .ok ((s.users.filter User.serviceAccount).take 100))
  | .getUser pk =>
    match s.users.find? (·.pk == pk) with
    | none => (s, .error notFound)
    | some user => (s, .ok user)
  | .findUsers username => (s, .ok ((s.users.filter (·.username == username)).take 2))
  | .createServiceAccount name =>
    if s.users.any (·.username == name) then (s, .error notUnique)
    else
      ({ s with users := s.users ++ [newServiceAccount alloc s.users name] },
        .ok ⟨name, alloc.appPassword s.users, alloc.userPK s.users⟩)
  | .updateUserAttributes pk attributes =>
    if s.users.any (·.pk == pk) then
      ({ s with users := s.users.map fun user =>
          if user.pk == pk then { user with attributes := attributes } else user }, .ok ())
    else (s, .error notFound)
  | .deleteUser pk =>
    if s.users.any (·.pk == pk) then
      ({ s with
          users := s.users.filter (·.pk != pk)
          bindings := s.bindings.filter (·.user != pk) }, .ok ())
    else (s, .error notFound)
  | .listApplications => (s, .ok (s.applications.take 100))
  | .listEntitlements app => (s, .ok ((s.entitlements.filter (·.app == app)).take 100))
  | .bindUser user target =>
    if s.users.any (·.pk == user) then
      ({ s with bindings := s.bindings ++ [⟨user, target⟩] }, .ok ())
    else (s, .error notFound)
  | .listProviders => (s, .ok (s.providers.take 1000))
  | .createProvider body =>
    if s.providers.any fun provider =>
        provider.name == body.name || provider.clientID == body.clientID then
      (s, .error notUnique)
    else
      let provider :=
        { body with pk := alloc.providerPK s.providers, assignedApplicationSlug := "" }
      ({ s with providers := s.providers ++ [provider] }, .ok provider)
  | .updateRedirectURIs pk redirectURIs =>
    match s.providers.find? (·.pk == pk) with
    | none => (s, .error notFound)
    | some provider =>
      ({ s with providers := s.providers.map fun provider =>
          if provider.pk == pk then { provider with redirectURIs := redirectURIs }
          else provider },
        .ok { provider with redirectURIs := redirectURIs })
  | .createApplication name slug provider =>
    if s.applications.any (·.slug == slug) then (s, .error notUnique)
    else
      let application : Application :=
        ⟨alloc.applicationPK s.applications, name, slug, some provider⟩
      ({ s with
          applications := s.applications ++ [application]
          providers := s.providers.map fun candidate =>
            if candidate.pk == provider then { candidate with assignedApplicationSlug := slug }
            else candidate }, .ok application)
  | .findApplications slug => (s, .ok ((s.applications.filter (·.slug == slug)).take 2))
  | .findGroups name => (s, .ok ((s.groups.filter (·.name == name)).take 100))
  | .createGroup name =>
    if s.groups.any (·.name == name) then (s, .error notUnique)
    else
      let group : Group := ⟨alloc.groupPK s.groups, name⟩
      ({ s with groups := s.groups ++ [group] }, .ok group)

/-- Requests that only read. -/
def Reads : Request → Prop
  | .listServiceAccounts => True
  | .getUser _ => True
  | .findUsers _ => True
  | .listApplications => True
  | .listEntitlements _ => True
  | .listProviders => True
  | .findApplications _ => True
  | .findGroups _ => True
  | _ => False

section

variable (float : FloatReader)

/-- The message about attributes with a number out of range, which it quotes. -/
def decodeFailure (place : String) (attributes : Fields) : String :=
  "decode Authentik response: json: cannot unmarshal number " ++
    (refusedFields float attributes).getD "" ++ " into Go struct field User." ++ place ++
    " of type float64"

/-- A user as it is decoded: its attributes become untyped values. -/
def decodeUser (user : User) : Except String User :=
  match recodeFields float user.attributes with
  | none => .error (decodeFailure float "attributes" user.attributes)
  | some attributes => .ok { user with attributes := attributes }

/-- A page of users as it is decoded. -/
def decodeUsers : List User → Except String (List User)
  | [] => .ok []
  | user :: users =>
    match decodeUser float user with
    | .error _ => .error (decodeFailure float "results.attributes" user.attributes)
    | .ok user =>
      match decodeUsers users with
      | .error message => .error message
      | .ok users => .ok (user :: users)

/-- Service accounts, for owner filtering by the caller. -/
def listServiceAccounts : Api (Except String (List User)) := do
  match ← Program.send Request.listServiceAccounts with
  | .error message => pure (.error message)
  | .ok users => pure (decodeUsers float users)

/-- One user. -/
def getUser (pk : ℤ) : Api (Except String User) := do
  match ← Program.send (Request.getUser pk) with
  | .error message => pure (.error message)
  | .ok user => pure (decodeUser float user)

/-- The user with an exact login name. -/
def findUserByUsername (print : PrintTable) (username : String) : Api (Except String User) := do
  match ← Program.send (Request.findUsers username) with
  | .error message => pure (.error message)
  | .ok users =>
    match decodeUsers float users with
    | .error message => pure (.error message)
    | .ok users =>
      match users.find? (·.username == username) with
      | none => pure (.error ("Authentik user " ++ quote print username ++ " was not found"))
      | some user => pure (.ok user)

end

/-- An entitlement within the configured application. -/
def findEntitlement (print : PrintTable) (appSlug name : String) :
    Api (Except String Entitlement) := do
  match ← Program.send Request.listApplications with
  | .error message => pure (.error message)
  | .ok applications =>
    let appPK := ((applications.find? (·.slug == appSlug)).map Application.pk).getD ""
    if appPK == "" then
      pure (.error ("Authentik application " ++ quote print appSlug ++ " was not found"))
    else
      match ← Program.send (Request.listEntitlements appPK) with
      | .error message => pure (.error message)
      | .ok entitlements =>
        match entitlements.find? (·.name == name) with
        | none => pure (.error ("Authentik entitlement " ++ quote print name ++ " was not found"))
        | some entitlement => pure (.ok entitlement)

/-- The search for an entitlement only reads. -/
theorem findEntitlement_reads (print : PrintTable) (appSlug name : String) :
    (findEntitlement print appSlug name).SendsOnly Reads := by
  rw [findEntitlement, Program.send_bind]
  refine ⟨trivial, fun answer => ?_⟩
  cases answer with
  | error message => trivial
  | ok applications =>
    dsimp only
    split
    · trivial
    · rw [Program.send_bind]
      refine ⟨trivial, fun answer => ?_⟩
      cases answer with
      | error message => trivial
      | ok entitlements =>
        dsimp only
        split <;> trivial

/-- The next key of a numbering that starts at one. -/
def nextKey (keys : List ℤ) : ℤ := keys.foldr (fun key next => max (key + 1) next) 1

/-- The next key is greater than all keys. -/
theorem lt_nextKey {keys : List ℤ} {key : ℤ} (h : key ∈ keys) : key < nextKey keys := by
  induction keys with
  | nil => cases h
  | cons first keys ih =>
    have hnext : nextKey (first :: keys) = max (first + 1) (nextKey keys) := rfl
    rw [hnext]
    rcases List.mem_cons.mp h with rfl | h
    · omega
    · have hlt := ih h
      omega

/-- Keys that are counted, and no attributes at first. -/
def countingAllocator : Allocator where
  userPK users := nextKey (users.map User.pk)
  userPK_fresh _ _ h := Int.ne_of_lt (lt_nextKey (List.mem_map_of_mem h))
  appPassword _ := "app-password"
  newAttributes := []
  providerPK providers := nextKey (providers.map OAuthProvider.pk)
  providerPK_fresh _ _ h := Int.ne_of_lt (lt_nextKey (List.mem_map_of_mem h))
  applicationPK applications := "application-" ++ toString applications.length
  groupPK groups := "group-" ++ toString groups.length

end LfpPipe.AuthentikApi
