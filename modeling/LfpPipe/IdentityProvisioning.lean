import Mathlib.Data.List.Nodup
import LfpPipe.AuthentikApi

/-!
# Provisioning of identity applications

Translated from `controlplane/internal/authentik/provisioner.go`. Browser
sign-in for routes uses one application with a public OAuth provider. It is
looked for through the application that a provider is assigned to, created
from the provider of another application when it is missing, and the callback
of each route is added to its redirects. The calls of one request are a
program; the mutex of a replica only keeps its own requests apart.
-/

namespace LfpPipe.IdentityProvisioning

open GoText JsonValues RemotePrograms AuthentikApi

/-- Redirects that are compared as they are. -/
def strictRedirect : String := "strict"

/-- Clients that keep no secret. -/
def publicClient : String := "public"

/-- The settings of the provisioner. -/
structure Provisioner where
  /-- Short name of the application whose provider is copied. -/
  sourceAppSlug : String
  /-- Short name of the application for routes. -/
  routeAppSlug : String
  /-- Its display name, also the name of its provider. -/
  routeAppName : String
  /-- Address of Authentik. -/
  issuerBaseURL : String
  /-- The configuration is refused without a short name. -/
  routeAppSlug_ne : routeAppSlug ≠ ""

/-- The access that is asked for. -/
structure ApplicationRequest where
  /-- Hostname of the route. -/
  hostname : String
  /-- Path of the callback. -/
  callbackPath : String
  /-- Group that may use the route; none when it is empty. -/
  group : String
  deriving DecidableEq, Repr

/-- The settings that a client needs. -/
structure ApplicationResult where
  /-- Kind of the identity provider. -/
  providerID : String
  /-- Display name of the application. -/
  application : String
  /-- Issuer of tokens. -/
  issuer : String
  /-- Client identifier. -/
  clientID : String
  /-- Scopes to ask for. -/
  scopes : List String
  /-- Path of the callback. -/
  callbackPath : String
  /-- The whole callback. -/
  callbackURL : String
  /-- Name of the group. -/
  group : String
  /-- What this request has created. -/
  createdObjects : List String
  deriving DecidableEq, Repr

/-- The callback of a request. -/
def ApplicationRequest.callbackURL (request : ApplicationRequest) : String :=
  "https://" ++ request.hostname ++ request.callbackPath

/-- The redirect of a callback. -/
def callbackRedirect (callbackURL : String) : RedirectURI :=
  ⟨strictRedirect, callbackURL, "authorization"⟩

/-- Whether a provider has the callback as it is. -/
def hasCallback (callbackURL : String) (provider : OAuthProvider) : Bool :=
  provider.redirectURIs.any fun redirect =>
    redirect.url == callbackURL && redirect.matchingMode == strictRedirect

/-- Whether a provider is the one of an application. -/
def assignedTo (appSlug : String) (provider : OAuthProvider) : Bool :=
  provider.assignedApplicationSlug == appSlug

/-- Look for the provider of an application. -/
def findProvider (appSlug : String) : Api (Except String (Option OAuthProvider)) := do
  match ← Program.send Request.listProviders with
  | .error message => pure (.error message)
  | .ok providers => pure (.ok (providers.find? (assignedTo appSlug)))

/-- Look for an application. -/
def findApplication (slug : String) : Api (Except String (Option Application)) := do
  match ← Program.send (Request.findApplications slug) with
  | .error message => pure (.error message)
  | .ok applications => pure (.ok (applications.find? (·.slug == slug)))

/-- Create a group unless it exists. -/
def ensureGroup (name : String) : Api (Except String Bool) := do
  match ← Program.send (Request.findGroups name) with
  | .error message => pure (.error message)
  | .ok groups =>
    if groups.any (·.name == name) then pure (.ok false)
    else
      match ← Program.send (Request.createGroup name) with
      | .error message => pure (.error ("create Authentik group: " ++ message))
      | .ok _ => pure (.ok true)

section

variable (print : PrintTable) (p : Provisioner)

/-- The provider that is created for routes. -/
def Provisioner.providerBody (source : OAuthProvider) (callbackURL : String) : OAuthProvider where
  pk := 0
  name := p.routeAppName
  authenticationFlow := source.authenticationFlow
  authorizationFlow := source.authorizationFlow
  invalidationFlow := source.invalidationFlow
  propertyMappings := source.propertyMappings
  assignedApplicationSlug := ""
  clientType := publicClient
  clientID := p.routeAppSlug
  includeClaimsInIDToken := true
  signingKey := source.signingKey
  redirectURIs := [callbackRedirect callbackURL]
  subMode := source.subMode

/-- Add the callback to the provider that was read, unless it has it. -/
def Provisioner.registerCallback (callbackURL : String) (provider : OAuthProvider)
    (created : List String) : Api (Except String (OAuthProvider × List String)) :=
  if provider.clientType != publicClient then
    pure (.error ("Authentik application " ++ quote print p.routeAppSlug ++
      " must use a public OAuth client"))
  else if provider.clientID == "" then
    pure (.error ("Authentik application " ++ quote print p.routeAppSlug ++
      " has no OAuth client ID"))
  else if hasCallback callbackURL provider then pure (.ok (provider, created))
  else do
    match ← Program.send (Request.updateRedirectURIs provider.pk
        (provider.redirectURIs ++ [callbackRedirect callbackURL])) with
    | .error message => pure (.error ("add Authentik callback URI: " ++ message))
    | .ok provider => pure (.ok (provider, created ++ ["redirect_uri"]))

/-- Create the application on a provider that was created. An application that
exists by now is taken for the one of this provider. -/
def Provisioner.createApplication (callbackURL : String) (provider : OAuthProvider) :
    Api (Except String (OAuthProvider × List String)) := do
  match ← Program.send
      (Request.createApplication p.routeAppName p.routeAppSlug provider.pk) with
  | .error message =>
    match ← findApplication p.routeAppSlug with
    | .ok (some _) => p.registerCallback print callbackURL provider ["oauth_provider"]
    | _ => pure (.error ("create Authentik route application: " ++ message))
  | .ok _ => p.registerCallback print callbackURL provider ["oauth_provider", "application"]

/-- Create the provider from another one. A provider that another replica has
created in the meantime is taken when it is assigned already. -/
def Provisioner.createProvider (callbackURL : String) (source : OAuthProvider) :
    Api (Except String (OAuthProvider × List String)) := do
  match ← Program.send (Request.createProvider (p.providerBody source callbackURL)) with
  | .error message =>
    match ← findProvider p.routeAppSlug with
    | .ok (some current) => p.registerCallback print callbackURL current []
    | _ => pure (.error message)
  | .ok provider => p.createApplication print callbackURL provider

/-- Find or create the application for routes, with the callback. -/
def Provisioner.ensureRouteApplication (callbackURL : String) :
    Api (Except String (OAuthProvider × List String)) := do
  match ← findProvider p.routeAppSlug with
  | .error message => pure (.error message)
  | .ok (some provider) => p.registerCallback print callbackURL provider []
  | .ok none =>
    match ← findProvider p.sourceAppSlug with
    | .error message => pure (.error message)
    | .ok none =>
      pure (.error ("Authentik source application " ++ quote print p.sourceAppSlug ++
        " has no OAuth provider"))
    | .ok (some source) => p.createProvider print callbackURL source

/-- The answer to a request that succeeded. -/
def Provisioner.result (request : ApplicationRequest) (provider : OAuthProvider)
    (created : List String) : ApplicationResult where
  providerID := "authentik"
  application := p.routeAppName
  issuer := p.issuerBaseURL ++ "/application/o/" ++ p.routeAppSlug ++ "/"
  clientID := provider.clientID
  scopes := ["openid", "profile", "email"]
  callbackPath := request.callbackPath
  callbackURL := request.callbackURL
  group := trimSpace request.group
  createdObjects := created

/-- Go on with the group of a request. -/
def Provisioner.finish (request : ApplicationRequest) :
    Except String (OAuthProvider × List String) → Api (Except String ApplicationResult)
  | .error message => pure (.error message)
  | .ok (provider, created) =>
    if trimSpace request.group != "" then do
      match ← ensureGroup (trimSpace request.group) with
      | .error message => pure (.error message)
      | .ok groupCreated =>
        pure (.ok (p.result request provider
          (if groupCreated then created ++ ["group"] else created)))
    else pure (.ok (p.result request provider created))

/-- Handle one request. -/
def Provisioner.provisionApplication (request : ApplicationRequest) :
    Api (Except String ApplicationResult) := do
  p.finish request (← p.ensureRouteApplication print request.callbackURL)

/-- Whether a signed-in user administers Authentik. -/
def isAdmin (float : FloatReader) (username : String) : Api (Except String Bool) :=
  if trimSpace username == "" then pure (.ok false)
  else do
    match ← findUserByUsername float print username with
    | .error message => pure (.error message)
    | .ok user => pure (.ok (user.isActive && user.isSuperuser))

end

/-- Requests that leave the list of providers and the applications as they
are, except for redirects. -/
def Refines : Request → Prop
  | .listProviders => True
  | .updateRedirectURIs _ _ => True
  | .findApplications _ => True
  | .findGroups _ => True
  | .createGroup _ => True
  | _ => False

/-- The requests of the provisioner. -/
def Provisions (p : Provisioner) : Request → Prop
  | .createProvider body => body.name = p.routeAppName
  | .createApplication _ slug _ => slug = p.routeAppSlug
  | request => Refines request

section

variable {print : PrintTable} {p : Provisioner}

/-- Refining requests are requests of the provisioner. -/
theorem Refines.provisions {request : Request} (h : Refines request) : Provisions p request := by
  cases request <;> first | exact h | cases h

/-- A search for a provider asks once and goes on with what it found. -/
theorem findProvider_bind {Result : Type} (appSlug : String)
    (rest : Except String (Option OAuthProvider) → Api Result) :
    (findProvider appSlug >>= rest) = .call .listProviders fun answer =>
      rest (answer.map fun providers => providers.find? (assignedTo appSlug)) := by
  rw [findProvider, Program.send_bind, Program.call_bind]
  refine congrArg (Program.call Request.listProviders) (funext fun answer => ?_)
  cases answer with
  | error message => rfl
  | ok providers => rfl

/-- A search for an application asks once and goes on with what it found. -/
theorem findApplication_bind {Result : Type} (slug : String)
    (rest : Except String (Option Application) → Api Result) :
    (findApplication slug >>= rest) = .call (.findApplications slug) fun answer =>
      rest (answer.map fun applications => applications.find? (·.slug == slug)) := by
  rw [findApplication, Program.send_bind, Program.call_bind]
  refine congrArg (Program.call (Request.findApplications slug)) (funext fun answer => ?_)
  cases answer with
  | error message => rfl
  | ok applications => rfl

/-- The callback is added by a change of redirects. -/
theorem registerCallback_refines (callbackURL : String) (provider : OAuthProvider)
    (created : List String) :
    (p.registerCallback print callbackURL provider created).SendsOnly Refines := by
  rw [Provisioner.registerCallback]
  split
  · trivial
  · split
    · trivial
    · split
      · trivial
      · rw [Program.send_bind]
        refine ⟨trivial, fun answer => ?_⟩
        cases answer with
        | error message => trivial
        | ok provider => trivial

/-- The group of a request is looked for and created. -/
theorem finish_refines (request : ApplicationRequest)
    (ensured : Except String (OAuthProvider × List String)) :
    (p.finish request ensured).SendsOnly Refines := by
  cases ensured with
  | error message => trivial
  | ok ensured =>
    obtain ⟨provider, created⟩ := ensured
    rw [Provisioner.finish]
    split
    · refine Program.sendsOnly_bind ?_ fun result => ?_
      · rw [ensureGroup, Program.send_bind]
        refine ⟨trivial, fun answer => ?_⟩
        cases answer with
        | error message => trivial
        | ok groups =>
          dsimp only
          split
          · trivial
          · rw [Program.send_bind]
            refine ⟨trivial, fun answer => ?_⟩
            cases answer with
            | error message => trivial
            | ok group => trivial
      · cases result with
        | error message => trivial
        | ok groupCreated => trivial
    · trivial

/-- Creating the application sends one request more. -/
theorem createApplication_provisions (callbackURL : String) (provider : OAuthProvider) :
    (p.createApplication print callbackURL provider).SendsOnly (Provisions p) := by
  rw [Provisioner.createApplication, Program.send_bind]
  refine ⟨rfl, fun answer => ?_⟩
  cases answer with
  | ok application =>
    exact (registerCallback_refines _ _ _).mono fun _ => Refines.provisions
  | error message =>
    dsimp only
    rw [findApplication_bind]
    refine ⟨trivial, fun answer => ?_⟩
    dsimp only
    split
    · exact (registerCallback_refines _ _ _).mono fun _ => Refines.provisions
    · trivial

/-- Creating the provider sends requests of the provisioner. -/
theorem createProvider_provisions (callbackURL : String) (source : OAuthProvider) :
    (p.createProvider print callbackURL source).SendsOnly (Provisions p) := by
  rw [Provisioner.createProvider, Program.send_bind]
  refine ⟨rfl, fun answer => ?_⟩
  cases answer with
  | ok provider => exact createApplication_provisions callbackURL provider
  | error message =>
    dsimp only
    rw [findProvider_bind]
    refine ⟨trivial, fun answer => ?_⟩
    dsimp only
    split
    · exact (registerCallback_refines _ _ _).mono fun _ => Refines.provisions
    · trivial

/-- A request sends requests of the provisioner only. -/
theorem provisionApplication_provisions (request : ApplicationRequest) :
    (p.provisionApplication print request).SendsOnly (Provisions p) := by
  rw [Provisioner.provisionApplication]
  refine Program.sendsOnly_bind ?_ fun ensured =>
    (finish_refines request ensured).mono fun _ => Refines.provisions
  rw [Provisioner.ensureRouteApplication, findProvider_bind]
  refine ⟨trivial, fun answer => ?_⟩
  dsimp only
  split
  · trivial
  · exact (registerCallback_refines _ _ _).mono fun _ => Refines.provisions
  · rw [findProvider_bind]
    refine ⟨trivial, fun answer => ?_⟩
    dsimp only
    split
    · trivial
    · trivial
    · exact createProvider_provisions _ _

end

/-- What Authentik keeps about providers and applications: keys and names of
providers are unique, and the assignment of providers follows the
applications, whose short names are unique. -/
structure Consistent (s : Authentik) : Prop where
  /-- Keys are unique. -/
  keys : (s.providers.map OAuthProvider.pk).Nodup
  /-- Names are unique. -/
  names : (s.providers.map OAuthProvider.name).Nodup
  /-- An application has one provider. -/
  assigned : ∀ provider ∈ s.providers, ∀ other ∈ s.providers,
    provider.assignedApplicationSlug ≠ "" →
    provider.assignedApplicationSlug = other.assignedApplicationSlug → provider = other
  /-- An assigned provider has its application. -/
  applied : ∀ provider ∈ s.providers, provider.assignedApplicationSlug ≠ "" →
    ∃ application ∈ s.applications, application.slug = provider.assignedApplicationSlug

end LfpPipe.IdentityProvisioning
