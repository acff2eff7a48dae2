import LfpPipe.ClientBridge
import LfpPipe.PreparedRequests

/-!
# Which credentials reach a backend

A request may carry any number of Authorization values. The bearer policy reads
and verifies the first one; the backend sees none of them, or, when the policy
forwards the header, all of them. So only verified credentials reach the backend
exactly when the header is withheld or every value repeats the first.
-/

namespace LfpPipe.ForwardedCredentials

open RustText Fallible SharedConfig ClientIdentity HttpMessages ClientAuthorizer ClientSession
open ClientProxy ClientBridge PreparedRequests

variable {Key : Type}

/-- A header value that the bearer verifier of a policy read and accepted. -/
structure VerifiedCredential (world : World Key) (authorizer : Authorizer Key)
    (headers : HeaderMap) (value : HeaderValue) : Prop where
  /-- It is the value that is read. -/
  read : headers.get "authorization" = some value
  /-- The verifier accepts it. -/
  accepted : ∃ bearer claims, authorizer.bearer = some bearer ∧
    bearer.authorizeHeaders world headers = .ok claims

/-- Only verified credentials are handed on, and only when the policy says so. -/
structure OnlyVerifiedCredentials (world : World Key) (authorizer : Authorizer Key)
    (request prepared : Request) : Prop where
  /-- A policy that does not forward the header withholds every value. -/
  withheld : authorizer.config.forwardAuthorization = false →
    prepared.headers.getAll "authorization" = []
  /-- A policy that forwards the header hands on verified values. -/
  verified : authorizer.config.forwardAuthorization = true →
    ∀ value ∈ prepared.headers.getAll "authorization",
      VerifiedCredential world authorizer request.headers value

/-- A request that the bearer policy allows has an accepted value. -/
theorem authorizeHeaders_of_allow {ext : Externals Key} {world : World Key}
    {authorizer : Authorizer Key} {method : String} {uri : Uri} {headers : HeaderMap}
    {identity : Option AuthenticatedIdentity}
    (h : (authorizer.authorize ext world method uri headers).result = .allow .bearer identity) :
    ∃ bearer claims, authorizer.bearer = some bearer ∧
      bearer.authorizeHeaders world headers = .ok claims := by
  have hcredentials := authorizeCredentials_of_allow h
  rw [Authorizer.authorizeCredentials] at hcredentials
  split at hcredentials
  · cases hbearer : authorizer.bearer with
    | none =>
      rw [hbearer] at hcredentials
      cases hcredentials
    | some bearer =>
      rw [hbearer] at hcredentials
      dsimp only at hcredentials
      cases haccepted : bearer.authorizeHeaders world headers with
      | ok claims => exact ⟨bearer, claims, rfl, haccepted⟩
      | error denial =>
        rw [haccepted] at hcredentials
        cases denial with
        | forbidden error => cases hcredentials
        | unauthorized error => cases hcredentials
  · cases hoidc : authorizer.oidc with
    | none =>
      rw [hoidc] at hcredentials
      cases hcredentials
    | some oidc =>
      rw [hoidc] at hcredentials
      dsimp only at hcredentials
      split at hcredentials
      · cases hcredentials
      · cases hcredentials
      · cases hcredentials

/-- An allowed request is forwarded with the identity of its caller. -/
theorem handleRequestInner_of_allow {ext : Externals Key} {world : World Key} {request : Request}
    {hostname : String} {clientIp : Option String} {scheme : String}
    {backends : List (BackendRuntime Key)} {backend : BackendRuntime Key}
    {authorizer : Authorizer Key} {credential : Credential}
    {identity : Option AuthenticatedIdentity}
    (hendpoint : endpointAuthorizer backends request.uri.path = none)
    (hselect : selectRuntimeForPath backends (some hostname) request.uri.path = some backend)
    (hauthorizer : backend.authorization = some authorizer)
    (hallow : (authorizer.authorize ext world request.method request.uri request.headers).result =
      .allow credential identity) :
    (handleRequestInner ext world request hostname clientIp scheme backends).result =
      forwardAction (withoutAuthorization authorizer request) backend clientIp scheme identity := by
  rw [handleRequestInner, hendpoint]
  dsimp only
  rw [hselect]
  dsimp only
  rw [hauthorizer]
  dsimp only
  rw [hallow]

/-- The request that reaches a backend with a policy was prepared for an allowed caller. -/
theorem prepared_of_handleRequestInner {ext : Externals Key} {world : World Key}
    {request prepared : Request} {hostname : String} {clientIp : Option String} {scheme : String}
    {backends : List (BackendRuntime Key)} {backend : BackendRuntime Key}
    {authorizer : Authorizer Key}
    (hforward : (handleRequestInner ext world request hostname clientIp scheme backends).result =
      .ok (.forward backend prepared))
    (hauthorizer : backend.authorization = some authorizer) :
    ∃ identity, prepareRequest (withoutAuthorization authorizer request) backend.rule clientIp
      scheme identity = .ok prepared := by
  rw [handleRequestInner] at hforward
  cases hendpoint : endpointAuthorizer backends request.uri.path with
  | some reserved =>
    rw [hendpoint] at hforward
    dsimp only at hforward
    split at hforward
    · cases hforward
    · cases hforward
  | none =>
    rw [hendpoint] at hforward
    dsimp only at hforward
    cases hselect : selectRuntimeForPath backends (some hostname) request.uri.path with
    | none =>
      rw [hselect] at hforward
      cases hforward
    | some selected =>
      rw [hselect] at hforward
      dsimp only at hforward
      cases hpolicy : selected.authorization with
      | none =>
        rw [hpolicy] at hforward
        obtain ⟨heq, -⟩ := forwardAction_forward hforward
        rw [heq, hpolicy] at hauthorizer
        cases hauthorizer
      | some own =>
        rw [hpolicy] at hforward
        dsimp only at hforward
        split at hforward
        · cases hforward
        · rename_i credential identity hallow
          obtain ⟨heq, hprepared⟩ := forwardAction_forward hforward
          rw [heq, hpolicy] at hauthorizer
          cases hauthorizer
          rw [heq]
          exact ⟨identity, hprepared⟩

/-- Preparing a request changes no Authorization value. -/
theorem prepareRequest_authorization {request prepared : Request} {rule : BackendRule}
    {clientIp : Option String} {scheme : String} {identity : Option AuthenticatedIdentity}
    (h : prepareRequest request rule clientIp scheme identity = .ok prepared) :
    prepared.headers.getAll "authorization" = request.headers.getAll "authorization" := by
  obtain ⟨identified, hidentified, hother⟩ := prepareRequest_other h
  have hidentity : "authorization" ∉ IDENTITY_HEADERS := by decide
  have hfields : "authorization" ∉ ((identity.map identityHeaders).getD []).map Prod.fst := by
    intro hmem
    obtain ⟨field, hfield, hname⟩ := List.mem_map.mp hmem
    cases identity with
    | none => cases hfield
    | some user =>
      have hlisted := identityHeaders_listed hfield
      rw [hname] at hlisted
      exact hidentity hlisted
  rw [hother "authorization" (by decide) (by decide) (by decide),
    setHeaders_other hidentified hfields, getAll_removeAll, if_neg hidentity]

/-- What a backend sees of the Authorization values of an allowed request. -/
theorem authorization_of_forward {ext : Externals Key} {world : World Key}
    {request prepared : Request} {hostname : String} {clientIp : Option String} {scheme : String}
    {backends : List (BackendRuntime Key)} {backend : BackendRuntime Key}
    {authorizer : Authorizer Key}
    (hforward : (handleRequestInner ext world request hostname clientIp scheme backends).result =
      .ok (.forward backend prepared))
    (hauthorizer : backend.authorization = some authorizer) :
    prepared.headers.getAll "authorization" =
      if authorizer.config.forwardAuthorization then request.headers.getAll "authorization"
      else [] := by
  obtain ⟨identity, hprepared⟩ := prepared_of_handleRequestInner hforward hauthorizer
  rw [prepareRequest_authorization hprepared, withoutAuthorization]
  cases authorizer.config.forwardAuthorization with
  | true => rfl
  | false => rfl

/-- Only verified credentials reach the backend exactly when the policy withholds the
header or every Authorization value of the request repeats the first. -/
theorem only_verified_credentials_iff {ext : Externals Key} {world : World Key}
    {request prepared : Request} {hostname : String} {clientIp : Option String} {scheme : String}
    {backends : List (BackendRuntime Key)} {backend : BackendRuntime Key}
    {authorizer : Authorizer Key} {identity : Option AuthenticatedIdentity}
    (hforward : (handleRequestInner ext world request hostname clientIp scheme backends).result =
      .ok (.forward backend prepared))
    (hauthorizer : backend.authorization = some authorizer)
    (hallow : (authorizer.authorize ext world request.method request.uri request.headers).result =
      .allow .bearer identity) :
    OnlyVerifiedCredentials world authorizer request prepared ↔
      (authorizer.config.forwardAuthorization = true →
        ∀ value ∈ request.headers.getAll "authorization",
          request.headers.get "authorization" = some value) := by
  have hvalues := authorization_of_forward hforward hauthorizer
  constructor
  · intro h hforwards value hvalue
    rw [hforwards, if_pos rfl] at hvalues
    rw [← hvalues] at hvalue
    exact (h.verified hforwards value hvalue).read
  · intro h
    refine ⟨?_, ?_⟩
    · intro hwithheld
      rw [hvalues, hwithheld]
      rfl
    · intro hforwards value hvalue
      rw [hvalues, hforwards, if_pos rfl] at hvalue
      exact ⟨h hforwards value hvalue, authorizeHeaders_of_allow hallow⟩

/-- The reader's policy with the header handed on. -/
def forwardingAuthorizer : Authorizer Unit :=
  ⟨{ readerPolicy with forwardAuthorization := true },
    some ⟨readerPolicy, [.asymmetric "RS256"]⟩, none⟩

/-- The backend of that policy. -/
def forwardingBackend : BackendRuntime Unit := ⟨readerRule, some forwardingAuthorizer⟩

/-- The reader's request with a second token. -/
def twoTokensRequest : Request :=
  { readerRequest with
    headers := readerRequest.headers.append "authorization" (ascii "Bearer mallory-token") }

/-- The identity of the reader. -/
def readerIdentity : AuthenticatedIdentity := ⟨"alice", "alice", none, none, ["reader"], 0⟩

/-- The reader's identity is read from the claims of the token. -/
theorem readerIdentity_read : identityFromClaims
    (.object [("sub", .string "alice"), ("groups", .array [.string "reader"])]) "groups" =
    .ok readerIdentity := by
  have hgroups : identityGroups
      (.object [("sub", .string "alice"), ("groups", .array [.string "reader"])]) "groups" =
      .ok ["reader"] := by decide
  simp only [identityFromClaims, hgroups, List.mergeSort_singleton, Bind.bind, Except.bind]
  decide

/-- The reader is allowed with one token and with two. -/
theorem reader_allowed :
    (forwardingAuthorizer.authorize sampleExternals readerWorld readerRequest.method
      readerRequest.uri readerRequest.headers).result = .allow .bearer (some readerIdentity) ∧
    (forwardingAuthorizer.authorize sampleExternals readerWorld twoTokensRequest.method
      twoTokensRequest.uri twoTokensRequest.headers).result =
      .allow .bearer (some readerIdentity) := by
  have hread : some readerIdentity = (identityFromClaims
      (.object [("sub", .string "alice"), ("groups", .array [.string "reader"])])
      "groups").toOption := by
    rw [readerIdentity_read]
    rfl
  rw [hread]
  exact ⟨rfl, rfl⟩

/-- The reader's only token is verified and handed on. -/
theorem only_verified_credentials_reader :
    ∃ prepared, (handleRequestInner sampleExternals readerWorld readerRequest "docs.example" none
      "https" [forwardingBackend]).result = .ok (.forward forwardingBackend prepared) ∧
      (OnlyVerifiedCredentials readerWorld forwardingAuthorizer readerRequest prepared ↔
        (forwardingAuthorizer.config.forwardAuthorization = true →
          ∀ value ∈ readerRequest.headers.getAll "authorization",
            readerRequest.headers.get "authorization" = some value)) := by
  have hforward : ∃ prepared, (handleRequestInner sampleExternals readerWorld readerRequest
      "docs.example" none "https" [forwardingBackend]).result =
      .ok (.forward forwardingBackend prepared) := by
    rw [handleRequestInner_of_allow rfl rfl rfl reader_allowed.1]
    exact ⟨_, rfl⟩
  obtain ⟨prepared, hforward⟩ := hforward
  exact ⟨prepared, hforward, only_verified_credentials_iff hforward rfl reader_allowed.1⟩

/-- A second token behind the verified one reaches the backend unverified. -/
theorem second_token_forwarded :
    ¬ ∀ (ext : Externals Unit) (world : World Unit) (request prepared : Request)
      (hostname : String) (clientIp : Option String) (scheme : String)
      (backends : List (BackendRuntime Unit)) (backend : BackendRuntime Unit)
      (authorizer : Authorizer Unit) (identity : Option AuthenticatedIdentity),
      (handleRequestInner ext world request hostname clientIp scheme backends).result =
        .ok (.forward backend prepared) →
      backend.authorization = some authorizer →
      (authorizer.authorize ext world request.method request.uri request.headers).result =
        .allow .bearer identity →
      OnlyVerifiedCredentials world authorizer request prepared := by
  intro h
  have hforward : ∃ prepared, (handleRequestInner sampleExternals readerWorld twoTokensRequest
      "docs.example" none "https" [forwardingBackend]).result =
      .ok (.forward forwardingBackend prepared) := by
    rw [handleRequestInner_of_allow rfl rfl rfl reader_allowed.2]
    exact ⟨_, rfl⟩
  obtain ⟨prepared, hforward⟩ := hforward
  have honly := h _ _ _ _ _ _ _ _ _ _ _ hforward rfl reader_allowed.2
  have hvalues : prepared.headers.getAll "authorization" =
      [ascii "Bearer alice-token", ascii "Bearer mallory-token"] :=
    authorization_of_forward hforward rfl
  have hsecond : ascii "Bearer mallory-token" ∈ prepared.headers.getAll "authorization" := by
    rw [hvalues]
    exact List.mem_cons_of_mem _ List.mem_cons_self
  have hread := (honly.verified rfl (ascii "Bearer mallory-token") hsecond).read
  have hfirst : twoTokensRequest.headers.get "authorization" =
      some (ascii "Bearer alice-token") := rfl
  rw [hfirst] at hread
  have hother : some (ascii "Bearer alice-token") ≠ some (ascii "Bearer mallory-token") := by
    decide
  exact hother hread

end LfpPipe.ForwardedCredentials
