import Mathlib.Logic.Equiv.List
import LfpPipe.RouteAuth

/-!
# Tunnel tickets

Translated from `controlplane/internal/ticket/ticket.go`, the ticket handler
of `controlplane/internal/httpapi/server.go` and the authorizer of
`controlplane/internal/natsauth/service.go`. The HTTP side matches the
session's entitlements and signs a ticket with the one that covers the
route; the callout side matches that entitlement again and builds the
subject again from the ticket. Times are nanoseconds since the Unix epoch,
dates inside a ticket are whole seconds. The JWT packages are parameters.
-/

namespace LfpPipe.TunnelTickets

open RustText GoText RouteAuth

/-- Nanoseconds in a second. -/
def second : ℤ := 1000000000

/-- The Unix time of an instant, rounded down to whole seconds. -/
def unix (time : ℤ) : ℤ := time / second

/-- The settings of the control plane that issuing and authorizing read. -/
structure Config where
  /-- The configured root namespace of routes. -/
  allowedRouteSuffix : String
  /-- Token of the ingress instances themselves. -/
  natsInternalIngressToken : String
  /-- Account that users are placed in. -/
  natsTunnelAccount : String
  /-- Where request subjects start. -/
  natsRequestSubjectPrefix : String
  /-- Addresses announced to clients. -/
  natsPublicURLs : List String
  deriving DecidableEq, Repr

/-- A signed-in identity. -/
structure BrowserSession where
  /-- Stable identifier of the identity. -/
  subject : String
  /-- Display name. -/
  name : String
  /-- Mail address. -/
  email : String
  /-- Names of the entitlements, as the identity provider lists them. -/
  entitlements : List String
  /-- End of the session in Unix seconds. -/
  expiresUnix : ℤ
  /-- Login name. -/
  username : String
  deriving DecidableEq, Repr

/-- What a request presents as its identity. -/
structure Credentials where
  /-- The Authorization header; empty when it is absent. -/
  authorization : String
  /-- The session that the session cookie decodes to. -/
  cookie : Except String BrowserSession

/-- A complete session that has not expired. -/
def requireSession (now : ℤ) (credentials : Credentials) : Except String BrowserSession :=
  match credentials.cookie with
  | .error message => .error message
  | .ok session =>
    if session.subject == "" || session.expiresUnix ≤ unix now then .error "session expired"
    else .ok session

/-- A bearer token decides when one is presented, else the session cookie. The
verifier of the identity provider yields the identity its token claims. -/
def requireIdentity (verify : String → Except String BrowserSession) (now : ℤ)
    (credentials : Credentials) : Except String BrowserSession :=
  if hasPrefix credentials.authorization "Bearer " then
    let raw := trimSpace (trimPrefix credentials.authorization "Bearer ")
    if raw == "" then .error "bearer token is empty"
    else
      match verify raw with
      | .error message => .error message
      | .ok identity =>
        if identity.subject == "" || identity.expiresUnix ≤ unix now then
          .error "bearer identity is incomplete or expired"
        else .ok identity
  else requireSession now credentials

/-- The authorization facts of a ticket; dates are Unix seconds. -/
structure Claims where
  /-- The exact route. -/
  route : String
  /-- The entitlement that covered the route. -/
  entitlement : String
  /-- Inbox token of the client. -/
  clientID : String
  /-- Who issued the ticket. -/
  issuer : String
  /-- For which identity. -/
  subject : String
  /-- For which services. -/
  audience : List String
  /-- When it was issued. -/
  issuedAt : Option ℤ
  /-- From when on it is valid. -/
  notBefore : Option ℤ
  /-- Until when it is valid. -/
  expiresAt : Option ℤ
  deriving DecidableEq, Repr

/-- How the JWT package rejects a token. -/
inductive ParseFailure where
  /-- The text is not a token. -/
  | malformed
  /-- No key was supplied for it. -/
  | unverifiable (cause : String)
  /-- The signature does not match. -/
  | signature
  /-- A date, the audience or the issuer was refused. -/
  | claims
  deriving DecidableEq, Repr

/-- The JWT package with HMAC signing: signed claims are read back. -/
structure JwtPackage where
  /-- Sign claims with HS256. -/
  sign : List UInt8 → Claims → Except String String
  /-- The claims of a token and whether its method is HS256, unverified. -/
  decode : String → Option (Bool × Claims)
  /-- The signature of a token under a secret. -/
  signatureValid : List UInt8 → String → Bool
  /-- The message of a rejection. -/
  describe : ParseFailure → String
  /-- A signed token carries the claims and a valid signature. -/
  signed : ∀ {secret : List UInt8} {claims : Claims} {value : String},
    sign secret claims = .ok value →
      decode value = some (true, claims) ∧ signatureValid secret value = true

/-- Secret and lifetime of the tickets. -/
structure Signer where
  /-- The HMAC secret. -/
  secret : List UInt8
  /-- Lifetime in nanoseconds. -/
  ttl : ℤ
  deriving DecidableEq, Repr

/-- The issuer of every ticket. -/
def issuer : String := "lfp-connect"

section

variable (jwt : JwtPackage) (signer : Signer)

/-- Create a ticket for one client and exact route; the result is the token
and the instant at which it expires. -/
def Signer.issue (now : ℤ) (subject clientID route entitlement : String) :
    Except String (String × ℤ) :=
  let expires := now + signer.ttl
  match jwt.sign signer.secret
      { route := route, entitlement := entitlement, clientID := clientID, issuer := issuer,
        subject := subject, audience := ["nats"], issuedAt := some (unix now),
        notBefore := some (unix (now - 5 * second)), expiresAt := some (unix expires) } with
  | .error message => .error message
  | .ok value => .ok (value, expires)

/-- The checks of the JWT package on the registered claims of a ticket. -/
def registeredValid (now : ℤ) (claims : Claims) : Bool :=
  claims.expiresAt.all (fun date => now < date * second) &&
    claims.notBefore.all (fun date => date * second ≤ now) &&
    claims.audience.contains "nats" && claims.issuer == issuer

/-- Validate a ticket and return its claims. -/
def Signer.parse (now : ℤ) (value : String) : Except String Claims :=
  let invalid (failure : ParseFailure) : Except String Claims :=
    .error ("invalid tunnel ticket: " ++ jwt.describe failure)
  match jwt.decode value with
  | none => invalid .malformed
  | some (hs256, claims) =>
    if !hs256 then invalid (.unverifiable "unexpected ticket signing method")
    else if !jwt.signatureValid signer.secret value then invalid .signature
    else if !registeredValid now claims then invalid .claims
    else if claims.route == "" || claims.clientID == "" || claims.subject == "" then
      .error "invalid tunnel ticket: required claims are missing"
    else .ok claims

end

/-- The body of a ticket request. -/
structure TokenRequest where
  /-- The wanted hostname, in any spelling. -/
  hostname : String
  /-- A display name of the client. -/
  clientName : String
  deriving DecidableEq, Repr

/-- The body of a successful answer. -/
structure TokenResponse where
  /-- The signed ticket. -/
  token : String
  /-- The instant at which it expires. -/
  expiresAt : ℤ
  /-- The same in Unix seconds. -/
  expiresUnix : ℤ
  /-- The normalized route. -/
  hostname : String
  /-- The inbox token derived from the display name. -/
  clientID : String
  /-- The subject that requests for the route are published on. -/
  requestSubject : String
  /-- Addresses to connect to. -/
  natsURLs : List String
  deriving DecidableEq, Repr

/-- An error answer: its status and its message. -/
structure HttpError where
  /-- Status code. -/
  status : ℕ
  /-- Text of the error field. -/
  message : String
  deriving DecidableEq, Repr

/-- The answer to an unexpected failure. -/
def internalError : HttpError := ⟨500, "The control plane could not complete the request."⟩

section

variable (table : LowerTable) (idna : Idna) (jwt : JwtPackage) (signer : Signer) (config : Config)

/-- Issue a ticket; a successful answer has status 201. The clock is read for
the session and again for the ticket. The body is the decoded request, if it
decodes. -/
def issueTunnelToken (verify : String → Except String BrowserSession) (checked now : ℤ)
    (credentials : Credentials) (body : Option TokenRequest) : Except HttpError TokenResponse :=
  match requireIdentity verify checked credentials with
  | .error _ => .error ⟨401, "Sign in with Authentik to continue."⟩
  | .ok session =>
    match body with
    | none => .error ⟨400, "Provide a hostname and client name."⟩
    | some request =>
      match matchStrictSubdomain table idna session.entitlements request.hostname
          config.allowedRouteSuffix with
      | .error message => .error ⟨403, message⟩
      | .ok (route, entitlement) =>
        match clientID table request.clientName with
        | .error message => .error ⟨400, message⟩
        | .ok clientID =>
          match subject table idna config.natsRequestSubjectPrefix route with
          | .error _ => .error internalError
          | .ok subject =>
            match signer.issue jwt now session.subject clientID route entitlement with
            | .error _ => .error internalError
            | .ok (value, expires) =>
              .ok { token := value, expiresAt := expires, expiresUnix := unix expires,
                    hostname := route, clientID := clientID, requestSubject := subject,
                    natsURLs := config.natsPublicURLs }

end

/-- Add a text to a permission list unless it is empty or there already. -/
def addPermission (permissions : List String) (permission : String) : List String :=
  if permissions.contains permission || permission == "" then permissions
  else permissions ++ [permission]

/-- What a user may do, as the callout answers it. -/
structure UserClaims where
  /-- Public key of the user. -/
  nkey : String
  /-- Name of the user. -/
  name : String
  /-- Account that the user is placed in. -/
  audience : String
  /-- End of the permission in Unix seconds. -/
  expires : ℤ
  /-- Subjects that may be published on. -/
  pubAllow : List String
  /-- Subjects that may be subscribed to. -/
  subAllow : List String
  /-- Number of replies and nanoseconds allowed for responses. -/
  resp : Option (ℤ × ℤ)
  deriving DecidableEq, Repr

/-- The NATS JWT package with the issuer key: claims for a user's public key
are encoded and read back. -/
structure NatsPackage where
  /-- Whether a text is a user's public key. -/
  isUserKey : String → Bool
  /-- Sign the claims of a user. -/
  encode : UserClaims → Except String String
  /-- Read the claims of a user. -/
  decode : String → Option UserClaims
  /-- Claims for a user's public key are encoded and read back. -/
  encoded : ∀ user : UserClaims, isUserKey user.nkey = true →
    ∃ value, encode user = .ok value ∧ decode value = some user

/-- A connection that asks for permissions. -/
structure AuthorizationRequest where
  /-- Public key that the server made for the connection. -/
  userNkey : String
  /-- Token that the client presented. -/
  token : String
  deriving DecidableEq, Repr

section

variable (table : LowerTable) (idna : Idna) (jwt : JwtPackage) (nats : NatsPackage)
  (signer : Signer) (config : Config)

/-- The permissions of the ingress instances. -/
def ingressUser (now : ℤ) (nkey : String) : UserClaims where
  nkey := nkey
  name := "lfp-pipe-ingress"
  audience := config.natsTunnelAccount
  expires := unix (now + 12 * 3600 * second)
  pubAllow := addPermission (addPermission [] (config.natsRequestSubjectPrefix ++ ".>"))
    "_LFP_INBOX.>"
  subAllow := addPermission [] "_INBOX.>"
  resp := none

/-- The permissions of a tunnel client. -/
def tunnelUser (nkey clientID subject : String) (expires : ℤ) : UserClaims where
  nkey := nkey
  name := clientID
  audience := config.natsTunnelAccount
  expires := expires
  pubAllow := addPermission [] "_INBOX.>"
  subAllow := addPermission (addPermission [] subject) ("_LFP_INBOX." ++ clientID ++ ".>")
  resp := some (1, 5 * second)

/-- Map a presented token to permissions. A ticket without an expiry date, which
the signer never issues, makes the source dereference a nil pointer. -/
def authorize (now : ℤ) (request : AuthorizationRequest) : Except String String :=
  if request.token == config.natsInternalIngressToken then
    nats.encode (ingressUser config now request.userNkey)
  else
    match signer.parse jwt now request.token with
    | .error message => .error ("validate tunnel ticket: " ++ message)
    | .ok claims =>
      match authorizeStrictSubdomain table idna [claims.entitlement] claims.route
          config.allowedRouteSuffix with
      | .error message => .error ("authorize tunnel route: " ++ message)
      | .ok _ =>
        match subject table idna config.natsRequestSubjectPrefix claims.route with
        | .error message => .error ("map tunnel route subject: " ++ message)
        | .ok subject =>
          match claims.expiresAt with
          | none => .error "nil pointer dereference"
          | some expires =>
            nats.encode (tunnelUser config request.userNkey claims.clientID subject expires)

end

section

variable {table : LowerTable} {idna : Idna} {jwt : JwtPackage} {nats : NatsPackage}
  {signer : Signer} {config : Config} {verify : String → Except String BrowserSession}
  {checked now : ℤ} {credentials : Credentials} {body : Option TokenRequest}
  {response : TokenResponse}

/-- An accepted identity has a subject. -/
theorem requireIdentity_subject {session : BrowserSession}
    (h : requireIdentity verify now credentials = .ok session) : session.subject ≠ "" := by
  have hsession : ∀ {found : BrowserSession} {message : String},
      (if found.subject == "" || found.expiresUnix ≤ unix now then .error message else .ok found) =
        (.ok session : Except String BrowserSession) → session.subject ≠ "" := by
    intro found message hfound
    split at hfound
    · cases hfound
    · rename_i hcheck
      cases hfound
      rw [Bool.or_eq_true, not_or, beq_iff_eq] at hcheck
      exact hcheck.1
  rw [requireIdentity] at h
  split at h
  · dsimp only at h
    split at h
    · cases h
    · split at h
      · cases h
      · exact hsession h
  · rw [requireSession] at h
    split at h
    · cases h
    · exact hsession h

/-- What an answer of status 201 says about its request. -/
structure Issued (table : LowerTable) (idna : Idna) (jwt : JwtPackage) (signer : Signer)
    (config : Config) (now : ℤ) (body : Option TokenRequest) (response : TokenResponse) : Prop where
  /-- The body decoded, its hostname matched an entitlement, its client name
  was accepted, and a ticket with these facts was signed. -/
  granted : ∃ request sub entitlement, body = some request ∧ sub ≠ "" ∧
    Matched table idna request.hostname config.allowedRouteSuffix response.hostname entitlement ∧
    clientID table request.clientName = .ok response.clientID ∧
    signer.issue jwt now sub response.clientID response.hostname entitlement =
      .ok (response.token, response.expiresAt)
  /-- The announced subject is the one of the route. -/
  requestSubject_eq : subject table idna config.natsRequestSubjectPrefix response.hostname =
    .ok response.requestSubject
  /-- The announced end is the expiry in whole seconds. -/
  expiresUnix_eq : response.expiresUnix = unix response.expiresAt

/-- The handler answers 201 only after these steps. -/
theorem issueTunnelToken_ok
    (h : issueTunnelToken table idna jwt signer config verify checked now credentials body =
      .ok response) : Issued table idna jwt signer config now body response := by
  rw [issueTunnelToken] at h
  split at h
  · cases h
  · rename_i session hsession
    split at h
    · cases h
    · rename_i request
      split at h
      · cases h
      · rename_i route entitlement hmatch
        split at h
        · cases h
        · rename_i id hid
          split at h
          · cases h
          · rename_i requestSubject hsubject
            split at h
            · cases h
            · rename_i value expires hissue
              cases h
              exact ⟨⟨request, session.subject, entitlement, rfl,
                requireIdentity_subject hsession, matchStrictSubdomain_ok hmatch, hid, hissue⟩,
                hsubject, rfl⟩

/-- The claims that an issued ticket carries. -/
theorem issue_ok {sub id route entitlement value : String} {expires : ℤ}
    (h : signer.issue jwt now sub id route entitlement = .ok (value, expires)) :
    expires = now + signer.ttl ∧ jwt.signatureValid signer.secret value = true ∧
      jwt.decode value = some (true,
        { route := route, entitlement := entitlement, clientID := id, issuer := issuer,
          subject := sub, audience := ["nats"], issuedAt := some (unix now),
          notBefore := some (unix (now - 5 * second)), expiresAt := some (unix expires) }) := by
  rw [Signer.issue] at h
  split at h
  · cases h
  · rename_i signed hsign
    cases h
    have hsigned := jwt.signed hsign
    exact ⟨rfl, hsigned.2, hsigned.1⟩

/-- Rounding down to whole seconds gives an earlier instant. -/
theorem unix_mul_second_le (time : ℤ) : unix time * second ≤ time :=
  Int.ediv_mul_le time (by decide)

/-- An issued ticket is valid from its issuance until its announced end. -/
theorem parse_issued {sub id route entitlement value : String} {expires presented : ℤ}
    (h : signer.issue jwt now sub id route entitlement = .ok (value, expires))
    (hsub : sub ≠ "") (hid : id ≠ "") (hroute : route ≠ "") (hfrom : now ≤ presented)
    (huntil : presented < unix expires * second) :
    signer.parse jwt presented value = .ok
      { route := route, entitlement := entitlement, clientID := id, issuer := issuer,
        subject := sub, audience := ["nats"], issuedAt := some (unix now),
        notBefore := some (unix (now - 5 * second)), expiresAt := some (unix expires) } := by
  obtain ⟨-, hsignature, hdecode⟩ := issue_ok h
  have hbefore : unix (now - 5 * second) * second ≤ presented := by
    have hround := unix_mul_second_le (now - 5 * second)
    have hpos : 0 < second := by decide
    omega
  have hvalid : registeredValid presented
      { route := route, entitlement := entitlement, clientID := id, issuer := issuer,
        subject := sub, audience := ["nats"], issuedAt := some (unix now),
        notBefore := some (unix (now - 5 * second)), expiresAt := some (unix expires) } =
        true := by
    simp only [registeredValid, Option.all_some, decide_eq_true huntil, decide_eq_true hbefore]
    decide
  have hrequired : (route == "" || id == "" || sub == "") = false := by
    rw [beq_eq_false_iff_ne.mpr hroute, beq_eq_false_iff_ne.mpr hid, beq_eq_false_iff_ne.mpr hsub]
    rfl
  rw [Signer.parse, hdecode]
  dsimp only
  rw [hsignature, hvalid, hrequired]
  rfl

/-- A permission list contains what it did and the added text. -/
theorem mem_addPermission {permissions : List String} {permission p : String}
    (hne : permission ≠ "") :
    p ∈ addPermission permissions permission ↔ p ∈ permissions ∨ p = permission := by
  rw [addPermission, beq_eq_false_iff_ne.mpr hne, Bool.or_false]
  split
  · rename_i hmem
    rw [List.contains_iff_mem] at hmem
    constructor
    · exact Or.inl
    · rintro (hp | hp)
      · exact hp
      · exact hp ▸ hmem
  · rw [List.mem_append, List.mem_singleton]

/-- The subscriptions of a tunnel client are its subject and its inbox. -/
theorem mem_tunnelUser_subAllow (config : Config) (nkey id : String) (expires : ℤ) {sub : String}
    (hsub : sub ≠ "") (p : String) :
    p ∈ (tunnelUser config nkey id sub expires).subAllow ↔
      p = sub ∨ p = "_LFP_INBOX." ++ id ++ ".>" := by
  have hinbox : "_LFP_INBOX." ++ id ++ ".>" ≠ "" := by
    intro h
    have hlen := congrArg String.length h
    rw [String.length_append, String.length_append] at hlen
    revert hlen
    change 11 + id.length + 2 = 0 → False
    omega
  rw [tunnelUser]
  dsimp only
  rw [mem_addPermission hinbox, mem_addPermission hsub]
  simp only [List.not_mem_nil, false_or]

/-- A subject is never empty. -/
theorem subject_ne_empty {subjectPrefix hostname s : String}
    (h : subject table idna subjectPrefix hostname = .ok s) : s ≠ "" := by
  rw [subject] at h
  split at h
  · cases h
  · intro hempty
    have hs := Except.ok.inj h
    rw [hempty] at hs
    have hlen := congrArg String.length hs
    rw [String.length_append, String.length_append] at hlen
    revert hlen
    change _ + 1 + _ = 0 → False
    omega

/-- The callout grants exactly the announced permissions for an issued ticket. -/
theorem authorize_issued (nats : NatsPackage) {request : AuthorizationRequest} {presented : ℤ}
    (hissued : Issued table idna jwt signer config now body response)
    (htoken : request.token = response.token)
    (hinternal : ∀ time claims, signer.parse jwt time config.natsInternalIngressToken ≠ .ok claims)
    (hfrom : now ≤ presented) (huntil : presented < response.expiresUnix * second) :
    authorize table idna jwt nats signer config presented request =
      nats.encode (tunnelUser config request.userNkey response.clientID response.requestSubject
        response.expiresUnix) := by
  obtain ⟨wanted, sub, entitlement, -, hsub, hmatched, hid, hissue⟩ := hissued.granted
  rw [hissued.expiresUnix_eq] at huntil
  have hroute := (normalizeHostname_ok hmatched.route_eq).nonempty
  have hparse := parse_issued hissue hsub (clientID_ne_empty hid) hroute hfrom huntil
  have hnot : (response.token == config.natsInternalIngressToken) = false := by
    rw [beq_eq_false_iff_ne]
    intro heq
    rw [heq] at hparse
    exact hinternal presented _ hparse
  rw [authorize, htoken, hnot, hparse]
  simp only [Bool.false_eq_true, reduceIte]
  rw [authorizeStrictSubdomain_matched hmatched]
  dsimp only
  rw [hissued.requestSubject_eq, hissued.expiresUnix_eq]

/-- Issued tickets are honoured with exactly the announced permissions, at
every time from the issuance until strictly before the announced end. -/
theorem issued_ticket_honoured {request : AuthorizationRequest} {presented : ℤ}
    (hissued : issueTunnelToken table idna jwt signer config verify checked now credentials body =
      .ok response)
    (hinternal : ∀ time claims, signer.parse jwt time config.natsInternalIngressToken ≠ .ok claims)
    (hkey : nats.isUserKey request.userNkey = true) (htoken : request.token = response.token)
    (hfrom : now ≤ presented) (huntil : presented < response.expiresUnix * second) :
    ∃ value user, authorize table idna jwt nats signer config presented request = .ok value ∧
      nats.decode value = some user ∧
      (∀ p, p ∈ user.subAllow ↔
        p = response.requestSubject ∨ p = "_LFP_INBOX." ++ response.clientID ++ ".>") ∧
      (∀ p, p ∈ user.pubAllow ↔ p = "_INBOX.>") ∧
      user.expires = response.expiresUnix := by
  have hgranted := issueTunnelToken_ok hissued
  have hauth := authorize_issued nats hgranted htoken hinternal hfrom huntil
  obtain ⟨value, hencode, hdecode⟩ := nats.encoded
    (tunnelUser config request.userNkey response.clientID response.requestSubject
      response.expiresUnix) hkey
  refine ⟨value, _, hauth.trans hencode, hdecode, ?_, ?_, rfl⟩
  · exact mem_tunnelUser_subAllow config _ _ _ (subject_ne_empty hgranted.requestSubject_eq)
  · intro p
    exact List.mem_singleton

end

/-- Characters by their scalar values. -/
instance encodableChar : Encodable Char :=
  Encodable.ofLeftInjection Char.toNat (fun n => some (Char.ofNat n)) fun c => by
    rw [Char.ofNat_toNat]

/-- Texts by their characters. -/
instance encodableString : Encodable String :=
  Encodable.ofLeftInjection String.toList (fun cs => some (String.ofList cs)) fun s => by
    rw [String.ofList_toList]

/-- Claims by their fields. -/
instance encodableUserClaims : Encodable UserClaims :=
  Encodable.ofLeftInjection
    (fun user => (user.nkey, user.name, user.audience, user.expires, user.pubAllow,
      user.subAllow, user.resp))
    (fun fields => some ⟨fields.1, fields.2.1, fields.2.2.1, fields.2.2.2.1, fields.2.2.2.2.1,
      fields.2.2.2.2.2.1, fields.2.2.2.2.2.2⟩)
    fun _ => rfl

/-- A package that writes the code of the claims in unary, for one user key. -/
def unaryPackage : NatsPackage where
  isUserKey key := key == "UDEMO"
  encode user :=
    if user.nkey == "UDEMO" then .ok (String.ofList (List.replicate (Encodable.encode user) '1'))
    else .error "expected subject to be user public key"
  decode value := Encodable.decode value.length
  encoded := by
    intro user hkey
    refine ⟨_, if_pos hkey, ?_⟩
    rw [String.length_ofList, List.length_replicate, Encodable.encodek]

/-- The ticket of the sample below. -/
def sampleClaims : Claims where
  route := "cool.subdomain.domain"
  entitlement := "subdomain.domain"
  clientID := "unraid-east"
  issuer := issuer
  subject := "authentik-subject"
  audience := ["nats"]
  issuedAt := some 1700000000
  notBefore := some 1699999995
  expiresAt := some 1700000900

/-- A package that signs listed tickets with one secret and knows no other
token; a token is the position of its ticket in unary. -/
def listedJwt (tickets : List Claims) : JwtPackage where
  sign secret claims :=
    if secret = [1, 2, 3] then
      match tickets.idxOf? claims with
      | some i => .ok (String.ofList (List.replicate (i + 1) '1'))
      | none => .error "claims are invalid"
    else .error "key is invalid"
  decode value :=
    if value.toList.all (· == '1') then
      tickets[value.length - 1]?.map fun claims => (true, claims)
    else none
  signatureValid secret value := decide (secret = [1, 2, 3] ∧ value.length ≤ tickets.length)
  describe _ := "token is invalid"
  signed := by
    intro secret claims value h
    split at h
    · rename_i hsecret
      split at h
      · rename_i i hi
        cases h
        obtain ⟨hlt, hget, -⟩ := List.idxOf?_eq_some_iff.mp hi
        have hall : (List.replicate (i + 1) '1').all (· == '1') = true := by
          rw [List.all_eq_true]
          intro c hc
          exact beq_iff_eq.mpr (List.eq_of_mem_replicate hc)
        rw [String.toList_ofList, String.length_ofList, List.length_replicate, hall,
          Nat.add_sub_cancel, List.getElem?_eq_getElem hlt, hget]
        exact ⟨rfl, decide_eq_true ⟨hsecret, hlt⟩⟩
      · cases h
    · cases h

/-- A configuration with its own ingress token. -/
def sampleConfig : Config where
  allowedRouteSuffix := "subdomain.domain"
  natsInternalIngressToken := "internal-only"
  natsTunnelAccount := "TUNNELS"
  natsRequestSubjectPrefix := "lfp.v1.connect"
  natsPublicURLs := ["tls://pipe.example.com:4222"]

/-- A cookie session that holds the root entitlement. -/
def sampleCredentials : Credentials where
  authorization := ""
  cookie := .ok
    { subject := "authentik-subject", name := "Ada", email := "",
      entitlements := ["subdomain.domain"],
      expiresUnix := 1700003600, username := "ada" }

/-- The answer to a request with a mixed-case hostname and a display name. -/
def sampleResponse : TokenResponse where
  token := "1"
  expiresAt := 1700000900000000000
  expiresUnix := 1700000900
  hostname := "cool.subdomain.domain"
  clientID := "unraid-east"
  requestSubject := "lfp.v1.connect.domain.subdomain.cool"
  natsURLs := ["tls://pipe.example.com:4222"]

/-- A ticket presented ten minutes after its issuance. -/
theorem issued_ticket_honoured_sample :
    ∃ value user, authorize asciiTable plainIdna (listedJwt [sampleClaims]) unaryPackage
        ⟨[1, 2, 3], 900 * second⟩ sampleConfig 1700000600000000000 ⟨"UDEMO", "1"⟩ = .ok value ∧
      unaryPackage.decode value = some user ∧
      (∀ p, p ∈ user.subAllow ↔
        p = "lfp.v1.connect.domain.subdomain.cool" ∨ p = "_LFP_INBOX." ++ "unraid-east" ++ ".>") ∧
      (∀ p, p ∈ user.pubAllow ↔ p = "_INBOX.>") ∧ user.expires = 1700000900 := by
  have hissued : issueTunnelToken asciiTable plainIdna (listedJwt [sampleClaims])
      ⟨[1, 2, 3], 900 * second⟩
      sampleConfig (fun _ => .error "no verifier") 1700000000000000000 1700000000000000000
      sampleCredentials (some ⟨"Cool.Subdomain.Domain.", "Unraid East!"⟩) =
        .ok sampleResponse := by decide +kernel
  have hinternal : ∀ time claims, Signer.parse (listedJwt [sampleClaims])
      ⟨[1, 2, 3], 900 * second⟩ time
      sampleConfig.natsInternalIngressToken ≠ .ok claims := nofun
  exact issued_ticket_honoured hissued hinternal (by decide) rfl (by decide) (by decide)


end LfpPipe.TunnelTickets
