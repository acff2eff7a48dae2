import LfpPipe.EntitlementMatching
import LfpPipe.TenantIsolation
import LfpPipe.TransitionRuns

/-!
# Requests reach the owners of their hostnames

Tickets, connections and requests meet at the message server: identities ask
the control plane for tickets, clients and ingresses connect with a token
that the authorization callout turns into permissions, ingresses publish the
requests of hostnames, and whoever is permitted may receive them. Identities
may ask for anything, anyone may present any token that the control plane
has signed, and a connection may try to publish requests of its own; nobody
else can sign a ticket, and the server ends a connection when its
permissions expire.
-/

namespace LfpPipe.RequestDelivery

open RustText GoText SharedRouting RouteAuth SubjectRouting SubjectAgreement SubjectPatterns
open EntitlementMatching TunnelTickets TenantIsolation TransitionRuns

/-- The tokens of a subject, if it can be published on. -/
def publishedTokens (subject : String) : Option (List Token) :=
  if h : ∀ token ∈ split '.' subject, publishable token = true then
    some ((split '.' subject).attachWith _ h)
  else none

/-- One of the permissions covers a subject. -/
def permits (permissions : List String) (subject : String) : Bool :=
  (publishedTokens subject).any fun tokens =>
    permissions.any fun permission =>
      (parsePattern (split '.' permission)).any fun p => p.accepts tokens

/-- The first token of a subject. -/
def namespaceOf (subject : String) : Option String := (split '.' subject).head?

/-- A prefix whose tokens can be published on, outside the two inboxes. -/
def usablePrefix (subjectPrefix : String) : Bool :=
  (split '.' (trimSuffix subjectPrefix ".")).all publishable &&
    namespaceOf (trimSuffix subjectPrefix ".") != some "_INBOX" &&
    namespaceOf (trimSuffix subjectPrefix ".") != some "_LFP_INBOX"

/-- A ticket and the identity that asked for it. -/
structure Ticket where
  /-- The identity. -/
  session : BrowserSession
  /-- When the ticket was signed. -/
  issuedAt : ℤ
  /-- The answer with the ticket. -/
  response : TokenResponse

/-- A connection that the server has admitted. -/
structure Connection where
  /-- The token that it presented. -/
  token : String
  /-- Its permissions. -/
  user : UserClaims

/-- A request for a hostname. -/
structure Request where
  /-- The connection that published it. -/
  publisher : ℕ
  /-- The hostname of the public connection. -/
  hostname : String
  /-- The subject that it was published on. -/
  subject : String
  /-- Where claims for it are sent. -/
  reply : String
  deriving DecidableEq

/-- A request that a connection has received. -/
structure Delivery where
  /-- The connection. -/
  receiver : ℕ
  /-- The request. -/
  request : Request
  /-- When it arrived. -/
  receivedAt : ℤ

/-- The control plane, the message server and what has passed through it. -/
structure System where
  /-- The time, in nanoseconds. -/
  clock : ℤ
  /-- The tickets that the control plane has issued. -/
  issued : List Ticket
  /-- The connections that the server has admitted, in order. -/
  connections : List Connection
  /-- The requests that were published, in order. -/
  published : List Request
  /-- The requests that were received. -/
  received : List Delivery

/-- Nothing has happened yet. -/
def System.initial (clock : ℤ) : System := ⟨clock, [], [], [], []⟩

/-- What happens next. -/
inductive Event where
  /-- Time passes. -/
  | wait (nanoseconds : ℕ)
  /-- Someone asks the control plane for a ticket. -/
  | ask (credentials : Credentials) (body : Option TokenRequest) (nanoseconds : ℕ)
  /-- Someone connects to the server with a token. -/
  | connect (token nkey : String)
  /-- A connection publishes the request of a hostname. -/
  | publish (index : ℕ) (hostname reply : String)
  /-- A connection receives a published request. -/
  | receive (index number : ℕ)

/-- The permissions of a connection have not expired. -/
def System.live (system : System) (connection : Connection) : Bool :=
  system.clock < connection.user.expires * second

/-- A connection may answer a request that it has received. -/
def System.answers (system : System) (index : ℕ) (connection : Connection)
    (subject : String) : Bool :=
  connection.user.resp.isSome && system.received.any fun delivery =>
    delivery.receiver == index && delivery.request.reply == subject

section

variable (table : LowerTable) (idna : Idna) (jwt : JwtPackage) (nats : NatsPackage)
  (signer : Signer) (config : Config) (verify : String → Except String BrowserSession)

/-- One step of the system; an event that cannot happen is refused. Only the
control plane signs tickets, the server makes the keys of users, and an
ingress waits for claims in an inbox that the server's library has named. -/
def step (system : System) : Event → Option System
  | .wait nanoseconds => some { system with clock := system.clock + nanoseconds }
  | .ask credentials body nanoseconds =>
    let now := system.clock + nanoseconds
    match requireIdentity verify system.clock credentials,
      issueTunnelToken table idna jwt signer config verify system.clock now credentials body with
    | .ok session, .ok response =>
      some { system with clock := now, issued := ⟨session, now, response⟩ :: system.issued }
    | _, _ => some { system with clock := now }
  | .connect token nkey =>
    if nats.isUserKey nkey && (!jwt.signatureValid signer.secret token ||
        system.issued.any fun ticket => ticket.response.token == token) then
      match authorize table idna jwt nats signer config system.clock ⟨nkey, token⟩ with
      | .error _ => some system
      | .ok value =>
        (nats.decode value).map fun user =>
          { system with connections := system.connections ++ [⟨token, user⟩] }
    else none
  | .publish index hostname reply =>
    system.connections[index]?.bind fun connection =>
      (hostnameRequestSubject config.natsRequestSubjectPrefix hostname).bind fun subject =>
        if system.live connection &&
            (permits connection.user.pubAllow subject ||
              system.answers index connection subject) &&
            (connection.token != config.natsInternalIngressToken ||
              namespaceOf reply == some "_INBOX") then
          some { system with
            published := system.published ++ [⟨index, hostname, subject, reply⟩] }
        else none
  | .receive index number =>
    system.connections[index]?.bind fun connection =>
      system.published[number]?.bind fun request =>
        if system.live connection && permits connection.user.subAllow request.subject then
          some { system with received := ⟨index, request, system.clock⟩ :: system.received }
        else none

end

/-- The tokens of a subject are its pieces. -/
theorem publishedTokens_eq_some_iff {subject : String} {tokens : List Token} :
    publishedTokens subject = some tokens ↔ tokens.map Subtype.val = split '.' subject := by
  rw [publishedTokens]
  constructor
  · intro h
    split at h
    · cases h
      exact List.attachWith_map_subtype_val _
    · cases h
  · intro h
    have hall : ∀ token ∈ split '.' subject, publishable token = true := by
      rw [← h]
      intro token hm
      obtain ⟨found, -, rfl⟩ := List.mem_map.mp hm
      exact found.property
    rw [dif_pos hall, Option.some.injEq]
    apply List.map_injective_iff.mpr Subtype.val_injective
    rw [List.attachWith_map_subtype_val, h]

/-- A subject is permitted exactly when a permission is read as a pattern of its tokens. -/
theorem permits_iff {permissions : List String} {subject : String} :
    permits permissions subject = true ↔ ∃ tokens : List Token,
      tokens.map Subtype.val = split '.' subject ∧
        ∃ p ∈ permitted permissions, p.Matches tokens := by
  simp only [permits, Option.any_eq_true, List.any_eq_true, publishedTokens_eq_some_iff,
    Pattern.accepts_iff]
  constructor
  · rintro ⟨tokens, htokens, permission, hm, p, hp, hmatches⟩
    exact ⟨tokens, htokens, p, ⟨permission, hm, hp⟩, hmatches⟩
  · rintro ⟨tokens, htokens, p, ⟨permission, hm, hp⟩, hmatches⟩
    exact ⟨tokens, htokens, permission, hm, p, hp, hmatches⟩

/-- A usable prefix consists of tokens and starts outside the inboxes. -/
theorem exists_prefix_tokens {subjectPrefix : String} (h : usablePrefix subjectPrefix = true) :
    ∃ first rest, (first :: rest : List Token).map Subtype.val =
        split '.' (trimSuffix subjectPrefix ".") ∧
      first.val ≠ "_INBOX" ∧ first.val ≠ "_LFP_INBOX" := by
  rw [usablePrefix, Bool.and_eq_true, Bool.and_eq_true, bne_iff_ne, bne_iff_ne,
    List.all_eq_true] at h
  obtain ⟨⟨hall, hinbox⟩, hlfp⟩ := h
  have htokens := List.attachWith_map_subtype_val hall
  cases hlist : (split '.' (trimSuffix subjectPrefix ".")).attachWith _ hall with
  | nil =>
    rw [hlist] at htokens
    exact absurd htokens.symm (split_ne_nil '.' _)
  | cons first rest =>
    rw [hlist] at htokens
    rw [namespaceOf, ← htokens, List.map_cons, List.head?_cons, Ne, Option.some.injEq] at hinbox
    rw [namespaceOf, ← htokens, List.map_cons, List.head?_cons, Ne, Option.some.injEq] at hlfp
    exact ⟨first, rest, htokens, hinbox, hlfp⟩

/-- Both sides remove the same dots from a usable prefix. -/
theorem trimEndMatches_of_usablePrefix {subjectPrefix : String}
    (h : usablePrefix subjectPrefix = true) :
    trimEndMatches '.' subjectPrefix = trimSuffix subjectPrefix "." := by
  obtain ⟨first, rest, htokens, -, -⟩ := exists_prefix_tokens h
  have hlast : (trimSuffix subjectPrefix ".").toList.getLast? ≠ some '.' := by
    intro hdot
    have hempty := empty_mem_split_of_getLast hdot
    rw [← htokens] at hempty
    obtain ⟨token, -, htoken⟩ := List.mem_map.mp hempty
    have hpublishable := token.property
    rw [htoken] at hpublishable
    exact absurd hpublishable (by decide)
  by_cases hdot : subjectPrefix.toList.getLast? = some '.'
  · obtain ⟨before, hbefore⟩ := List.getLast?_eq_some_iff.mp hdot
    have hjoined : subjectPrefix = String.ofList before ++ "." := by
      apply String.toList_inj.mp
      rw [hbefore, String.toList_append, String.toList_ofList]
      rfl
    have htrim : trimSuffix subjectPrefix "." = String.ofList before := by
      have hstrip : stripEnd subjectPrefix "." = some (String.ofList before) := by
        rw [stripEnd_eq_some, String.toList_ofList, hbefore]
        rfl
      rw [trimSuffix, hstrip]
      rfl
    rw [htrim] at hlast ⊢
    rw [hjoined]
    exact trimEndMatches_append_dots 1 hlast
  · rw [trimEndMatches_of_getLast_ne hdot, trimSuffix_dot_of_getLast_ne hdot]

/-- The tokens of the request of a hostname. -/
theorem split_hostnameRequestSubject {subjectPrefix hostname s : String}
    (husable : usablePrefix subjectPrefix = true)
    (h : hostnameRequestSubject subjectPrefix hostname = some s) :
    split '.' s =
      split '.' (trimSuffix subjectPrefix ".") ++ (hostnameLabels hostname).reverse := by
  obtain ⟨-, -, rfl⟩ := hostnameRequestSubject_eq_some_iff.mp h
  have hdot : "." = String.singleton '.' := by decide
  have hne : (hostnameLabels hostname).reverse ≠ [] := by
    rw [Ne, List.reverse_eq_nil_iff]
    exact split_ne_nil '.' _
  rw [trimEndMatches_of_usablePrefix husable, hdot, split_append_separator,
    split_intercalate hne]
  intro label hl
  exact not_mem_of_mem_split (List.mem_reverse.mp hl)

/-- The first token of the request of a hostname. -/
theorem request_head {subjectPrefix hostname s : String} {tokens : List Token}
    (husable : usablePrefix subjectPrefix = true)
    (h : hostnameRequestSubject subjectPrefix hostname = some s)
    (htokens : tokens.map Subtype.val = split '.' s) :
    ∃ first rest, tokens = first :: rest ∧ first.val ≠ "_INBOX" ∧ first.val ≠ "_LFP_INBOX" := by
  obtain ⟨first, rest, hfirst, hinbox, hlfp⟩ := exists_prefix_tokens husable
  rw [split_hostnameRequestSubject husable h, ← hfirst] at htokens
  cases tokens with
  | nil => cases htokens
  | cons token tokens =>
    rw [List.map_cons, List.map_cons, List.cons_append] at htokens
    have hsame : token = first := Subtype.ext (List.cons.inj htokens).1
    exact ⟨token, tokens, rfl, hsame ▸ hinbox, hsame ▸ hlfp⟩

/-- The request of a hostname is outside the inbox of an ingress. -/
theorem request_namespace {subjectPrefix hostname s : String}
    (husable : usablePrefix subjectPrefix = true)
    (h : hostnameRequestSubject subjectPrefix hostname = some s) :
    namespaceOf s ≠ some "_INBOX" := by
  obtain ⟨first, rest, hfirst, hinbox, -⟩ := exists_prefix_tokens husable
  rw [namespaceOf, split_hostnameRequestSubject husable h, ← hfirst, List.map_cons,
    List.cons_append, List.head?_cons, Ne, Option.some.injEq]
  exact hinbox

section

variable {table : LowerTable} {idna : Idna} {subjectPrefix hostname s : String}

/-- A permission for the inboxes of the ingresses covers no request. -/
theorem not_permits_inbox (husable : usablePrefix subjectPrefix = true)
    (h : hostnameRequestSubject subjectPrefix hostname = some s) :
    permits ["_INBOX.>"] s = false := by
  rw [Bool.eq_false_iff, Ne, permits_iff]
  rintro ⟨tokens, htokens, p, ⟨permission, hm, hp⟩, hmatches⟩
  obtain ⟨first, rest, rfl, hinbox, -⟩ := request_head husable h htokens
  rw [List.mem_singleton.mp hm] at hp
  have hpattern : parsePattern (split '.' "_INBOX.>") =
      some (.literal ⟨"_INBOX", by decide⟩ .rest) := by decide
  rw [hpattern] at hp
  cases hp
  obtain ⟨xs, hcons, -⟩ := hmatches
  rw [(List.cons.inj hcons).1] at hinbox
  exact hinbox rfl

/-- The permissions of a ticket cover exactly the requests of its hostname. -/
theorem permits_tunnelUser_iff (config : Config) (nkey id : String) (expires : ℤ)
    {route requestSubject : String}
    (husable : usablePrefix config.natsRequestSubjectPrefix = true)
    (hid : publishable id = true) (hdot : '.' ∉ id.toList) (hroute : Normalized idna route)
    (hsubject : subject table idna config.natsRequestSubjectPrefix route = .ok requestSubject)
    (h : hostnameRequestSubject config.natsRequestSubjectPrefix hostname = some s) :
    permits (tunnelUser config nkey id requestSubject expires).subAllow s = true ↔
      hostnameLabels hostname = labels route := by
  obtain ⟨first, rest, hfirst, -, -⟩ := exists_prefix_tokens husable
  obtain ⟨own, hown, -⟩ := exists_reverse_tokens hroute
  have hsplit := split_hostnameRequestSubject husable h
  have hnormal : RouteAuth.normalizeHostname table idna route = .ok route :=
    hroute.normalizeHostname_eq
  have hallowed := split_requestSubject hnormal hsubject
  have htokens : ((first :: rest) ++ own).map Subtype.val = split '.' requestSubject := by
    rw [hallowed, requestTokens, List.map_append, hfirst, hown]
  have hparse : parsePattern (split '.' requestSubject) =
      some (.literals ((first :: rest) ++ own)) := by
    rw [← htokens, parsePattern_literals]
  have hallow := mem_tunnelUser_subAllow config nkey id expires (subject_ne_empty hsubject)
  rw [permits_iff]
  constructor
  · rintro ⟨tokens, hpublished, p, ⟨permission, hm, hp⟩, hmatches⟩
    rcases (hallow permission).mp hm with rfl | rfl
    · rw [hparse] at hp
      cases hp
      rw [Pattern.literals_matches_iff] at hmatches
      rw [hmatches, htokens, hallowed, hsplit, requestTokens] at hpublished
      rw [labels, ← List.reverse_injective (List.append_cancel_left hpublished)]
    · rw [parsePattern_inbox ⟨id, hid⟩ hdot] at hp
      cases hp
      obtain ⟨head, tail, rfl, -, hlfp⟩ := request_head husable h hpublished
      obtain ⟨xs, hcons, -⟩ := hmatches
      rw [(List.cons.inj hcons).1] at hlfp
      exact absurd rfl hlfp
  · intro hlabels
    refine ⟨(first :: rest) ++ own, ?_, .literals ((first :: rest) ++ own), ?_, ?_⟩
    · rw [htokens, hallowed, hsplit, requestTokens, hlabels, labels]
    · exact ⟨requestSubject, (hallow _).mpr (Or.inl rfl), hparse⟩
    · rw [Pattern.literals_matches_iff]

end

section

variable {table : LowerTable} {idna : Idna} {jwt : JwtPackage} {nats : NatsPackage}
  {signer : Signer} {config : Config} {verify : String → Except String BrowserSession}

/-- Permissions come from the token of the ingresses or from a signed ticket. -/
theorem authorize_ok {now : ℤ} {request : AuthorizationRequest} {value : String}
    (h : authorize table idna jwt nats signer config now request = .ok value) :
    (request.token = config.natsInternalIngressToken ∧
        nats.encode (ingressUser config now request.userNkey) = .ok value) ∨
      (request.token ≠ config.natsInternalIngressToken ∧
        ∃ claims requestSubject expires, jwt.decode request.token = some (true, claims) ∧
          jwt.signatureValid signer.secret request.token = true ∧
          subject table idna config.natsRequestSubjectPrefix claims.route = .ok requestSubject ∧
          claims.expiresAt = some expires ∧
          nats.encode (tunnelUser config request.userNkey claims.clientID requestSubject expires) =
            .ok value) := by
  rw [authorize] at h
  split at h
  · rename_i htoken
    exact Or.inl ⟨beq_iff_eq.mp htoken, h⟩
  · rename_i htoken
    refine Or.inr ⟨fun heq => htoken (beq_iff_eq.mpr heq), ?_⟩
    cases hparse : signer.parse jwt now request.token with
    | error message =>
      rw [hparse] at h
      cases h
    | ok claims =>
      rw [hparse] at h
      dsimp only at h
      split at h
      · cases h
      · split at h
        · cases h
        · rename_i requestSubject hsubject
          split at h
          · cases h
          · rename_i expires hexpires
            have hsigned : jwt.decode request.token = some (true, claims) ∧
                jwt.signatureValid signer.secret request.token = true := by
              rw [Signer.parse] at hparse
              dsimp only at hparse
              split at hparse
              · cases hparse
              · rename_i hs256 found hdecode
                split at hparse
                · cases hparse
                · rename_i hmethod
                  split at hparse
                  · cases hparse
                  · rename_i hsignature
                    split at hparse
                    · cases hparse
                    · split at hparse
                      · cases hparse
                      · cases hparse
                        rw [Bool.not_eq_true', Bool.not_eq_false] at hmethod hsignature
                        rw [hmethod] at hdecode
                        exact ⟨hdecode, hsignature⟩
            exact ⟨claims, requestSubject, expires, hsigned.1, hsigned.2, hsubject, hexpires, h⟩

/-- What is known of a ticket. -/
structure TicketKnown (table : LowerTable) (idna : Idna) (jwt : JwtPackage) (signer : Signer)
    (config : Config) (ticket : Ticket) : Prop where
  /-- It was issued in answer to a request. -/
  issued : ∃ body, Issued table idna jwt signer config ticket.issuedAt body ticket.response
  /-- An entitlement of the identity covers its hostname. -/
  granted : ∃ requested entitlement, Granted table idna ticket.session.entitlements requested
    config.allowedRouteSuffix ticket.response.hostname entitlement

/-- The permissions of a ticket. -/
def Ticket.user (config : Config) (nkey : String) (ticket : Ticket) : UserClaims :=
  tunnelUser config nkey ticket.response.clientID ticket.response.requestSubject
    ticket.response.expiresUnix

/-- A connection of an ingress, or of a client with a ticket. -/
inductive ConnectionKnown (config : Config) (issued : List Ticket) (connection : Connection) :
    Prop where
  /-- It has the token of the ingresses. -/
  | ingress (now : ℤ) (nkey : String)
    (token : connection.token = config.natsInternalIngressToken)
    (user : connection.user = ingressUser config now nkey)
  /-- It has a ticket. -/
  | client (ticket : Ticket) (nkey : String) (mem : ticket ∈ issued)
    (token : connection.token = ticket.response.token)
    (other : connection.token ≠ config.natsInternalIngressToken)
    (user : connection.user = ticket.user config nkey)

/-- A request that an ingress has published. -/
structure RequestKnown (config : Config) (connections : List Connection) (request : Request) :
    Prop where
  /-- The publisher is an ingress. -/
  publisher : ∃ connection, connections[request.publisher]? = some connection ∧
    connection.token = config.natsInternalIngressToken
  /-- The subject is the one of the hostname. -/
  subject : hostnameRequestSubject config.natsRequestSubjectPrefix request.hostname =
    some request.subject
  /-- Claims are sent to an inbox. -/
  reply : namespaceOf request.reply = some "_INBOX"

/-- A received request was permitted at the time. -/
structure DeliveryKnown (system : System) (delivery : Delivery) : Prop where
  /-- The request was published. -/
  published : delivery.request ∈ system.published
  /-- The receiver was connected and permitted to receive it. -/
  permitted : ∃ connection, system.connections[delivery.receiver]? = some connection ∧
    delivery.receivedAt < connection.user.expires * second ∧
    permits connection.user.subAllow delivery.request.subject = true

/-- What is known of the system. -/
structure Known (table : LowerTable) (idna : Idna) (jwt : JwtPackage) (signer : Signer)
    (config : Config) (system : System) : Prop where
  /-- The tickets are known. -/
  issued : ∀ ticket ∈ system.issued, TicketKnown table idna jwt signer config ticket
  /-- The connections are known. -/
  connections : ∀ connection ∈ system.connections,
    ConnectionKnown config system.issued connection
  /-- The published requests are known. -/
  published : ∀ request ∈ system.published, RequestKnown config system.connections request
  /-- The received requests are known. -/
  received : ∀ delivery ∈ system.received, DeliveryKnown system delivery

/-- Nothing is wrong at the start. -/
theorem known_initial (clock : ℤ) : Known table idna jwt signer config (System.initial clock) where
  issued ticket hm := by cases hm
  connections connection hm := by cases hm
  published request hm := by cases hm
  received delivery hm := by cases hm

/-- A ticket that the handler has issued is known. -/
theorem ticketKnown_of_issue {checked now : ℤ} {credentials : Credentials}
    {body : Option TokenRequest} {session : BrowserSession} {response : TokenResponse}
    (hsession : requireIdentity verify checked credentials = .ok session)
    (h : issueTunnelToken table idna jwt signer config verify checked now credentials body =
      .ok response) : TicketKnown table idna jwt signer config ⟨session, now, response⟩ := by
  refine ⟨⟨body, issueTunnelToken_ok h⟩, ?_⟩
  rw [issueTunnelToken, hsession] at h
  dsimp only at h
  split at h
  · cases h
  · rename_i request
    split at h
    · cases h
    · rename_i route entitlement hmatch
      split at h
      · cases h
      · split at h
        · cases h
        · split at h
          · cases h
          · cases h
            exact ⟨request.hostname, entitlement,
              ((entitlement_matching_exact table idna _ _ _).1 _ _).mp hmatch⟩

/-- The claims that a token of a ticket carries. -/
theorem TicketKnown.decode {ticket : Ticket}
    (h : TicketKnown table idna jwt signer config ticket) :
    ∃ claims, jwt.decode ticket.response.token = some (true, claims) ∧
      jwt.signatureValid signer.secret ticket.response.token = true ∧
      claims.route = ticket.response.hostname ∧ claims.clientID = ticket.response.clientID ∧
      claims.expiresAt = some ticket.response.expiresUnix := by
  obtain ⟨body, hissued⟩ := h.issued
  obtain ⟨request, sub, entitlement, -, -, -, -, hissue⟩ := hissued.granted
  obtain ⟨-, hsignature, hdecode⟩ := issue_ok hissue
  exact ⟨_, hdecode, hsignature, rfl, rfl, by rw [hissued.expiresUnix_eq]⟩

/-- A connection that the callout admits is known. -/
theorem connectionKnown_of_authorize {issued : List Ticket} {now : ℤ} {token nkey value : String}
    {user : UserClaims}
    (hissued : ∀ ticket ∈ issued, TicketKnown table idna jwt signer config ticket)
    (hkey : nats.isUserKey nkey = true)
    (hsigned : jwt.signatureValid signer.secret token = true →
      ∃ ticket ∈ issued, ticket.response.token = token)
    (h : authorize table idna jwt nats signer config now ⟨nkey, token⟩ = .ok value)
    (huser : nats.decode value = some user) : ConnectionKnown config issued ⟨token, user⟩ := by
  have hread : ∀ claims : UserClaims, claims.nkey = nkey → nats.encode claims = .ok value →
      user = claims := by
    intro claims hnkey hencode
    obtain ⟨encoded, hencoded, hdecoded⟩ := nats.encoded claims (hnkey ▸ hkey)
    rw [hencode] at hencoded
    rw [← Except.ok.inj hencoded, huser] at hdecoded
    exact Option.some.inj hdecoded
  rcases authorize_ok h with ⟨htoken, hencode⟩ | ⟨hother, claims, requestSubject, expires, hdecode,
    hsignature, hsubject, hexpires, hencode⟩
  · exact .ingress now nkey htoken (hread _ rfl hencode)
  · obtain ⟨ticket, hm, heq⟩ := hsigned hsignature
    have hknown := hissued ticket hm
    obtain ⟨own, hown, -, hroute, hclient, hend⟩ := hknown.decode
    dsimp only at hdecode
    rw [heq, hdecode] at hown
    cases hown
    obtain ⟨body, hbody⟩ := hknown.issued
    rw [hroute, hbody.requestSubject_eq] at hsubject
    rw [hend] at hexpires
    cases hsubject
    cases hexpires
    rw [hclient] at hencode
    exact .client ticket nkey hm heq.symm hother (hread _ rfl hencode)

/-- A connection stays known when more tickets are issued. -/
theorem ConnectionKnown.mono {issued more : List Ticket} {connection : Connection}
    (h : ConnectionKnown config issued connection) (hsub : ∀ ticket ∈ issued, ticket ∈ more) :
    ConnectionKnown config more connection := by
  cases h with
  | ingress now nkey token user => exact .ingress now nkey token user
  | client ticket nkey mem token other user =>
    exact .client ticket nkey (hsub ticket mem) token other user

/-- A delivery stays known when connections and requests are added. -/
theorem DeliveryKnown.mono {system next : System} {delivery : Delivery}
    (h : DeliveryKnown system delivery)
    (hpublished : ∀ request ∈ system.published, request ∈ next.published)
    (hconnections : ∀ (index : ℕ) (connection : Connection),
      system.connections[index]? = some connection →
        next.connections[index]? = some connection) : DeliveryKnown next delivery := by
  obtain ⟨connection, hindex, hpermitted⟩ := h.permitted
  exact ⟨hpublished _ h.published, connection, hconnections _ _ hindex, hpermitted⟩

/-- What stood at a position is there after an addition. -/
theorem getElem?_append_of_some {α : Type} {l : List α} {index : ℕ} {found : α} (more : List α)
    (h : l[index]? = some found) : (l ++ more)[index]? = some found := by
  obtain ⟨hlt, -⟩ := List.getElem?_eq_some_iff.mp h
  rw [List.getElem?_append_left hlt, h]

/-- Only an ingress can publish the request of a hostname. -/
theorem Known.publisher {system : System} (h : Known table idna jwt signer config system)
    (husable : usablePrefix config.natsRequestSubjectPrefix = true) {index : ℕ}
    {connection : Connection} {hostname requestSubject : String}
    (hm : connection ∈ system.connections)
    (hsubject : hostnameRequestSubject config.natsRequestSubjectPrefix hostname =
      some requestSubject)
    (hallowed : permits connection.user.pubAllow requestSubject = true ∨
      system.answers index connection requestSubject = true) :
    connection.token = config.natsInternalIngressToken := by
  cases h.connections connection hm with
  | ingress now nkey token user => exact token
  | client ticket nkey mem token other user =>
    rcases hallowed with hpermits | hanswers
    · rw [user, Ticket.user] at hpermits
      have hinbox : permits ["_INBOX.>"] requestSubject = true := hpermits
      rw [not_permits_inbox husable hsubject] at hinbox
      cases hinbox
    · rw [System.answers, Bool.and_eq_true, List.any_eq_true] at hanswers
      obtain ⟨-, delivery, hdelivery, hmatch⟩ := hanswers
      rw [Bool.and_eq_true, beq_iff_eq, beq_iff_eq] at hmatch
      have hreply := (h.published _ (h.received delivery hdelivery).published).reply
      rw [hmatch.2] at hreply
      exact absurd hreply (request_namespace husable hsubject)

/-- Every step keeps what is known. -/
theorem Known.step (husable : usablePrefix config.natsRequestSubjectPrefix = true)
    {system next : System} {event : Event} (h : Known table idna jwt signer config system)
    (hstep : RequestDelivery.step table idna jwt nats signer config verify system event =
      some next) : Known table idna jwt signer config next := by
  cases event with
  | wait nanoseconds =>
    cases hstep
    refine ⟨h.issued, h.connections, h.published, fun delivery hm => ?_⟩
    exact (h.received delivery hm).mono (fun _ => id) (fun _ _ => id)
  | ask credentials body nanoseconds =>
    rw [RequestDelivery.step] at hstep
    split at hstep
    · rename_i session response hsession hresponse
      cases hstep
      refine ⟨?_, ?_, h.published, fun delivery hm => ?_⟩
      · intro ticket hm
        rcases List.mem_cons.mp hm with rfl | hm
        · exact ticketKnown_of_issue hsession hresponse
        · exact h.issued ticket hm
      · intro connection hm
        exact (h.connections connection hm).mono fun ticket => List.mem_cons_of_mem _
      · exact (h.received delivery hm).mono (fun _ => id) (fun _ _ => id)
    · cases hstep
      refine ⟨h.issued, h.connections, h.published, fun delivery hm => ?_⟩
      exact (h.received delivery hm).mono (fun _ => id) (fun _ _ => id)
  | connect token nkey =>
    rw [RequestDelivery.step] at hstep
    split at hstep
    · rename_i hguard
      rw [Bool.and_eq_true, Bool.or_eq_true, List.any_eq_true] at hguard
      split at hstep
      · cases hstep
        exact h
      · rename_i value hauth
        obtain ⟨user, huser, rfl⟩ := Option.map_eq_some_iff.mp hstep
        refine ⟨h.issued, ?_, ?_, fun delivery hm => ?_⟩
        · intro connection hm
          rcases List.mem_append.mp hm with hm | hm
          · exact h.connections connection hm
          · rw [List.mem_singleton] at hm
            subst hm
            refine connectionKnown_of_authorize h.issued hguard.1 ?_ hauth huser
            intro hsignature
            rcases hguard.2 with hunsigned | ⟨ticket, hm, htoken⟩
            · rw [hsignature] at hunsigned
              cases hunsigned
            · exact ⟨ticket, hm, beq_iff_eq.mp htoken⟩
        · intro request hm
          obtain ⟨⟨connection, hindex, htoken⟩, hsubject, hreply⟩ := h.published request hm
          exact ⟨⟨connection, getElem?_append_of_some _ hindex, htoken⟩, hsubject, hreply⟩
        · exact (h.received delivery hm).mono (fun _ => id)
            (fun _ _ hindex => getElem?_append_of_some _ hindex)
    · cases hstep
  | publish index hostname reply =>
    obtain ⟨connection, hindex, hrest⟩ := Option.bind_eq_some_iff.mp hstep
    obtain ⟨requestSubject, hsubject, hrest⟩ := Option.bind_eq_some_iff.mp hrest
    split at hrest
    · rename_i hguard
      cases hrest
      rw [Bool.and_eq_true, Bool.and_eq_true, Bool.or_eq_true, Bool.or_eq_true] at hguard
      have hingress := h.publisher husable (List.mem_of_getElem? hindex) hsubject hguard.1.2
      refine ⟨h.issued, h.connections, ?_, fun delivery hm => ?_⟩
      · intro request hm
        rcases List.mem_append.mp hm with hm | hm
        · exact h.published request hm
        · rw [List.mem_singleton] at hm
          subst hm
          refine ⟨⟨connection, hindex, hingress⟩, hsubject, ?_⟩
          rcases hguard.2 with hother | hreply
          · exact absurd hingress (bne_iff_ne.mp hother)
          · exact beq_iff_eq.mp hreply
      · exact (h.received delivery hm).mono (fun _ => List.mem_append_left _) (fun _ _ => id)
    · cases hrest
  | receive index number =>
    obtain ⟨connection, hindex, hrest⟩ := Option.bind_eq_some_iff.mp hstep
    obtain ⟨request, hnumber, hrest⟩ := Option.bind_eq_some_iff.mp hrest
    split at hrest
    · rename_i hguard
      cases hrest
      rw [Bool.and_eq_true, System.live, decide_eq_true_eq] at hguard
      refine ⟨h.issued, h.connections, h.published, fun delivery hm => ?_⟩
      rcases List.mem_cons.mp hm with rfl | hm
      · exact ⟨List.mem_of_getElem? hnumber, connection, hindex, hguard⟩
      · exact (h.received delivery hm).mono (fun _ => id) (fun _ _ => id)
    · cases hrest

/-- A connection with the token of a ticket has the permissions of the ticket. -/
theorem Known.user_of_token {system : System} (h : Known table idna jwt signer config system)
    (hinternal : jwt.signatureValid signer.secret config.natsInternalIngressToken = false)
    {connection : Connection} (hm : connection ∈ system.connections) {ticket : Ticket}
    (hticket : ticket ∈ system.issued) (htoken : connection.token = ticket.response.token) :
    ∃ nkey, connection.user = ticket.user config nkey := by
  obtain ⟨claims, hdecode, hsignature, hroute, hid, hexpires⟩ := (h.issued ticket hticket).decode
  cases h.connections connection hm with
  | ingress now nkey token user =>
    rw [← htoken, token, hinternal] at hsignature
    cases hsignature
  | client own nkey mem token other user =>
    obtain ⟨others, hothers, -, hotherRoute, hotherId, hotherExpires⟩ := (h.issued own mem).decode
    rw [← token, htoken, hdecode] at hothers
    cases hothers
    obtain ⟨_, hissued⟩ := (h.issued ticket hticket).issued
    obtain ⟨_, hownIssued⟩ := (h.issued own mem).issued
    have hsubject : own.response.requestSubject = ticket.response.requestSubject := by
      have hsame := hownIssued.requestSubject_eq
      rw [← hotherRoute, hroute, hissued.requestSubject_eq] at hsame
      exact (Except.ok.inj hsame).symm
    have hend : own.response.expiresUnix = ticket.response.expiresUnix := by
      rw [hexpires] at hotherExpires
      exact (Option.some.inj hotherExpires).symm
    refine ⟨nkey, ?_⟩
    rw [user, Ticket.user, Ticket.user, ← hotherId, hid, hsubject, hend]

/-- The permissions of a ticket cover exactly the requests of its hostname. -/
theorem TicketKnown.permits_iff {ticket : Ticket}
    (h : TicketKnown table idna jwt signer config ticket)
    (husable : usablePrefix config.natsRequestSubjectPrefix = true) (nkey : String)
    {hostname s : String}
    (hsubject : hostnameRequestSubject config.natsRequestSubjectPrefix hostname = some s) :
    permits (ticket.user config nkey).subAllow s = true ↔
      hostnameLabels hostname = labels ticket.response.hostname := by
  obtain ⟨body, hissued⟩ := h.issued
  obtain ⟨request, sub, entitlement, -, -, hmatched, hid, -⟩ := hissued.granted
  exact permits_tunnelUser_iff config nkey _ _ husable (publishable_clientID hid)
    (dot_not_mem_clientID hid) (normalizeHostname_ok hmatched.route_eq) hissued.requestSubject_eq
    hsubject

/-- A connection may receive exactly the requests of the hostname of its
ticket; an ingress receives none. -/
theorem Known.permits_iff {system : System} (h : Known table idna jwt signer config system)
    (husable : usablePrefix config.natsRequestSubjectPrefix = true)
    (hinternal : jwt.signatureValid signer.secret config.natsInternalIngressToken = false)
    {connection : Connection} (hm : connection ∈ system.connections) {hostname s : String}
    (hsubject : hostnameRequestSubject config.natsRequestSubjectPrefix hostname = some s) :
    permits connection.user.subAllow s = true ↔
      ∃ ticket ∈ system.issued, connection.token = ticket.response.token ∧
        hostnameLabels hostname = labels ticket.response.hostname := by
  constructor
  · intro hpermits
    cases h.connections connection hm with
    | ingress now nkey token user =>
      rw [user] at hpermits
      have hinbox : permits ["_INBOX.>"] s = true := hpermits
      rw [not_permits_inbox husable hsubject] at hinbox
      cases hinbox
    | client ticket nkey mem token other user =>
      rw [user, (h.issued ticket mem).permits_iff husable nkey hsubject] at hpermits
      exact ⟨ticket, mem, token, hpermits⟩
  · rintro ⟨ticket, hticket, htoken, hlabels⟩
    obtain ⟨nkey, huser⟩ := h.user_of_token hinternal hm hticket htoken
    rw [huser, (h.issued ticket hticket).permits_iff husable nkey hsubject]
    exact hlabels

/-- What every received request satisfies: an ingress published it, and it is
for the hostname of a ticket that the receiver presented, that its identity is
entitled to and that had not expired. -/
structure Entitled (table : LowerTable) (idna : Idna) (signer : Signer) (config : Config)
    (system : System) (delivery : Delivery) : Prop where
  /-- The publisher presented the token of the ingresses. -/
  publisher : ∃ connection, system.connections[delivery.request.publisher]? = some connection ∧
    connection.token = config.natsInternalIngressToken
  /-- The receiver presented a ticket. -/
  receiver : ∃ connection ticket, system.connections[delivery.receiver]? = some connection ∧
    ticket ∈ system.issued ∧ connection.token = ticket.response.token ∧
    hostnameLabels delivery.request.hostname = labels ticket.response.hostname ∧
    delivery.receivedAt < ticket.issuedAt + signer.ttl ∧
    ∃ root owned, normalizeHostname table idna config.allowedRouteSuffix = .ok root ∧
      Candidate table idna ticket.session.entitlements root ticket.response.hostname owned

/-- In every run, a connection receives a request exactly while it holds a
ticket for the request's hostname, and all that was received was published by
an ingress for an entitled identity. -/
theorem requests_reach_their_owners {start : ℤ} {system : System}
    (husable : usablePrefix config.natsRequestSubjectPrefix = true)
    (hinternal : jwt.signatureValid signer.secret config.natsInternalIngressToken = false)
    (hreach : Reachable (RequestDelivery.step table idna jwt nats signer config verify)
      (System.initial start) system) :
    (∀ index number,
      (RequestDelivery.step table idna jwt nats signer config verify system
          (.receive index number)).isSome = true ↔
        ∃ connection request ticket, system.connections[index]? = some connection ∧
          system.published[number]? = some request ∧ ticket ∈ system.issued ∧
          connection.token = ticket.response.token ∧
          hostnameLabels request.hostname = labels ticket.response.hostname ∧
          system.clock < ticket.response.expiresUnix * second) ∧
    ∀ delivery ∈ system.received, Entitled table idna signer config system delivery := by
  have hknown : Known table idna jwt signer config system :=
    hreach.invariant (fun state event next hk => Known.step husable hk) (known_initial start)
  constructor
  · intro index number
    rw [Option.isSome_iff_exists]
    constructor
    · rintro ⟨next, hstep⟩
      obtain ⟨connection, hindex, hrest⟩ := Option.bind_eq_some_iff.mp hstep
      obtain ⟨request, hnumber, hrest⟩ := Option.bind_eq_some_iff.mp hrest
      split at hrest
      · rename_i hguard
        rw [Bool.and_eq_true, System.live, decide_eq_true_eq] at hguard
        have hsubject := (hknown.published request (List.mem_of_getElem? hnumber)).subject
        have hm := List.mem_of_getElem? hindex
        obtain ⟨ticket, hticket, htoken, hlabels⟩ :=
          (hknown.permits_iff husable hinternal hm hsubject).mp hguard.2
        obtain ⟨nkey, huser⟩ := hknown.user_of_token hinternal hm hticket htoken
        rw [huser] at hguard
        exact ⟨connection, request, ticket, hindex, hnumber, hticket, htoken, hlabels, hguard.1⟩
      · cases hrest
    · rintro ⟨connection, request, ticket, hindex, hnumber, hticket, htoken, hlabels, hlive⟩
      have hsubject := (hknown.published request (List.mem_of_getElem? hnumber)).subject
      have hm := List.mem_of_getElem? hindex
      have hpermits := (hknown.permits_iff husable hinternal hm hsubject).mpr
        ⟨ticket, hticket, htoken, hlabels⟩
      obtain ⟨nkey, huser⟩ := hknown.user_of_token hinternal hm hticket htoken
      have hconnected : system.live connection = true := by
        rw [System.live, decide_eq_true_eq, huser]
        exact hlive
      simp only [RequestDelivery.step, hindex, hnumber, Option.bind_some, hpermits, hconnected,
        Bool.and_self, if_true, Option.some.injEq, exists_eq']
  · intro delivery hm
    obtain ⟨hpublished, connection, hindex, hlive, hpermits⟩ := hknown.received delivery hm
    have hrequest := hknown.published delivery.request hpublished
    have hm := List.mem_of_getElem? hindex
    obtain ⟨ticket, hticket, htoken, hlabels⟩ :=
      (hknown.permits_iff husable hinternal hm hrequest.subject).mp hpermits
    obtain ⟨nkey, huser⟩ := hknown.user_of_token hinternal hm hticket htoken
    obtain ⟨body, hissued⟩ := (hknown.issued ticket hticket).issued
    obtain ⟨requested, entitlement, hgranted⟩ := (hknown.issued ticket hticket).granted
    obtain ⟨root, hroot, -, -, hcandidate, -⟩ := hgranted.most_specific
    refine ⟨hrequest.publisher, connection, ticket, hindex, hticket, htoken, hlabels, ?_, root,
      entitlement, hroot, hcandidate⟩
    obtain ⟨_, _, _, -, -, -, -, hissue⟩ := hissued.granted
    have hend := (issue_ok hissue).1
    have hround := unix_mul_second_le ticket.response.expiresAt
    have hlimit : connection.user.expires = ticket.response.expiresUnix := by
      rw [huser]
      rfl
    rw [hlimit, hissued.expiresUnix_eq] at hlive
    omega

end

/-- A package that writes the position of listed claims in plus signs and the
code of all others in unary, for one user key. -/
def listedNats (users : List UserClaims) : NatsPackage where
  isUserKey key := key == "UDEMO"
  encode user :=
    if user.nkey == "UDEMO" then
      match users.idxOf? user with
      | some i => .ok (String.ofList (List.replicate (i + 1) '+'))
      | none => .ok (String.ofList (List.replicate (Encodable.encode user) '1'))
    else .error "expected subject to be user public key"
  decode value :=
    if value.toList.head? == some '+' then users[value.length - 1]?
    else Encodable.decode value.length
  encoded := by
    intro user hkey
    rw [if_pos hkey]
    split
    · rename_i i hi
      obtain ⟨hlt, hget, -⟩ := List.idxOf?_eq_some_iff.mp hi
      refine ⟨_, rfl, ?_⟩
      rw [String.toList_ofList, String.length_ofList, List.length_replicate, Nat.add_sub_cancel,
        List.getElem?_eq_getElem hlt, hget]
      rfl
    · have hhead : ∀ n, ((List.replicate n '1').head? == some '+') = false := by
        intro n
        cases n with
        | zero => rfl
        | succ n => rfl
      refine ⟨_, rfl, ?_⟩
      rw [String.toList_ofList, String.length_ofList, List.length_replicate, hhead,
        Encodable.encodek]
      rfl

/-- The permissions of a sample ingress and of the sample client. -/
def sampleUsers : List UserClaims :=
  [ingressUser sampleConfig 1700000000000000000 "UDEMO",
    tunnelUser sampleConfig "UDEMO" "laptop" "lfp.v1.connect.domain.subdomain.a" 1700000900]

/-- A step of the sample system. -/
def sampleStep : System → Event → Option System :=
  step asciiTable plainIdna (listedJwt sampleTickets) (listedNats sampleUsers)
    ⟨[1, 2, 3], 900 * second⟩ sampleConfig (fun _ => .error "no verifier")

/-- An ingress publishes the request of a client that has asked for its ticket. -/
def sampleEvents : List Event :=
  [.connect "internal-only" "UDEMO",
    .ask (sampleSession "alice" "a.subdomain.domain") (some ⟨"a.subdomain.domain", "laptop"⟩) 0,
    .connect "1" "UDEMO", .publish 0 "A.subdomain.domain." "_INBOX.claims", .receive 1 0]

/-- The request is received and its receiver is entitled to it. -/
theorem requests_reach_their_owners_alice :
    ∃ system, run sampleStep (System.initial 1700000000000000000) sampleEvents = some system ∧
      system.received.length = 1 ∧ ∀ delivery ∈ system.received,
        Entitled asciiTable plainIdna ⟨[1, 2, 3], 900 * second⟩ sampleConfig system delivery := by
  have hrun : (run sampleStep (System.initial 1700000000000000000) sampleEvents).map
      (fun system => system.received.length) = some 1 := by decide +kernel
  obtain ⟨system, hsystem, hreceived⟩ := Option.map_eq_some_iff.mp hrun
  have hall := requests_reach_their_owners (by decide) (by decide) ⟨sampleEvents, hsystem⟩
  exact ⟨system, hsystem, hreceived, hall.2⟩

end LfpPipe.RequestDelivery
