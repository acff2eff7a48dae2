import LfpPipe.TenantIsolation
import LfpPipe.TicketClients
import LfpPipe.TransitionRuns

/-!
# Client identifiers that stay as they are

The control plane turns the name of a client into one token of a subject. What
it has returned once it returns again, so a client that is configured with a
returned identifier is never stopped by its check. Control planes answer
tickets to anyone here, clients are started and go round their loops, and
every request and answer can be lost.
-/

namespace LfpPipe.StableIdentifiers

open RustText GoText Fallible SharedConfig RouteAuth TunnelTickets TenantIsolation TicketClients
open TransitionRuns

/-- What is promised of a client identifier. -/
structure StableToken (id : String) : Prop where
  /-- It has between 2 and 48 characters. -/
  length : 2 ≤ id.toList.length ∧ id.toList.length ≤ 48
  /-- They are lowercase letters, digits, underscores and hyphens of ASCII. -/
  chars : ∀ c ∈ id.toList, ('a' ≤ c ∧ c ≤ 'z') ∨ ('0' ≤ c ∧ c ≤ '9') ∨ c = '_' ∨ c = '-'
  /-- No hyphen leads. -/
  leading : id.toList.head? ≠ some '-'
  /-- No hyphen trails. -/
  trailing : id.toList.getLast? ≠ some '-'
  /-- There is no separator and no wildcard. -/
  plain : ∀ c ∈ id.toList, c ≠ '.' ∧ c ≠ '*' ∧ c ≠ '>'
  /-- It is one token of a subject. -/
  single : split '.' id = [id] ∧ publishable id = true
  /-- The inbox permission is for what lies below that token. -/
  inbox : ∃ token : Token, token.val = id ∧
    parsePattern (split '.' ("_LFP_INBOX." ++ id ++ ".>")) = some (inboxPattern token)
  /-- It is converted to itself. -/
  fixed : ∀ table, clientID table id = .ok id

/-- A control plane while it serves one request. -/
structure ControlPlane where
  /-- Lower case of the characters. -/
  table : LowerTable
  /-- Hostname profile. -/
  idna : Idna
  /-- Token package. -/
  jwt : JwtPackage
  /-- Signer of the tickets. -/
  signer : Signer
  /-- Its settings. -/
  config : Config
  /-- Verifier of access tokens. -/
  verify : String → Except String BrowserSession
  /-- Time at which the session is checked. -/
  checked : ℤ
  /-- Time at which the ticket is issued. -/
  now : ℤ

/-- Answer a ticket request. -/
def ControlPlane.answer (plane : ControlPlane) (credentials : Credentials)
    (body : Option TokenRequest) : Except HttpError TokenResponse :=
  issueTunnelToken plane.table plane.idna plane.jwt plane.signer plane.config plane.verify
    plane.checked plane.now credentials body

/-- The identifier that an answer returns. -/
def returnedId : Except HttpError TokenResponse → List String
  | .error _ => []
  | .ok response => [response.clientID]

/-- How a client reads an answer. -/
def replyOf : Except HttpError TokenResponse → Reply TicketResponse
  | .error refusal => ⟨refusal.status, .error [refusal.message]⟩
  | .ok response =>
    ⟨201, .ok ⟨response.token, some (.ofInt response.expiresUnix), response.clientID,
      response.requestSubject, response.natsURLs⟩⟩

/-- What becomes of a request on its way. A request that arrives can be read or
not. -/
inductive Delivery where
  /-- It arrives, and the answer gets back. -/
  | answered (readable : Bool)
  /-- It may arrive, and there is no answer, or that of something in between. -/
  | disturbed (arrives : Option Bool) (instead : Except AnyError (ℕ × AnyError))

/-- Whether the request arrives, and whether it can be read. -/
def Delivery.arrives : Delivery → Option Bool
  | .answered readable => some readable
  | .disturbed arrives _ => arrives

/-- Answer a client that presents an access token. -/
def ControlPlane.serve (plane : ControlPlane) (accessToken : String) (request : TicketRequest)
    (readable : Bool) : Except HttpError TokenResponse :=
  plane.answer ⟨"Bearer " ++ accessToken, .error "http: named cookie not present"⟩
    (if readable then some ⟨request.hostname, request.clientName⟩ else none)

/-- What a client gets for its request. -/
def ControlPlane.post (plane : ControlPlane) (delivery : Delivery) (accessToken : String)
    (request : TicketRequest) : Except AnyError (Reply TicketResponse) :=
  match delivery with
  | .answered readable => .ok (replyOf (plane.serve accessToken request readable))
  | .disturbed _ (.error error) => .error error
  | .disturbed _ (.ok (status, error)) => .ok ⟨status, .error error⟩

/-- A running or ended client. -/
structure Client where
  /-- Its configuration. -/
  config : ClientConfig
  /-- The exchange settings in it. -/
  oauth : ClientOAuthConfig
  /-- How its loop ended, unless it goes on. -/
  ended : Option Ending

/-- Control planes and clients at one moment. -/
structure System where
  /-- Identifiers that were returned so far. -/
  returned : List String
  /-- The clients by number. -/
  clients : ℕ → Option Client

/-- Nothing was returned yet, and no client runs. -/
def System.initial : System := ⟨[], fun _ => none⟩

/-- What can happen next. -/
inductive Event where
  /-- Anyone asks for a ticket. -/
  | ask (plane : ControlPlane) (credentials : Credentials) (body : Option TokenRequest)
  /-- A client is started, or started again, with a configuration. -/
  | start (name : ℕ) (config : ClientConfig)
  /-- A client goes once round its loop. -/
  | round (name : ℕ) (outside : Surroundings) (plane : ControlPlane) (delivery : Delivery)

/-- Surroundings in which ticket requests are for a control plane. -/
def withPlane (outside : Surroundings) (plane : ControlPlane) (delivery : Delivery) :
    Surroundings :=
  { outside with postTicket := fun _ => plane.post delivery }

/-- What the control plane returns to a client during a round. -/
def returnedDuring (outside : Surroundings) (plane : ControlPlane) (delivery : Delivery)
    (client : Client) : List String :=
  match outside.construct, obtainAccessToken outside client.oauth, delivery.arrives with
  | .ok (), .ok accessToken, some readable =>
    returnedId (plane.serve accessToken ⟨client.oauth.hostname, client.config.clientId⟩ readable)
  | _, _, _ => []

/-- A client after one more round. -/
def Client.next (outside : Surroundings) (plane : ControlPlane) (delivery : Delivery)
    (client : Client) : Client :=
  match runOauthRound (withPlane outside plane delivery) client.config client.oauth with
  | .ok _ => client
  | .error ending => { client with ended := some ending }

/-- One more event. Only a running client goes round its loop. -/
def step (system : System) : Event → Option System
  | .ask plane credentials body =>
    some { system with returned := returnedId (plane.answer credentials body) ++ system.returned }
  | .start name config =>
    config.oauth.map fun oauth =>
      { system with clients := Function.update system.clients name (some ⟨config, oauth, none⟩) }
  | .round name outside plane delivery =>
    (system.clients name).bind fun client =>
      if client.ended.isSome then none
      else
        some
          { returned := returnedDuring outside plane delivery client ++ system.returned
            clients := Function.update system.clients name
              (some (client.next outside plane delivery)) }

/-- What holds of a returned identifier from then on. -/
structure Settled (id : String) (system : System) : Prop where
  /-- It was returned. -/
  returned : id ∈ system.returned
  /-- Whoever asks again with it is answered with it. -/
  again : ∀ (plane : ControlPlane) (credentials : Credentials) (hostname : String)
    (response : TokenResponse),
    plane.answer credentials (some ⟨hostname, id⟩) = .ok response → response.clientID = id
  /-- Every ticket of a client that is configured with it passes the check. -/
  passes : ∀ name client, system.clients name = some client → client.config.clientId = id →
    ∀ (outside : Surroundings) (plane : ControlPlane) (delivery : Delivery) (ticket : OAuthTicket),
      obtainTicket (withPlane outside plane delivery) client.oauth client.config.clientId =
        .ok ticket → ticket.clientId = client.config.clientId
  /-- No such client was stopped by the check. -/
  unstopped : ∀ name client, system.clients name = some client → client.config.clientId = id →
    ∀ error, client.ended ≠ some (.normalized error)

/-- What holds of the control planes and clients in every run. -/
structure Consistent (system : System) : Prop where
  /-- What was returned is the identifier of some name. -/
  issued : ∀ id ∈ system.returned, ∃ table value, clientID table value = .ok id
  /-- Only identifiers that no name has stop their client. -/
  stopped : ∀ name client error, system.clients name = some client →
    client.ended = some (.normalized error) →
      ¬ ∃ table value, clientID table value = .ok client.config.clientId

section

variable {table : LowerTable} {value id : String}

/-- The characters that stay, as ranges. -/
theorem clientIDChar_ranges {c : Char} (h : clientIDChar c = true) :
    ('a' ≤ c ∧ c ≤ 'z') ∨ ('0' ≤ c ∧ c ≤ '9') ∨ c = '_' ∨ c = '-' := by
  rw [clientIDChar, Bool.or_eq_true, Bool.or_eq_true, Bool.or_eq_true, beq_iff_eq, beq_iff_eq] at h
  rcases h with ((hlower | hdigit) | hunderscore) | hhyphen
  · obtain ⟨hlow, hhigh⟩ := isLower_iff.mp hlower
    exact .inl ⟨UInt32.le_iff_toNat_le.mpr hlow, UInt32.le_iff_toNat_le.mpr hhigh⟩
  · rw [Char.isDigit, Bool.and_eq_true, decide_eq_true_eq, decide_eq_true_eq] at hdigit
    exact .inr (.inl hdigit)
  · exact .inr (.inr (.inl hunderscore))
  · exact .inr (.inr (.inr hhyphen))

/-- A client identifier has 2 to 48 characters. -/
theorem clientID_length (h : clientID table value = .ok id) :
    2 ≤ id.toList.length ∧ id.toList.length ≤ 48 := by
  obtain ⟨-, hlength⟩ := clientID_eq_ok.mp h
  have hsize : id.utf8ByteSize = id.toList.length :=
    utf8ByteSize_of_ascii fun c hc => (clientIDChar_toLower (clientID_chars h c hc)).1
  rw [hsize] at hlength
  exact hlength

/-- The separator and the wildcards do not stay. -/
theorem clientID_plain (h : clientID table value = .ok id) :
    ∀ c ∈ id.toList, c ≠ '.' ∧ c ≠ '*' ∧ c ≠ '>' := by
  intro c hc
  have hkept := clientID_chars h c hc
  refine ⟨?_, ?_, ?_⟩
  · rintro rfl
    exact absurd hkept (by decide)
  · rintro rfl
    exact absurd hkept (by decide)
  · rintro rfl
    exact absurd hkept (by decide)

/-- A client identifier keeps all the promises. -/
theorem stableToken_of_clientID (h : clientID table value = .ok id) : StableToken id := by
  have hdot : '.' ∉ id.toList := dot_not_mem_clientID h
  have htoken : publishable id = true := publishable_clientID h
  obtain ⟨htrimmed, -⟩ := clientID_eq_ok.mp h
  refine ⟨clientID_length h, fun c hc => clientIDChar_ranges (clientID_chars h c hc), ?_, ?_,
    clientID_plain h, ⟨split_of_not_mem hdot, htoken⟩,
    ⟨⟨id, htoken⟩, rfl, parsePattern_inbox ⟨id, htoken⟩ hdot⟩, fun other => clientID_idempotent h⟩
  · rw [← htrimmed]
    exact head_trimChar _ _
  · rw [← htrimmed]
    exact getLast_trimChar _ _

end

section

variable {plane : ControlPlane} {credentials : Credentials} {outside : Surroundings}
  {delivery : Delivery}

/-- An answer returns the identifier of the name in its request. -/
theorem answer_clientID {body : Option TokenRequest} {response : TokenResponse}
    (h : plane.answer credentials body = .ok response) :
    ∃ request, body = some request ∧
      clientID plane.table request.clientName = .ok response.clientID := by
  obtain ⟨request, -, -, hbody, -, -, hid, -⟩ := (issueTunnelToken_ok h).granted
  exact ⟨request, hbody, hid⟩

/-- What an answer returns is the identifier of some name. -/
theorem issued_of_returnedId {body : Option TokenRequest} {id : String}
    (h : id ∈ returnedId (plane.answer credentials body)) :
    ∃ table value, clientID table value = .ok id := by
  cases hanswer : plane.answer credentials body with
  | error refusal =>
    rw [hanswer] at h
    cases h
  | ok response =>
    rw [hanswer, returnedId, List.mem_singleton] at h
    obtain ⟨request, -, hid⟩ := answer_clientID hanswer
    exact ⟨plane.table, request.clientName, by rw [h, hid]⟩

/-- A reply with a ticket names the identifier of the name that was sent. -/
theorem post_clientID {accessToken : String} {request : TicketRequest}
    {reply : Reply TicketResponse} {response : TicketResponse}
    (h : plane.post delivery accessToken request = .ok reply) (hbody : reply.body = .ok response) :
    clientID plane.table request.clientName = .ok response.clientId := by
  cases delivery with
  | disturbed arrives instead =>
    cases instead with
    | error error => cases h
    | ok other =>
      cases h
      cases hbody
  | answered readable =>
    cases h
    cases hserved : plane.serve accessToken request readable with
    | error refusal =>
      rw [hserved] at hbody
      cases hbody
    | ok answer =>
      rw [hserved] at hbody
      cases hbody
      obtain ⟨received, hreceived, hid⟩ := answer_clientID hserved
      cases readable with
      | false => cases hreceived
      | true =>
        cases hreceived
        exact hid

/-- The ticket of a client names the identifier of the configured name. -/
theorem obtainTicket_clientID {oauth : ClientOAuthConfig} {clientName : String}
    {ticket : OAuthTicket}
    (h : obtainTicket (withPlane outside plane delivery) oauth clientName = .ok ticket) :
    clientID plane.table clientName = .ok ticket.clientId := by
  obtain ⟨url, accessToken, reply, response, hreply, hbody, hsame⟩ := obtainTicket_ok h
  have hpost : plane.post delivery accessToken ⟨oauth.hostname, clientName⟩ = .ok reply := hreply
  have hid := post_clientID hpost hbody
  rw [hsame]
  exact hid

/-- The ticket of a client that is configured with the identifier of some name
names it unchanged. -/
theorem obtainTicket_unchanged {table : LowerTable} {oauth : ClientOAuthConfig} {value id : String}
    {ticket : OAuthTicket} (hid : clientID table value = .ok id)
    (h : obtainTicket (withPlane outside plane delivery) oauth id = .ok ticket) :
    ticket.clientId = id := by
  have hticket := obtainTicket_clientID h
  rw [clientID_idempotent hid] at hticket
  exact (Except.ok.inj hticket).symm

/-- A round keeps the configuration of its client. -/
theorem next_config (client : Client) :
    (client.next outside plane delivery).config = client.config := by
  rw [Client.next]
  split
  · rfl
  · rfl

/-- A running client is stopped by the check only with an identifier that no
name has. -/
theorem next_stopped {client : Client} {error : AnyError} (hrunning : client.ended = none)
    (h : (client.next outside plane delivery).ended = some (.normalized error)) :
    ¬ ∃ table value, clientID table value = .ok client.config.clientId := by
  rintro ⟨table, value, hid⟩
  have hround : runOauthRound (withPlane outside plane delivery) client.config client.oauth =
      .error (.normalized error) := by
    rw [Client.next] at h
    split at h
    · rw [hrunning] at h
      cases h
    · rename_i ending hending
      cases h
      exact hending
  obtain ⟨ticket, hticket, hdiffers⟩ := runOauthRound_normalized_iff.mp ⟨error, hround⟩
  exact hdiffers (obtainTicket_unchanged hid hticket)

/-- What is returned during a round is the identifier of some name. -/
theorem issued_of_returnedDuring {client : Client} {id : String}
    (h : id ∈ returnedDuring outside plane delivery client) :
    ∃ table value, clientID table value = .ok id := by
  rw [returnedDuring] at h
  split at h
  · exact issued_of_returnedId h
  · cases h

end

/-- A client after one of them has changed is the changed one or an old one. -/
theorem client_of_update {clients : ℕ → Option Client} {name other : ℕ} {changed client : Client}
    (h : Function.update clients name (some changed) other = some client) :
    client = changed ∨ clients other = some client := by
  by_cases hname : other = name
  · rw [hname, Function.update_self] at h
    exact .inl (Option.some.inj h).symm
  · rw [Function.update_of_ne hname] at h
    exact .inr h

/-- In the beginning there is nothing to hold. -/
theorem consistent_initial : Consistent System.initial where
  issued id hm := by cases hm
  stopped name client error hclient := by cases hclient

/-- Every event keeps what holds. -/
theorem Consistent.step {system next : System} {event : Event} (h : Consistent system)
    (hstep : step system event = some next) : Consistent next := by
  cases event with
  | ask plane credentials body =>
    cases hstep
    refine ⟨fun id hm => ?_, h.stopped⟩
    rcases List.mem_append.mp hm with hnew | hold
    · exact issued_of_returnedId hnew
    · exact h.issued id hold
  | start name config =>
    obtain ⟨oauth, -, rfl⟩ := Option.map_eq_some_iff.mp hstep
    refine ⟨h.issued, fun other client error hclient hended => ?_⟩
    rcases client_of_update hclient with rfl | hold
    · cases hended
    · exact h.stopped other client error hold hended
  | round name outside plane delivery =>
    obtain ⟨running, hrunning, hnext⟩ := Option.bind_eq_some_iff.mp hstep
    have hnone : running.ended = none := by
      by_contra hended
      rw [Option.isSome_iff_ne_none.mpr hended, if_pos rfl] at hnext
      cases hnext
    rw [hnone, Option.isSome_none, if_neg Bool.false_ne_true] at hnext
    cases hnext
    refine ⟨fun id hm => ?_, fun other client error hclient hended => ?_⟩
    · rcases List.mem_append.mp hm with hnew | hold
      · exact issued_of_returnedDuring hnew
      · exact h.issued id hold
    · rcases client_of_update hclient with rfl | hold
      · rw [next_config]
        exact next_stopped hnone hended
      · exact h.stopped other client error hold hended

/-- What was returned stays on record. -/
theorem returned_of_step {system next : System} {event : Event} {id : String}
    (h : id ∈ system.returned) (hstep : step system event = some next) : id ∈ next.returned := by
  cases event with
  | ask plane credentials body =>
    cases hstep
    exact List.mem_append_right _ h
  | start name config =>
    obtain ⟨oauth, -, rfl⟩ := Option.map_eq_some_iff.mp hstep
    exact h
  | round name outside plane delivery =>
    obtain ⟨client, -, hnext⟩ := Option.bind_eq_some_iff.mp hstep
    split at hnext
    · cases hnext
    · cases hnext
      exact List.mem_append_right _ h

/-- A returned identifier is settled. -/
theorem Consistent.settled {system : System} {id : String} (h : Consistent system)
    (hm : id ∈ system.returned) : Settled id system := by
  obtain ⟨table, value, hid⟩ := h.issued id hm
  constructor
  · exact hm
  · intro plane credentials hostname response hanswer
    obtain ⟨request, hrequest, hagain⟩ := answer_clientID hanswer
    cases hrequest
    rw [clientID_idempotent hid] at hagain
    exact (Except.ok.inj hagain).symm
  · intro name client hclient hconfig outside plane delivery ticket hticket
    rw [hconfig] at hticket ⊢
    exact obtainTicket_unchanged hid hticket
  · intro name client hclient hconfig error hended
    refine h.stopped name client error hclient hended ⟨table, value, ?_⟩
    rw [hconfig, hid]

/-- A client identifier is one stable token, and once it was returned it stays
as it is and never stops a client, whatever happens. -/
theorem client_identifiers_stable :
    (∀ (table : LowerTable) (value id : String), clientID table value = .ok id →
      StableToken id) ∧
    ∀ before, Reachable step System.initial before → ∀ id ∈ before.returned,
      ∀ events after, run step before events = some after → Settled id after := by
  refine ⟨fun table value id h => stableToken_of_clientID h, ?_⟩
  intro before hreachable id hm events after hrun
  have hbefore : Consistent before :=
    hreachable.invariant (fun state event next h hstep => h.step hstep) consistent_initial
  have hafter : Consistent after :=
    run_invariant (fun state event next h hstep => h.step hstep) hbefore hrun
  have hstays : id ∈ after.returned :=
    run_invariant (fun state event next h hstep => returned_of_step h hstep) hm hrun
  exact hafter.settled hstays

/-- The exchange settings of the first client of the samples. -/
def sampleOAuth : ClientOAuthConfig where
  tokenUrl := "https://login.example.com/token"
  providerClientId := "lfp-pipe"
  username := "alice"
  clientSecretFile := "secret"
  controlPlaneUrl := "https://pipe.example.com/"
  hostname := "a.subdomain.domain"
  scopes := ["openid", "entitlements"]
  renewBeforeSeconds := 60

/-- That client under some name. -/
def namedClient (clientId : String) : ClientConfig where
  clientId := clientId
  natsUrl := "tls://pipe.example.com:4222"
  natsTokenFile := none
  oauth := some sampleOAuth
  acme := none
  authorization := none
  tcpPassthrough := true
  relayMode := .auto
  requestSubject := "lfp.v1.connect"
  claimAckTimeoutMs := 1500
  backendRules := [⟨"", none, false, false, "127.0.0.1:443", none, none, none⟩]

/-- Everything answers. -/
def sampleSurroundings : Surroundings where
  readToString _ := .ok "password"
  statusText _ := "201 Created"
  postForm _ _ := .ok ⟨200, .ok "access"⟩
  construct := .ok ()
  postTicket _ _ _ := .error ["no route"]
  decodePayload _ := .ok []
  decodeClaims _ := .ok 0
  clock := .ok 1700000000
  connect _ _ _ := .ok ()
  processMessages _ _ := .ok ()

/-- The control plane of the samples, which knows the first client. -/
def samplePlane : ControlPlane where
  table := asciiTable
  idna := plainIdna
  jwt := listedJwt sampleTickets
  signer := ⟨[1, 2, 3], 900 * second⟩
  config := sampleConfig
  verify _ := (sampleSession "alice" "a.subdomain.domain").cookie
  checked := 1700000000000000000
  now := 1700000000000000000

/-- A client under some name is started and goes once round its loop. -/
def firstRound (clientId : String) : List Event :=
  [.start 0 (namedClient clientId), .round 0 sampleSurroundings samplePlane (.answered true)]

/-- A name that is no identifier stops its client. -/
example : runOauthRound (withPlane sampleSurroundings samplePlane (.answered true))
    (namedClient "Laptop!") sampleOAuth = .error (.normalized
      ["control plane normalized client ID to laptop; configure that exact value"]) := by
  decide +kernel

/-- The identifier that the stopped client is told does not stop it again. -/
theorem client_identifiers_stable_laptop :
    StableToken "laptop" ∧ ∃ before after,
      run step System.initial (firstRound "Laptop!") = some before ∧
      run step before (firstRound "laptop") = some after ∧ Settled "laptop" after := by
  have hlaptop : clientID asciiTable "Laptop!" = .ok "laptop" := by decide +kernel
  have hreturned : returnedDuring sampleSurroundings samplePlane (.answered true)
      ⟨namedClient "Laptop!", sampleOAuth, none⟩ = ["laptop"] := by
    decide +kernel
  obtain ⟨before, hbefore, hm⟩ : ∃ before,
      run step System.initial (firstRound "Laptop!") = some before ∧
        "laptop" ∈ before.returned := by
    refine ⟨_, rfl, List.mem_append_left _ ?_⟩
    rw [hreturned]
    exact List.mem_cons_self
  obtain ⟨after, hafter⟩ : ∃ after, run step before (firstRound "laptop") = some after :=
    ⟨_, rfl⟩
  exact ⟨client_identifiers_stable.1 asciiTable "Laptop!" "laptop" hlaptop, before, after, hbefore,
    hafter, client_identifiers_stable.2 before ⟨_, hbefore⟩ "laptop" hm _ after hafter⟩

end LfpPipe.StableIdentifiers
