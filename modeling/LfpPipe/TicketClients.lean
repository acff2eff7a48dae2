import LfpPipe.Fallible
import LfpPipe.SharedConfig
import LfpPipe.TunnelTickets

/-!
# Clients that live on tickets

A client exchanges its secret for an access token and that for a ticket, checks
the identifier that the ticket names and serves until the ticket is due for
renewal. Translated from `client/src/oauth.rs` and `run_oauth` of
`client/src/lib.rs`. One round of the loop is a function of the answers that it
gets from outside; the loop ends with one of two errors only.
-/

namespace LfpPipe.TicketClients

open RustText Fallible SharedConfig TunnelTickets

/-- The body of a ticket request. -/
structure TicketRequest where
  /-- Hostname of the route. -/
  hostname : String
  /-- Configured identifier of the client. -/
  clientName : String
  deriving DecidableEq, Repr

/-- The body of the answer, as far as it is read. -/
structure TicketResponse where
  /-- The ticket. -/
  token : String
  /-- When it expires, unless that is left to the ticket. -/
  expiresUnix : Option Int64
  /-- The identifier that it names. -/
  clientId : String
  /-- Subject of connection requests. -/
  requestSubject : String
  /-- Addresses to connect to. -/
  natsUrls : List String
  deriving DecidableEq

/-- A ticket with an address to present it at. -/
structure OAuthTicket where
  /-- The ticket. -/
  token : String
  /-- When it expires. -/
  expiresUnix : Int64
  /-- The identifier that it names. -/
  clientId : String
  /-- Subject of connection requests. -/
  requestSubject : String
  /-- Addresses to connect to. -/
  natsUrls : List String
  /-- There is one. -/
  natsUrls_ne : natsUrls ≠ []

/-- An answer over HTTP. -/
structure Reply (Body : Type) where
  /-- Status code. -/
  status : ℕ
  /-- The body, if it decodes. -/
  body : Except AnyError Body

/-- Whether the status is a success. -/
def Reply.isSuccess {Body : Type} (reply : Reply Body) : Bool :=
  200 ≤ reply.status && reply.status < 300

/-- Answers from outside during one round. -/
structure Surroundings where
  /-- Read a file. -/
  readToString : String → Except AnyError String
  /-- How a status is written. -/
  statusText : ℕ → String
  /-- Send a form; the body of the answer is an access token. -/
  postForm : String → List (String × String) → Except AnyError (Reply String)
  /-- Construct the HTTP client. -/
  construct : Except AnyError Unit
  /-- Send a ticket request with an access token. -/
  postTicket : String → String → TicketRequest → Except AnyError (Reply TicketResponse)
  /-- Decode the payload of a token. -/
  decodePayload : String → Except AnyError (List UInt8)
  /-- Read the expiry in a payload. -/
  decodeClaims : List UInt8 → Except AnyError Int64
  /-- Seconds since the Unix epoch. -/
  clock : Except AnyError UInt64
  /-- Connect to an address with a token and an inbox prefix. -/
  connect : String → String → String → Except AnyError Unit
  /-- Serve requests on a subject for some seconds. -/
  processMessages : String → UInt64 → Except AnyError Unit

/-- Exchange the secret for an access token. -/
def obtainAccessToken (outside : Surroundings) (config : ClientOAuthConfig) :
    Except AnyError String := do
  let secret ← withContext ("failed to read OAuth client secret file " ++ config.clientSecretFile)
    (outside.readToString config.clientSecretFile)
  ensure (!isBlank secret) "OAuth client secret file is empty"
  let reply ← withContext "request Authentik OAuth token"
    (outside.postForm config.tokenUrl
      [("grant_type", "client_credentials"), ("client_id", config.providerClientId),
        ("username", config.username), ("password", trim secret),
        ("scope", String.intercalate " " config.scopes)])
  ensure reply.isSuccess
    ("Authentik OAuth token request returned " ++ outside.statusText reply.status)
  let access ← withContext "decode Authentik OAuth token response" reply.body
  ensure (!access.isEmpty) "Authentik returned an empty token"
  .ok access

/-- The expiry that a ticket itself names. -/
def jwtExpiry (outside : Surroundings) (token : String) : Except AnyError Int64 := do
  let payload ← orMissing "LFP Pipe ticket is not a JWT" (split '.' token)[1]?
  let decoded ← withContext "decode LFP Pipe ticket JWT payload" (outside.decodePayload payload)
  withContext "decode LFP Pipe ticket JWT claims" (outside.decodeClaims decoded)

/-- The expiry that an answer names, else that of its ticket. -/
def TicketResponse.expiry (outside : Surroundings) (response : TicketResponse) :
    Except AnyError Int64 :=
  match response.expiresUnix with
  | some expiry => .ok expiry
  | none => jwtExpiry outside response.token

/-- Check the answer to a ticket request. -/
def readTicket (outside : Surroundings) (reply : Reply TicketResponse) :
    Except AnyError OAuthTicket := do
  ensure reply.isSuccess ("LFP Pipe ticket request returned " ++ outside.statusText reply.status)
  let response ← withContext "decode LFP Pipe ticket response" reply.body
  let expiresUnix ← response.expiry outside
  ensure (!response.token.isEmpty) "LFP Pipe returned an empty ticket"
  if hurls : response.natsUrls = [] then .error ["LFP Pipe returned no NATS endpoints"]
  else
    .ok ⟨response.token, expiresUnix, response.clientId, response.requestSubject,
      response.natsUrls, hurls⟩

/-- Exchange the secret for an access token and that for a ticket. -/
def obtainTicket (outside : Surroundings) (config : ClientOAuthConfig) (clientName : String) :
    Except AnyError OAuthTicket := do
  withContext "construct OAuth HTTP client" outside.construct
  let accessToken ← obtainAccessToken outside config
  let reply ← withContext "request route-scoped tunnel ticket"
    (outside.postTicket (trimEndMatches '/' config.controlPlaneUrl ++ "/api/tunnel-tokens")
      accessToken ⟨config.hostname, clientName⟩)
  readTicket outside reply

/-- Seconds until a ticket is renewed. -/
def renewAfter (lifetime renewBefore : UInt64) : UInt64 :=
  if renewBefore + 5 < lifetime then lifetime - renewBefore else max (lifetime / 2) 1

/-- How the loop ends. -/
inductive Ending where
  /-- The ticket names another identifier than the configured one. -/
  | normalized (error : AnyError)
  /-- The clock is before the epoch. -/
  | clock (error : AnyError)
  deriving DecidableEq, Repr

/-- What a round does with a ticket that names the configured identifier. -/
def useTicket (outside : Surroundings) (config : ClientConfig) (oauth : ClientOAuthConfig)
    (ticket : OAuthTicket) : Except Ending ℕ :=
  match outside.clock with
  | .error error => .error (.clock error)
  | .ok seconds =>
    let now := seconds.toInt64
    if ticket.expiresUnix ≤ now then .ok 5
    else
      let lifetime := (ticket.expiresUnix - now).toUInt64
      match outside.connect (ticket.natsUrls.head ticket.natsUrls_ne) ticket.token
          ("_LFP_INBOX." ++ config.clientId) with
      | .error _ => .ok 5
      | .ok () =>
        match outside.processMessages ticket.requestSubject
            (renewAfter lifetime (.ofNat oauth.renewBeforeSeconds)) with
        | .error _ => .ok 2
        | .ok () => .ok 0

/-- One round of the loop: it ends, or goes on after a pause of some seconds. -/
def runOauthRound (outside : Surroundings) (config : ClientConfig) (oauth : ClientOAuthConfig) :
    Except Ending ℕ :=
  match obtainTicket outside oauth config.clientId with
  | .error _ => .ok 10
  | .ok ticket =>
    if ticket.clientId != config.clientId then
      .error (.normalized ["control plane normalized client ID to " ++ ticket.clientId ++
        "; configure that exact value"])
    else useTicket outside config oauth ticket

/-- A ticket carries the identifier of the answer it is read from. -/
theorem readTicket_ok {outside : Surroundings} {reply : Reply TicketResponse} {ticket : OAuthTicket}
    (h : readTicket outside reply = .ok ticket) :
    ∃ response, reply.body = .ok response ∧ ticket.clientId = response.clientId := by
  simp only [readTicket, bind_eq_ok, ensure_eq_ok, withContext_eq_ok] at h
  obtain ⟨_, -, response, hbody, _, -, _, -, hurls⟩ := h
  refine ⟨response, hbody, ?_⟩
  split at hurls
  · cases hurls
  · cases hurls
    rfl

/-- A ticket is read from the answer to a request that names the client. -/
theorem obtainTicket_ok {outside : Surroundings} {config : ClientOAuthConfig} {clientName : String}
    {ticket : OAuthTicket} (h : obtainTicket outside config clientName = .ok ticket) :
    ∃ url accessToken reply response,
      outside.postTicket url accessToken ⟨config.hostname, clientName⟩ = .ok reply ∧
      reply.body = .ok response ∧ ticket.clientId = response.clientId := by
  simp only [obtainTicket, bind_eq_ok, withContext_eq_ok] at h
  obtain ⟨_, -, accessToken, -, reply, hreply, hticket⟩ := h
  obtain ⟨response, hbody, hid⟩ := readTicket_ok hticket
  exact ⟨_, accessToken, reply, response, hreply, hbody, hid⟩

/-- A ticket that is used does not end the loop over its identifier. -/
theorem useTicket_ne_normalized (outside : Surroundings) (config : ClientConfig)
    (oauth : ClientOAuthConfig) (ticket : OAuthTicket) (error : AnyError) :
    useTicket outside config oauth ticket ≠ .error (.normalized error) := by
  rw [useTicket]
  cases outside.clock with
  | error _ => exact nofun
  | ok seconds =>
    dsimp only
    by_cases hexpired : ticket.expiresUnix ≤ seconds.toInt64
    · rw [if_pos hexpired]
      exact nofun
    · rw [if_neg hexpired]
      split
      · exact nofun
      · split
        · exact nofun
        · exact nofun

/-- The loop ends over an identifier exactly when the ticket names another one. -/
theorem runOauthRound_normalized_iff {outside : Surroundings} {config : ClientConfig}
    {oauth : ClientOAuthConfig} :
    (∃ error, runOauthRound outside config oauth = .error (.normalized error)) ↔
      ∃ ticket, obtainTicket outside oauth config.clientId = .ok ticket ∧
        ticket.clientId ≠ config.clientId := by
  rw [runOauthRound]
  cases hticket : obtainTicket outside oauth config.clientId with
  | error error => exact ⟨fun ⟨_, h⟩ => (nomatch h), fun ⟨_, h, _⟩ => nomatch h⟩
  | ok ticket =>
    dsimp only
    by_cases hsame : ticket.clientId = config.clientId
    · rw [hsame, bne_self_eq_false, if_neg Bool.false_ne_true]
      constructor
      · rintro ⟨error, h⟩
        exact absurd h (useTicket_ne_normalized outside config oauth ticket error)
      · rintro ⟨other, hother, hdiffers⟩
        cases hother
        exact absurd hsame hdiffers
    · rw [bne_iff_ne.mpr hsame, if_pos rfl]
      exact ⟨fun _ => ⟨ticket, rfl, hsame⟩, fun _ => ⟨_, rfl⟩⟩

end LfpPipe.TicketClients
