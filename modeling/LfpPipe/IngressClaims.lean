import Mathlib.Data.List.Sort
import LfpPipe.SharedRouting

/-!
# Claims for a public connection

The selection part of `broadcast_and_wait_for_claim` in
`ingress/src/lib.rs`: the collected claim messages are decoded and sorted,
the cursor of the route selects a winner, and every claimant with a reply
subject gets one acknowledgement.
-/

namespace LfpPipe.IngressClaims

open RustText Fallible SharedConfig SharedRouting

/-- A client offers to serve a connection. -/
structure ConnectionClaim where
  /-- Stable identifier of the client. -/
  clientId : String
  /-- Connection being claimed. -/
  connectionId : String
  deriving DecidableEq, Repr

/-- The ingress decision about one claim, with its subject. -/
structure ConnectionClaimAck where
  /-- Reply subject of the claimant. -/
  subject : String
  /-- Whether this client should call back. -/
  accepted : Bool
  /-- Client to which it applies. -/
  clientId : String
  /-- Connection to which it applies. -/
  connectionId : String
  /-- Reason of a rejection. -/
  reason : Option String
  deriving DecidableEq, Repr

/-- One message in the claim inbox: its decoded payload and reply subject. -/
structure ClaimMessage where
  /-- Decoded payload. -/
  payload : Except AnyError ConnectionClaim
  /-- Subject for the acknowledgement. -/
  reply : Option String

/-- A decoded claim with its reply subject. -/
abbrev ReceivedClaim := ConnectionClaim × Option String

/-- The subject on which a connection is announced. -/
def connectionSubject (config : IngressConfig) (hostname : Option String) :
    Except AnyError String :=
  if config.domainSubjectRouting then do
    let name ← orMissing "hostname is required for domain subject routing" hostname
    orMissing "hostname cannot be represented as a NATS subject"
      (hostnameRequestSubject config.requestSubject name)
  else .ok config.requestSubject

/-- Decode one claim; it must be for this connection. -/
def receiveClaim (connectionId : String) (message : ClaimMessage) :
    Except AnyError ReceivedClaim := do
  let claim ← message.payload
  ensure (claim.connectionId == connectionId) "claim connection id mismatch"
  .ok (claim, message.reply)

/-- The valid claims in the order of their client identifiers. -/
def validClaims (connectionId : String) (messages : List ClaimMessage) :
    Except AnyError (List ReceivedClaim) := do
  let received ← collect (receiveClaim connectionId) messages
  .ok (received.insertionSort fun left right => left.1.clientId ≤ right.1.clientId)

/-- The cursor key of a route. -/
def routeKey (hostname : Option String) : String :=
  (hostname.map toAsciiLowercase).getD "<default>"

/-- The selected index and the cursors afterwards. -/
def nextClaimIndex (cursors : String → ℕ) (key : String) (claimCount : ℕ) :
    ℕ × (String → ℕ) :=
  (cursors key % claimCount,
    fun other => if other = key then (cursors key + 1) % claimCount else cursors other)

/-- The acknowledgements in the order in which they are published. -/
def claimAcks (winnerIndex : ℕ) : ℕ → List ReceivedClaim → List ConnectionClaimAck
  | _, [] => []
  | index, (claim, reply) :: rest =>
    let later := claimAcks winnerIndex (index + 1) rest
    match reply with
    | none => later
    | some subject =>
      { subject := subject
        accepted := index == winnerIndex
        clientId := claim.clientId
        connectionId := claim.connectionId
        reason :=
          if index == winnerIndex then none
          else some "another client won round-robin selection" } :: later

/-- The selected claimant of a connection. -/
structure Winner where
  /-- The claimed connection. -/
  connectionId : String
  /-- The winning client. -/
  clientId : String
  /-- Reply subject of the winning claim. -/
  reply : Option String
  deriving DecidableEq, Repr

/-- The winner of a round and everything that follows from it. -/
structure Selection where
  /-- The winning claim with its reply subject. -/
  winner : Winner
  /-- All acknowledgements in order. -/
  acks : List ConnectionClaimAck
  /-- The cursors afterwards. -/
  cursors : String → ℕ

/-- Select the winner among the collected messages. -/
def selectWinner (cursors : String → ℕ) (hostname : Option String) (connectionId : String)
    (messages : List ClaimMessage) : Except AnyError Selection := do
  let claims ← validClaims connectionId messages
  let next := nextClaimIndex cursors (routeKey hostname) claims.length
  let winner ← orMissing "index out of bounds" claims[next.1]?
  .ok ⟨⟨winner.1.connectionId, winner.1.clientId, winner.2⟩, claimAcks next.1 0 claims, next.2⟩

/-- Acknowledgements after the winner are rejections. -/
theorem not_accepted_of_lt {winnerIndex index : ℕ} (hlt : winnerIndex < index)
    {claims : List ReceivedClaim} {ack : ConnectionClaimAck}
    (hm : ack ∈ claimAcks winnerIndex index claims) : ack.accepted = false := by
  induction claims generalizing index with
  | nil => simp [claimAcks] at hm
  | cons received rest ih =>
    obtain ⟨claim, reply⟩ := received
    cases reply with
    | none => exact ih (Nat.lt_succ_of_lt hlt) hm
    | some subject =>
      rcases List.mem_cons.mp hm with rfl | hm
      · simpa using Nat.ne_of_gt hlt
      · exact ih (Nat.lt_succ_of_lt hlt) hm

/-- At most one claimant is accepted. -/
theorem accepted_length_le_one (winnerIndex index : ℕ) (claims : List ReceivedClaim) :
    ((claimAcks winnerIndex index claims).filter fun ack => ack.accepted).length ≤ 1 := by
  induction claims generalizing index with
  | nil => simp [claimAcks]
  | cons received rest ih =>
    obtain ⟨claim, reply⟩ := received
    cases reply with
    | none => exact ih (index + 1)
    | some subject =>
      by_cases heq : index = winnerIndex
      · have hnone : ((claimAcks winnerIndex (index + 1) rest).filter fun ack => ack.accepted) =
            [] := by
          rw [List.filter_eq_nil_iff]
          intro ack hm
          rw [not_accepted_of_lt (by omega) hm]
          exact Bool.false_ne_true
        simp [claimAcks, heq, ← heq ▸ hnone]
      · simpa [claimAcks, heq] using ih (index + 1)

/-- The accepted claimant is the one at the winning index. -/
theorem accepted_at_winnerIndex {winnerIndex index : ℕ} {claims : List ReceivedClaim}
    {ack : ConnectionClaimAck} (hm : ack ∈ claimAcks winnerIndex index claims)
    (ha : ack.accepted = true) :
    ∃ received, claims[winnerIndex - index]? = some received ∧
      received.1.clientId = ack.clientId ∧ received.2 = some ack.subject := by
  induction claims generalizing index with
  | nil => simp [claimAcks] at hm
  | cons received rest ih =>
    have hlater : ack ∈ claimAcks winnerIndex (index + 1) rest →
        ∃ found, (received :: rest)[winnerIndex - index]? = some found ∧
          found.1.clientId = ack.clientId ∧ found.2 = some ack.subject := by
      intro hrest
      have hle : index + 1 ≤ winnerIndex := by
        by_contra hlt
        rw [not_accepted_of_lt (by omega) hrest] at ha
        cases ha
      obtain ⟨found, hfound, hclient⟩ := ih hrest
      have hindex : winnerIndex - index = (winnerIndex - (index + 1)) + 1 := by omega
      refine ⟨found, ?_, hclient⟩
      rw [hindex, List.getElem?_cons_succ]
      exact hfound
    obtain ⟨claim, reply⟩ := received
    cases reply with
    | none => exact hlater hm
    | some subject =>
      rcases List.mem_cons.mp hm with rfl | hm
      · have heq : index = winnerIndex := by simpa using ha
        exact ⟨(claim, some subject), by rw [heq, Nat.sub_self]; rfl, rfl, rfl⟩
      · exact hlater hm

/-- Every acknowledgement answers one of the claims. -/
theorem mem_claimAcks {winnerIndex index : ℕ} {claims : List ReceivedClaim}
    {ack : ConnectionClaimAck} (hm : ack ∈ claimAcks winnerIndex index claims) :
    ∃ received ∈ claims, ack.connectionId = received.1.connectionId := by
  induction claims generalizing index with
  | nil => simp [claimAcks] at hm
  | cons received rest ih =>
    have hlater : ack ∈ claimAcks winnerIndex (index + 1) rest →
        ∃ found ∈ received :: rest, ack.connectionId = found.1.connectionId := by
      intro hrest
      obtain ⟨found, hfound, hid⟩ := ih hrest
      exact ⟨found, List.mem_cons_of_mem _ hfound, hid⟩
    obtain ⟨claim, reply⟩ := received
    cases reply with
    | none => exact hlater hm
    | some subject =>
      rcases List.mem_cons.mp hm with rfl | hm
      · exact ⟨(claim, some subject), List.mem_cons_self, rfl⟩
      · exact hlater hm

/-- All valid claims are for the connection. -/
theorem validClaims_connectionId {connectionId : String} {messages : List ClaimMessage}
    {claims : List ReceivedClaim} (h : validClaims connectionId messages = .ok claims)
    {received : ReceivedClaim} (hm : received ∈ claims) :
    received.1.connectionId = connectionId := by
  simp only [validClaims, bind_eq_ok, Except.ok.injEq] at h
  obtain ⟨unsorted, hcollect, rfl⟩ := h
  rw [List.mem_insertionSort] at hm
  obtain ⟨message, -, hreceive⟩ := exists_mem_of_forall₂ (collect_eq_ok.mp hcollect) hm
  simp only [receiveClaim, bind_eq_ok, ensure_eq_ok, Except.ok.injEq] at hreceive
  obtain ⟨claim, -, _, hid, rfl⟩ := hreceive
  simpa using hid

/-- What a selection promises about its acknowledgements. -/
structure FairlyAcknowledged (winner : Winner) (acks : List ConnectionClaimAck) : Prop where
  /-- All are about the connection. -/
  connection : ∀ ack ∈ acks, ack.connectionId = winner.connectionId
  /-- An accepted one names the winner. -/
  client : ∀ ack ∈ acks, ack.accepted = true → ack.clientId = winner.clientId
  /-- An accepted one is sent to the winner. -/
  reply : ∀ ack ∈ acks, ack.accepted = true → winner.reply = some ack.subject
  /-- At most one is accepted. -/
  single : (acks.filter fun ack => ack.accepted).length ≤ 1

/-- A selection acknowledges its own winner only. -/
theorem selectWinner_acknowledged {cursors : String → ℕ} {hostname : Option String}
    {connectionId : String} {messages : List ClaimMessage} {selection : Selection}
    (h : selectWinner cursors hostname connectionId messages = .ok selection) :
    selection.winner.connectionId = connectionId ∧
      FairlyAcknowledged selection.winner selection.acks := by
  simp only [selectWinner, bind_eq_ok, orMissing_eq_ok, Except.ok.injEq] at h
  obtain ⟨claims, hclaims, winner, hwinner, rfl⟩ := h
  have hid : winner.1.connectionId = connectionId :=
    validClaims_connectionId hclaims (List.mem_of_getElem? hwinner)
  refine ⟨hid, ?_, ?_, ?_, accepted_length_le_one _ 0 claims⟩
  · intro ack hm
    obtain ⟨received, hr, hack⟩ := mem_claimAcks hm
    rw [hack, validClaims_connectionId hclaims hr]
    exact hid.symm
  · intro ack hm ha
    obtain ⟨received, hr, hclient, -⟩ := accepted_at_winnerIndex hm ha
    rw [Nat.sub_zero, hwinner] at hr
    cases hr
    exact hclient.symm
  · intro ack hm ha
    obtain ⟨received, hr, -, hreply⟩ := accepted_at_winnerIndex hm ha
    rw [Nat.sub_zero, hwinner] at hr
    cases hr
    exact hreply

end LfpPipe.IngressClaims
