import LfpPipe.OwnedTables
import LfpPipe.TransitionRuns
import LfpPipe.TunnelTickets

/-!
# Enrollment of devices

Translated from the enrollment handlers of
`controlplane/internal/httpapi/server.go`. A device creates an enrollment and
polls it, a signed-in user lists and claims it. The registry maps codes to
records on the heap: a claim keeps the pointer it found under the lock,
releases the lock during its calls to Authentik and writes through the
pointer afterwards, without a look at what happened to the record meanwhile.
Every event is one critical section or one answer of Authentik, so a list of
events is one interleaving of requests. The answers given so far are kept as
a history.
-/

namespace LfpPipe.DeviceEnrollment

open GoText OwnedTables RouteAuth TunnelTickets

/-- A pending or claimed enrollment; user name and secret are empty before a claim. -/
structure Enrollment where
  /-- Claim code shown to the user. -/
  code : String
  /-- Token that the device polls with. -/
  pollToken : String
  /-- Identity of the device. -/
  deviceID : String
  /-- Display name of the device. -/
  name : String
  /-- Platform of the device. -/
  platform : String
  /-- Version of the client. -/
  version : String
  /-- End of the enrollment, in nanoseconds. -/
  expires : ℤ
  /-- User name of the service account. -/
  username : String
  /-- Secret of the service account. -/
  secret : String
  /-- Whether a claim has been written. -/
  claimed : Bool
  deriving DecidableEq, Repr

/-- A service account that Authentik created. -/
structure Account where
  /-- Primary key of the user. -/
  userPK : ℤ
  /-- User name. -/
  username : String
  /-- Secret of the account. -/
  token : String
  deriving DecidableEq, Repr

/-- The principal that a successful claim answers with. -/
structure ServicePrincipal where
  /-- Primary key of the user. -/
  id : ℤ
  /-- User name. -/
  username : String
  /-- Display name. -/
  name : String
  /-- Client identifier. -/
  clientID : String
  /-- Entitlement that it was given. -/
  entitlement : String
  deriving DecidableEq, Repr

/-- Where a claim request stands between its calls to Authentik. -/
inductive ClaimStage where
  /-- The service account is being created. -/
  | creating
  /-- Its attributes are being stored. -/
  | updating (account : Account)
  /-- Its entitlement is being looked up. -/
  | finding (account : Account)
  /-- It is being bound to the entitlement. -/
  | binding (account : Account)
  /-- The record is about to be written. -/
  | finishing (account : Account)
  deriving DecidableEq, Repr

/-- The account that a claim has created. -/
def ClaimStage.account : ClaimStage → Option Account
  | creating => none
  | updating account => some account
  | finding account => some account
  | binding account => some account
  | finishing account => some account

/-- A claim request that has found its enrollment. -/
structure ClaimTask where
  /-- The record that it found. -/
  pointer : ℕ
  /-- Client identifier made from the name of the device. -/
  clientID : String
  /-- The entitlement to give. -/
  entitlement : String
  /-- How far it got. -/
  stage : ClaimStage
  deriving DecidableEq, Repr

/-- Body of a request for an enrollment. -/
structure CreateRequest where
  /-- Identity of the device. -/
  deviceID : String
  /-- Display name of the device. -/
  name : String
  /-- Platform of the device. -/
  platform : String
  /-- Version of the client. -/
  version : String
  deriving DecidableEq, Repr

/-- Answer to a request for an enrollment. -/
structure CreateResponse where
  /-- Claim code. -/
  code : String
  /-- Token to poll with. -/
  pollToken : String
  /-- Page on which a user claims the code. -/
  claimURL : String
  /-- End of the enrollment. -/
  expiresAt : ℤ
  deriving DecidableEq, Repr

/-- Answer to a poll. -/
inductive PollResponse where
  /-- Nobody has claimed the enrollment. -/
  | pending
  /-- The credentials of the device. -/
  | claimed (username clientSecret : String)
  deriving DecidableEq, Repr

/-- An enrollment as a listing shows it: the poll token is never encoded, and
an empty user name or secret is left out. -/
structure ListedEnrollment where
  /-- Claim code. -/
  code : String
  /-- Identity of the device. -/
  deviceID : String
  /-- Display name of the device. -/
  name : String
  /-- Platform of the device. -/
  platform : String
  /-- Version of the client. -/
  version : String
  /-- End of the enrollment. -/
  expiresAt : ℤ
  /-- User name of the service account, unless it is empty. -/
  username : Option String
  /-- Secret of the service account, unless it is empty. -/
  clientSecret : Option String
  /-- Whether a claim has been written. -/
  claimed : Bool
  deriving DecidableEq, Repr

/-- Leave an empty text out. -/
def omitEmpty (text : String) : Option String := if text == "" then none else some text

/-- How an enrollment is encoded in a listing. -/
def Enrollment.listed (enrollment : Enrollment) : ListedEnrollment where
  code := enrollment.code
  deviceID := enrollment.deviceID
  name := enrollment.name
  platform := enrollment.platform
  version := enrollment.version
  expiresAt := enrollment.expires
  username := omitEmpty enrollment.username
  clientSecret := omitEmpty enrollment.secret
  claimed := enrollment.claimed

/-- What a claim writes into its record. -/
def Enrollment.write (enrollment : Enrollment) (account : Account) : Enrollment :=
  { enrollment with username := account.username, secret := account.token, claimed := true }

/-- One answer of the service, with what the properties say of its request. -/
inductive Answer where
  /-- To a request for an enrollment. -/
  | create (response : Except HttpError CreateResponse)
  /-- To a poll with a code and an Authorization header at a time. -/
  | poll (code authorization : String) (now : ℤ) (response : Except HttpError PollResponse)
  /-- To a request for the open enrollments. -/
  | list (response : Except HttpError (List ListedEnrollment))
  /-- To a claim that failed. -/
  | claimRefused (error : HttpError)
  /-- To a claim of a code that succeeded; the account is not part of the answer. -/
  | claimed (code : String) (account : Account) (principal : ServicePrincipal)

/-- The texts of a listed enrollment outside the field for its secret. -/
def ListedEnrollment.openTexts (listed : ListedEnrollment) : List String :=
  [listed.code, listed.deviceID, listed.name, listed.platform, listed.version] ++
    listed.username.toList

/-- The texts of a principal. -/
def ServicePrincipal.texts (principal : ServicePrincipal) : List String :=
  [principal.username, principal.name, principal.clientID, principal.entitlement]

/-- Every text in the body of an answer. -/
def Answer.texts : Answer → List String
  | create (.ok response) => [response.code, response.pollToken, response.claimURL]
  | create (.error error) => [error.message]
  | poll _ _ _ (.ok .pending) => ["pending"]
  | poll _ _ _ (.ok (.claimed username clientSecret)) => ["claimed", username, clientSecret]
  | poll _ _ _ (.error error) => [error.message]
  | list (.ok enrollments) =>
    enrollments.flatMap fun listed => listed.openTexts ++ listed.clientSecret.toList
  | list (.error error) => [error.message]
  | claimRefused error => [error.message]
  | claimed _ _ principal => "claimed" :: principal.texts

/-- The texts in the fields for secrets. -/
def Answer.secrets : Answer → List String
  | poll _ _ _ (.ok (.claimed _ clientSecret)) => [clientSecret]
  | list (.ok enrollments) => enrollments.flatMap fun listed => listed.clientSecret.toList
  | _ => []

/-- The code that an answer reports as claimed, if it is to a successful claim. -/
def Answer.claimedCode : Answer → Option String
  | claimed code _ _ => some code
  | _ => none

/-- The registry, the running claims and the histories. -/
structure State where
  /-- Every record ever made; a pointer is a position. -/
  records : List Enrollment
  /-- The registered records by their codes. -/
  enrollments : Table String ℕ
  /-- The claim requests between their first and their last critical section. -/
  claims : Table ℕ ClaimTask
  /-- History of the accounts created, each with the code it was created for. -/
  created : List (String × Account)
  /-- History of the answers, the latest first. -/
  answers : List Answer

/-- The registry at the start of the service. -/
def State.initial : State := ⟨[], ∅, ∅, [], []⟩

/-- Give an answer and change nothing else. -/
def State.answer (s : State) (answer : Answer) : State := { s with answers := answer :: s.answers }

/-- The registered record of a code, with its pointer. -/
def State.find (s : State) (code : String) : Option (ℕ × Enrollment) :=
  (s.enrollments.lookup code).bind fun pointer =>
    s.records[pointer]?.map fun enrollment => (pointer, enrollment)

/-- Let a claim go on with another stage. -/
def State.advance (s : State) (request : ℕ) (task : ClaimTask) (stage : ClaimStage) : State :=
  { s with claims := s.claims.insert request { task with stage := stage } }

/-- Let a claim fail. -/
def State.fail (s : State) (request : ℕ) (error : HttpError) : State :=
  { s with claims := s.claims.erase request, answers := .claimRefused error :: s.answers }

/-- One critical section of a handler, or one answer of Authentik. -/
inductive Event where
  /-- A device asks for an enrollment; the random code and token come from the source
  of randomness, which may fail. -/
  | create (body : Option CreateRequest) (random : Option (String × String)) (now : ℤ)
  /-- A device polls. -/
  | poll (code authorization : String) (now : ℤ)
  /-- A user lists; the records are visited in some order, each at its time. -/
  | list (checked : ℤ) (credentials : Credentials) (visits : List (String × ℤ))
  /-- A user claims a code for an entitlement. -/
  | claim (request : ℕ) (checked : ℤ) (credentials : Credentials) (code : String)
      (entitlement : Option String) (now : ℤ)
  /-- Authentik has answered the creation of a service account. -/
  | accountCreated (request : ℕ) (account : Option Account)
  /-- Authentik has answered the update of the attributes. -/
  | attributesUpdated (request : ℕ) (success : Bool)
  /-- Authentik has answered the search for the entitlement. -/
  | entitlementFound (request : ℕ) (success : Bool)
  /-- Authentik has answered the binding, whose outcome is ignored. -/
  | userBound (request : ℕ)
  /-- The claim writes the record and answers. -/
  | finish (request : ℕ)

/-- Answer to a request without a valid session. -/
def signIn : HttpError := ⟨401, "Sign in with Authentik to continue."⟩

/-- Answer to a request for an enrollment that is not there any more. -/
def enrollmentExpired : HttpError := ⟨404, "Enrollment expired."⟩

section

variable (table : LowerTable) (idna : Idna)

/-- The requested entitlement, when it lies at or below the parent and the
caller holds it. -/
def ownedEntitlement (values : List String) (requested parent : String) : Except String String :=
  match normalizeHostname table idna (trimPrefix (trimSpace requested) "route:") with
  | .error message => .error message
  | .ok normalized =>
    if normalized != parent && !hasSuffix normalized ("." ++ parent) then
      .error ("entitlement must belong to " ++ parent)
    else if values.any fun value =>
        match normalizeHostname table idna (trimPrefix (trimSpace value) "route:") with
        | .ok candidate => candidate == normalized
        | .error _ => false then
      .ok normalized
    else .error ("you do not own entitlement " ++ normalized)

/-- The client identifier for the name of a device. -/
def clientName (name : String) : String :=
  match clientID table name with
  | .ok name => name
  | .error _ => "managed-client"

variable (toUpper : String → String) (publicURL allowedRouteSuffix : String)

/-- Make an enrollment for ten minutes. -/
def createEnrollment (s : State) (body : Option CreateRequest) (random : Option (String × String))
    (now : ℤ) : State :=
  match body with
  | none => s.answer (.create (.error ⟨400, "Device identity is required."⟩))
  | some request =>
    if request.deviceID == "" then
      s.answer (.create (.error ⟨400, "Device identity is required."⟩))
    else
      match random with
      | none => s.answer (.create (.error internalError))
      | some (code, pollToken) =>
        let enrollment : Enrollment :=
          { code := code, pollToken := pollToken, deviceID := request.deviceID,
            name := request.name, platform := request.platform, version := request.version,
            expires := now + 600 * second, username := "", secret := "", claimed := false }
        { s with
          records := s.records ++ [enrollment]
          enrollments := s.enrollments.insert code s.records.length
          answers := .create (.ok ⟨code, pollToken, publicURL ++ "/?enroll=" ++ code,
            enrollment.expires⟩) :: s.answers }

/-- Answer a poll; a claimed enrollment is handed over once and removed. -/
def getEnrollment (s : State) (code authorization : String) (now : ℤ) : State :=
  let code := toUpper code
  match s.find code with
  | none => s.answer (.poll code authorization now (.error enrollmentExpired))
  | some (_, enrollment) =>
    if enrollment.expires < now || authorization != "Bearer " ++ enrollment.pollToken then
      s.answer (.poll code authorization now (.error enrollmentExpired))
    else if !enrollment.claimed then s.answer (.poll code authorization now (.ok .pending))
    else
      { s with
        enrollments := s.enrollments.erase code
        answers := .poll code authorization now
          (.ok (.claimed enrollment.username enrollment.secret)) :: s.answers }

/-- List the open enrollments. -/
def listEnrollments (s : State) (checked : ℤ) (credentials : Credentials)
    (visits : List (String × ℤ)) : State :=
  match requireSession checked credentials with
  | .error _ => s.answer (.list (.error signIn))
  | .ok _ =>
    s.answer (.list (.ok (visits.filterMap fun visit =>
      (s.find visit.1).bind fun found =>
        if !found.2.claimed && visit.2 < found.2.expires then some found.2.listed else none)))

/-- A claim up to its first call of Authentik. -/
def claimEnrollment (s : State) (request : ℕ) (checked : ℤ) (credentials : Credentials)
    (code : String) (entitlement : Option String) (now : ℤ) : State :=
  match requireSession checked credentials with
  | .error _ => s.answer (.claimRefused signIn)
  | .ok session =>
    match entitlement with
    | none => s.answer (.claimRefused ⟨400, "Entitlement is required."⟩)
    | some requested =>
      match ownedEntitlement table idna session.entitlements requested allowedRouteSuffix with
      | .error message => s.answer (.claimRefused ⟨403, message⟩)
      | .ok entitlement =>
        match s.find (toUpper code) with
        | none => s.answer (.claimRefused enrollmentExpired)
        | some (pointer, enrollment) =>
          if enrollment.expires < now then s.answer (.claimRefused enrollmentExpired)
          else
            { s with
              claims := s.claims.insert request
                ⟨pointer, clientName table enrollment.name, entitlement, .creating⟩ }

/-- The last critical section of a claim: write through the pointer and answer. -/
def finishClaim (s : State) (request : ℕ) (task : ClaimTask) (account : Account)
    (enrollment : Enrollment) : State :=
  { s with
    records := s.records.set task.pointer (enrollment.write account)
    claims := s.claims.erase request
    answers := .claimed enrollment.code account ⟨account.userPK, account.username, enrollment.name,
      task.clientID, task.entitlement⟩ :: s.answers }

/-- Answer one event; an event of a request that is not waiting for it, or a
listing that does not visit every record once, does not happen. -/
def step (s : State) : Event → Option State
  | .create body random now => some (createEnrollment publicURL s body random now)
  | .poll code authorization now => some (getEnrollment toUpper s code authorization now)
  | .list checked credentials visits =>
    if (visits.map Prod.fst).Perm s.enrollments.keys then
      some (listEnrollments s checked credentials visits)
    else none
  | .claim request checked credentials code entitlement now =>
    match s.claims.lookup request with
    | some _ => none
    | none =>
      some (claimEnrollment table idna toUpper allowedRouteSuffix s request checked credentials code
        entitlement now)
  | .accountCreated request account =>
    (s.claims.lookup request).bind fun task =>
      match task.stage, account with
      | .creating, none => some (s.fail request internalError)
      | .creating, some account =>
        s.records[task.pointer]?.map fun enrollment =>
          { s.advance request task (.updating account) with
            created := (enrollment.code, account) :: s.created }
      | _, _ => none
  | .attributesUpdated request success =>
    (s.claims.lookup request).bind fun task =>
      match task.stage with
      | .updating account =>
        some (if success then s.advance request task (.finding account)
          else s.fail request internalError)
      | _ => none
  | .entitlementFound request success =>
    (s.claims.lookup request).bind fun task =>
      match task.stage with
      | .finding account =>
        some (s.advance request task (if success then .binding account else .finishing account))
      | _ => none
  | .userBound request =>
    (s.claims.lookup request).bind fun task =>
      match task.stage with
      | .binding account => some (s.advance request task (.finishing account))
      | _ => none
  | .finish request =>
    (s.claims.lookup request).bind fun task =>
      match task.stage with
      | .finishing account =>
        s.records[task.pointer]?.map (finishClaim s request task account)
      | _ => none

/-- Codes, poll tokens and secrets are drawn anew each time. -/
def fresh (s : State) : Event → Bool
  | .create _ (some (code, pollToken)) _ =>
    s.records.all fun enrollment => enrollment.code != code && enrollment.pollToken != pollToken
  | .accountCreated _ (some account) => s.created.all fun other => other.2.token != account.token
  | _ => true

/-- Answer one event without collisions. -/
def freshStep (s : State) (event : Event) : Option State :=
  if fresh s event then step table idna toUpper publicURL allowedRouteSuffix s event else none

end

section

/-- A task that was there before with the same record and account, or a new
one without an account on a record that exists. -/
def Kept (s : State) (request : ℕ) (task : ClaimTask) : Prop :=
  (task.stage.account = none ∧ task.pointer < s.records.length) ∨
    ∃ old, s.claims.lookup request = some old ∧ old.pointer = task.pointer ∧
      old.stage.account = task.stage.account

/-- An answer that hands out nothing: it reports no claim and contains no
secret, or it lists records that are not claimed. -/
def Harmless (s : State) (answer : Answer) : Prop :=
  answer.claimedCode = none ∧
    (answer.secrets = [] ∨ ∃ enrollments, answer = .list (.ok enrollments) ∧
      ∀ listed ∈ enrollments, ∃ enrollment ∈ s.records,
        enrollment.claimed = false ∧ listed = enrollment.listed)

/-- Everything that a step without collisions can do at an event. -/
inductive Moves (s : State) (event : Event) : State → Prop where
  /-- Claims go on or fail, and harmless answers are given. -/
  | quiet (claims : Table ℕ ClaimTask) (news : List Answer)
      (hkept : ∀ request task, claims.lookup request = some task → Kept s request task)
      (hnews : ∀ answer ∈ news, Harmless s answer) :
      Moves s event { s with claims := claims, answers := news ++ s.answers }
  /-- A record is made under a new code. -/
  | enrolled (enrollment : Enrollment) (response : CreateResponse)
      (hnew : ∀ other ∈ s.records,
        other.code ≠ enrollment.code ∧ other.pollToken ≠ enrollment.pollToken)
      (hblank : enrollment.claimed = false ∧ enrollment.username = "" ∧ enrollment.secret = "") :
      Moves s event { s with
        records := s.records ++ [enrollment]
        enrollments := s.enrollments.insert enrollment.code s.records.length
        answers := .create (.ok response) :: s.answers }
  /-- A claimed record is handed to the device and removed. -/
  | disclosed (code authorization : String) (now : ℤ) (pointer : ℕ) (enrollment : Enrollment)
      (hlookup : s.enrollments.lookup code = some pointer)
      (hrecord : s.records[pointer]? = some enrollment) (hnow : now ≤ enrollment.expires)
      (hbearer : authorization = "Bearer " ++ enrollment.pollToken)
      (hclaimed : enrollment.claimed = true) :
      Moves s event { s with
        enrollments := s.enrollments.erase code
        answers := .poll code authorization now
          (.ok (.claimed enrollment.username enrollment.secret)) :: s.answers }
  /-- A claim gets a new account for its record. -/
  | account (request : ℕ) (task : ClaimTask) (account : Account) (enrollment : Enrollment)
      (htask : s.claims.lookup request = some task) (hnone : task.stage.account = none)
      (hrecord : s.records[task.pointer]? = some enrollment)
      (hnew : ∀ other ∈ s.created, other.2.token ≠ account.token) :
      Moves s event { s.advance request task (.updating account) with
        created := (enrollment.code, account) :: s.created }
  /-- A claim writes its account into its record and answers. -/
  | finished (request : ℕ) (task : ClaimTask) (account : Account) (enrollment : Enrollment)
      (hevent : event = .finish request) (htask : s.claims.lookup request = some task)
      (hstage : task.stage = .finishing account)
      (hrecord : s.records[task.pointer]? = some enrollment) :
      Moves s event (finishClaim s request task account enrollment)

/-- Every running claim keeps itself. -/
theorem kept_of_lookup {s : State} {request : ℕ} {task : ClaimTask}
    (h : s.claims.lookup request = some task) : Kept s request task :=
  Or.inr ⟨task, h, rfl, rfl⟩

/-- A harmless answer alone is a quiet move. -/
theorem moves_answer {s : State} {event : Event} {answer : Answer} (h : Harmless s answer) :
    Moves s event (s.answer answer) :=
  Moves.quiet s.claims [answer] (fun _ _ => kept_of_lookup) (by simpa using h)

/-- Going on without another account is a quiet move. -/
theorem moves_advance {s : State} {event : Event} {request : ℕ} {task : ClaimTask}
    {stage : ClaimStage}
    (htask : s.claims.lookup request = some task) (hstage : task.stage.account = stage.account) :
    Moves s event (s.advance request task stage) := by
  refine Moves.quiet (s.claims.insert request { task with stage := stage }) [] ?_ (by simp)
  intro other found hfound
  by_cases heq : other = request
  · rw [heq, AList.lookup_insert] at hfound
    cases hfound
    rw [heq]
    exact Or.inr ⟨task, htask, rfl, hstage⟩
  · rw [AList.lookup_insert_ne heq] at hfound
    exact kept_of_lookup hfound

/-- Failing is a quiet move. -/
theorem moves_fail {s : State} {event : Event} {request : ℕ} {error : HttpError} :
    Moves s event (s.fail request error) := by
  refine Moves.quiet (s.claims.erase request) [.claimRefused error] ?_ ?_
  · intro other found hfound
    exact kept_of_lookup (lookup_of_erase hfound).2
  · intro answer hanswer
    rw [List.mem_singleton.mp hanswer]
    exact ⟨rfl, Or.inl rfl⟩

/-- A code is found when it is registered and its record exists. -/
theorem find_eq_some_iff {s : State} {code : String} {pointer : ℕ} {enrollment : Enrollment} :
    s.find code = some (pointer, enrollment) ↔
      s.enrollments.lookup code = some pointer ∧ s.records[pointer]? = some enrollment := by
  rw [State.find, Option.bind_eq_some_iff]
  constructor
  · rintro ⟨other, hlookup, hmap⟩
    obtain ⟨found, hfound, heq⟩ := Option.map_eq_some_iff.mp hmap
    cases heq
    exact ⟨hlookup, hfound⟩
  · rintro ⟨hlookup, hrecord⟩
    exact ⟨pointer, hlookup, by rw [hrecord]; rfl⟩

variable {table : LowerTable} {idna : Idna} {toUpper : String → String}
  {publicURL allowedRouteSuffix : String} {s s' : State} {event : Event}

/-- Making an enrollment under a new code. -/
theorem createEnrollment_moves {body : Option CreateRequest} {random : Option (String × String)}
    {now : ℤ} (hfresh : fresh s (.create body random now) = true) :
    Moves s (.create body random now) (createEnrollment publicURL s body random now) := by
  unfold createEnrollment
  split
  · exact moves_answer ⟨rfl, Or.inl rfl⟩
  · split
    · exact moves_answer ⟨rfl, Or.inl rfl⟩
    · split
      · exact moves_answer ⟨rfl, Or.inl rfl⟩
      · rw [fresh, List.all_eq_true] at hfresh
        refine Moves.enrolled _ _ ?_ ⟨rfl, rfl, rfl⟩
        intro other hother
        have hdiffers := hfresh other hother
        rw [Bool.and_eq_true, bne_iff_ne, bne_iff_ne] at hdiffers
        exact hdiffers

/-- A poll hands over a claimed record to the holder of its token, or nothing. -/
theorem getEnrollment_moves {code authorization : String} {now : ℤ} :
    Moves s event (getEnrollment toUpper s code authorization now) := by
  rw [getEnrollment]
  split
  · exact moves_answer ⟨rfl, Or.inl rfl⟩
  · rename_i pointer enrollment hfind
    split
    · exact moves_answer ⟨rfl, Or.inl rfl⟩
    · rename_i hallowed
      split
      · exact moves_answer ⟨rfl, Or.inl rfl⟩
      · rename_i hclaimed
        rw [Bool.or_eq_true, not_or, decide_eq_true_eq, not_lt, bne_iff_ne, not_not] at hallowed
        obtain ⟨hlookup, hrecord⟩ := find_eq_some_iff.mp hfind
        exact Moves.disclosed _ _ _ pointer enrollment hlookup hrecord hallowed.1 hallowed.2
          (by simpa using hclaimed)

/-- A listing shows records that are not claimed. -/
theorem listEnrollments_moves {checked : ℤ} {credentials : Credentials}
    {visits : List (String × ℤ)} :
    Moves s event (listEnrollments s checked credentials visits) := by
  rw [listEnrollments]
  split
  · exact moves_answer ⟨rfl, Or.inl rfl⟩
  · apply moves_answer
    refine ⟨rfl, Or.inr ⟨_, rfl, ?_⟩⟩
    intro listed hlisted
    obtain ⟨visit, -, hvisit⟩ := List.mem_filterMap.mp hlisted
    obtain ⟨⟨pointer, enrollment⟩, hfind, hshown⟩ := Option.bind_eq_some_iff.mp hvisit
    split at hshown
    · rename_i hopen
      cases hshown
      rw [Bool.and_eq_true, Bool.not_eq_true'] at hopen
      exact ⟨enrollment, List.mem_of_getElem? (find_eq_some_iff.mp hfind).2, hopen.1, rfl⟩
    · cases hshown

/-- A claim starts without an account on a record that exists. -/
theorem claimEnrollment_moves {request : ℕ} {checked : ℤ} {credentials : Credentials}
    {code : String} {entitlement : Option String} {now : ℤ} :
    Moves s event (claimEnrollment table idna toUpper allowedRouteSuffix s request checked
      credentials code
      entitlement now) := by
  rw [claimEnrollment]
  split
  · exact moves_answer ⟨rfl, Or.inl rfl⟩
  · split
    · exact moves_answer ⟨rfl, Or.inl rfl⟩
    · split
      · exact moves_answer ⟨rfl, Or.inl rfl⟩
      · split
        · exact moves_answer ⟨rfl, Or.inl rfl⟩
        · rename_i pointer enrollment hfind
          split
          · exact moves_answer ⟨rfl, Or.inl rfl⟩
          · refine Moves.quiet _ [] ?_ (by simp)
            intro other found hfound
            by_cases heq : other = request
            · rw [heq, AList.lookup_insert] at hfound
              cases hfound
              have hrecord := (find_eq_some_iff.mp hfind).2
              exact Or.inl ⟨rfl, (List.getElem?_eq_some_iff.mp hrecord).1⟩
            · rw [AList.lookup_insert_ne heq] at hfound
              exact kept_of_lookup hfound

/-- A step without collisions is one of the moves. -/
theorem freshStep_moves
    (h : freshStep table idna toUpper publicURL allowedRouteSuffix s event = some s') :
    Moves s event s' := by
  rw [freshStep] at h
  split at h
  · rename_i hfresh
    cases event with
    | create body random now =>
      cases h
      exact createEnrollment_moves hfresh
    | poll code authorization now =>
      cases h
      exact getEnrollment_moves
    | list checked credentials visits =>
      rw [step] at h
      split at h
      · cases h
        exact listEnrollments_moves
      · cases h
    | claim request checked credentials code entitlement now =>
      rw [step] at h
      split at h
      · cases h
      · cases h
        exact claimEnrollment_moves
    | accountCreated request account =>
      rw [step] at h
      obtain ⟨task, htask, hnext⟩ := Option.bind_eq_some_iff.mp h
      split at hnext
      · cases hnext
        exact moves_fail
      · rename_i account hstage
        obtain ⟨enrollment, hrecord, rfl⟩ := Option.map_eq_some_iff.mp hnext
        rw [fresh, List.all_eq_true] at hfresh
        refine Moves.account request task account enrollment htask (by rw [hstage]; rfl) hrecord ?_
        intro other hother
        exact bne_iff_ne.mp (hfresh other hother)
      · cases hnext
    | attributesUpdated request success =>
      rw [step] at h
      obtain ⟨task, htask, hnext⟩ := Option.bind_eq_some_iff.mp h
      split at hnext
      · rename_i account hstage
        cases hnext
        split
        · exact moves_advance htask (by rw [hstage]; rfl)
        · exact moves_fail
      · cases hnext
    | entitlementFound request success =>
      rw [step] at h
      obtain ⟨task, htask, hnext⟩ := Option.bind_eq_some_iff.mp h
      split at hnext
      · rename_i account hstage
        cases hnext
        apply moves_advance htask
        rw [hstage]
        split <;> rfl
      · cases hnext
    | userBound request =>
      rw [step] at h
      obtain ⟨task, htask, hnext⟩ := Option.bind_eq_some_iff.mp h
      split at hnext
      · rename_i account hstage
        cases hnext
        exact moves_advance htask (by rw [hstage]; rfl)
      · cases hnext
    | finish request =>
      rw [step] at h
      obtain ⟨task, htask, hnext⟩ := Option.bind_eq_some_iff.mp h
      split at hnext
      · rename_i account hstage
        obtain ⟨enrollment, hrecord, rfl⟩ := Option.map_eq_some_iff.mp hnext
        exact Moves.finished request task account enrollment rfl htask hstage hrecord
      · cases hnext
  · cases h

end

end LfpPipe.DeviceEnrollment
