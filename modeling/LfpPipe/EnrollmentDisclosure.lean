import LfpPipe.EnrollmentSafety

/-!
# What the answers to enrollment requests disclose

Poll tokens and secrets are drawn at random, and other texts reach the service
from devices, users and Authentik. Which texts count as hidden is a parameter: in
a run that keeps them separate every token and secret is hidden when it is drawn,
and no other text that comes in is. Then no text of any answer is hidden outside
the fields for tokens and secrets, so that a secret occurs where it is handed over
and nowhere else.
-/

namespace LfpPipe.EnrollmentDisclosure

open DeviceEnrollment EnrollmentSafety GoText OwnedTables RouteAuth TransitionRuns TunnelTickets

/-- The texts of an answer outside the fields for poll tokens and secrets. -/
def openTexts : Answer → List String
  | .create (.ok response) => [response.code, response.claimURL]
  | .poll _ _ _ (.ok (.claimed username _)) => ["claimed", username]
  | .list (.ok enrollments) => enrollments.flatMap ListedEnrollment.openTexts
  | answer => answer.texts

/-- The texts in the field for a poll token. -/
def pollTokens : Answer → List String
  | .create (.ok response) => [response.pollToken]
  | _ => []

/-- A body consists of its open texts, its secrets and its poll tokens. -/
theorem count_texts (answer : Answer) (text : String) :
    answer.texts.count text = (openTexts answer).count text + answer.secrets.count text +
      (pollTokens answer).count text := by
  cases answer with
  | create response =>
    cases response with
    | error error => simp [Answer.texts, openTexts, Answer.secrets, pollTokens]
    | ok response =>
      simp only [Answer.texts, openTexts, Answer.secrets, pollTokens, List.count_cons,
        List.count_nil]
      omega
  | poll code authorization now response =>
    cases response with
    | error error => simp [Answer.texts, openTexts, Answer.secrets, pollTokens]
    | ok response =>
      cases response with
      | pending => simp [Answer.texts, openTexts, Answer.secrets, pollTokens]
      | claimed username clientSecret =>
        simp only [Answer.texts, openTexts, Answer.secrets, pollTokens, List.count_cons,
          List.count_nil]
        omega
  | list response =>
    cases response with
    | error error => simp [Answer.texts, openTexts, Answer.secrets, pollTokens]
    | ok enrollments =>
      simp only [Answer.texts, openTexts, Answer.secrets, pollTokens, List.count_nil]
      induction enrollments with
      | nil => rfl
      | cons listed rest ih =>
        simp only [List.flatMap_cons, List.count_append] at ih ⊢
        omega
  | claimRefused error => simp [Answer.texts, openTexts, Answer.secrets, pollTokens]
  | claimed code account principal => simp [Answer.texts, openTexts, Answer.secrets, pollTokens]

section

variable (table : LowerTable) (idna : Idna) (toUpper : String → String)
  (publicURL allowedRouteSuffix : String) (hidden : String → Bool)

/-- The texts that an event brings in: those that the service is told, and those
that it makes of them. -/
def eventTexts : Event → List String
  | .create (some request) (some (code, _)) _ =>
    [request.deviceID, request.name, request.platform, request.version,
      clientName table request.name, code, publicURL ++ "/?enroll=" ++ code]
  | .accountCreated _ (some account) => [account.username]
  | .claim _ checked credentials _ (some requested) _ =>
    match requireSession checked credentials with
    | .error _ => []
    | .ok session =>
      match ownedEntitlement table idna session.entitlements requested allowedRouteSuffix with
      | .error message => [message]
      | .ok entitlement => [entitlement]
  | _ => []

/-- The poll token or the secret that is drawn at an event. -/
def drawn : Event → Option String
  | .create _ (some (_, pollToken)) _ => some pollToken
  | .accountCreated _ (some account) => some account.token
  | _ => none

/-- The texts that answers are made of besides. -/
def fixedTexts : List String :=
  ["", "pending", "claimed", "Device identity is required.", "Entitlement is required.",
    signIn.message, enrollmentExpired.message, internalError.message]

/-- Whether a text that is drawn is hidden and drawn for the first time, and no
other text of the event is hidden. -/
def separates (s : State) (event : Event) : Bool :=
  ((eventTexts table idna publicURL allowedRouteSuffix event).all fun text => !hidden text) &&
    (drawn event).all fun text => hidden text &&
      (s.records.all fun enrollment => enrollment.pollToken != text) &&
      s.created.all fun item => item.2.token != text

/-- Answer one event without collisions of tokens and secrets with anything else. -/
def separateStep (s : State) (event : Event) : Option State :=
  if separates table idna publicURL allowedRouteSuffix hidden s event then
    freshStep table idna toUpper publicURL allowedRouteSuffix s event
  else none

/-- The texts of a record outside its poll token and its secret. -/
def recordTexts (enrollment : Enrollment) : List String :=
  [enrollment.code, enrollment.deviceID, enrollment.name, enrollment.platform, enrollment.version,
    enrollment.username, clientName table enrollment.name]

/-- The texts of a running claim outside the secret of its account. -/
def taskTexts (task : ClaimTask) : List String :=
  [task.clientID, task.entitlement] ++ (task.stage.account.map Account.username).toList

/-- Tokens and secrets are hidden, and nothing else is. -/
structure Separate (s : State) : Prop where
  /-- The texts of a record are open. -/
  records : ∀ enrollment ∈ s.records, ∀ text ∈ recordTexts table enrollment, hidden text = false
  /-- Its poll token is hidden. -/
  tokens : ∀ enrollment ∈ s.records, hidden enrollment.pollToken = true
  /-- The texts of a running claim are open. -/
  tasks : ∀ request task, s.claims.lookup request = some task → ∀ text ∈ taskTexts task,
    hidden text = false
  /-- The secret of an account is hidden. -/
  accounts : ∀ item ∈ s.created, hidden item.2.token = true
  /-- No two accounts have one secret. -/
  once : (s.created.map fun item => item.2.token).Nodup
  /-- No poll token is a secret. -/
  distinct : ∀ enrollment ∈ s.records, ∀ item ∈ s.created, enrollment.pollToken ≠ item.2.token
  /-- The open texts of an answer are open. -/
  answers : ∀ answer ∈ s.answers, ∀ text ∈ openTexts answer, hidden text = false
  /-- The poll token of an answer is that of a record. -/
  issued : ∀ answer ∈ s.answers, ∀ text ∈ pollTokens answer,
    ∃ enrollment ∈ s.records, enrollment.pollToken = text

end

section

variable {table : LowerTable} {idna : Idna} {toUpper : String → String}
  {publicURL allowedRouteSuffix : String} {hidden : String → Bool} {s s' : State}

/-- An answer of open texts keeps tokens and secrets separate. -/
theorem Separate.answer (h : Separate table hidden s) {answer : Answer}
    (htexts : ∀ text ∈ openTexts answer, hidden text = false) (htokens : pollTokens answer = []) :
    Separate table hidden (s.answer answer) where
  records := h.records
  tokens := h.tokens
  tasks := h.tasks
  accounts := h.accounts
  once := h.once
  distinct := h.distinct
  answers := List.forall_mem_cons.mpr ⟨htexts, h.answers⟩
  issued := by
    refine List.forall_mem_cons.mpr ⟨?_, h.issued⟩
    rw [htokens]
    exact fun text hm => absurd hm List.not_mem_nil

/-- An answer of one open text keeps tokens and secrets separate. -/
theorem Separate.answer_of_eq (h : Separate table hidden s) {answer : Answer} {text : String}
    (hanswer : openTexts answer = [text]) (htext : hidden text = false)
    (htokens : pollTokens answer = []) :
    Separate table hidden (s.answer answer) := by
  refine h.answer ?_ htokens
  rw [hanswer]
  exact List.forall_mem_singleton.mpr htext

/-- A stored claim of open texts keeps tokens and secrets separate. -/
theorem Separate.insert (h : Separate table hidden s) (request : ℕ) {task : ClaimTask}
    (htexts : ∀ text ∈ taskTexts task, hidden text = false) :
    Separate table hidden { s with claims := s.claims.insert request task } where
  records := h.records
  tokens := h.tokens
  tasks other found hfound := by
    by_cases heq : other = request
    · rw [heq, AList.lookup_insert] at hfound
      cases hfound
      exact htexts
    · rw [AList.lookup_insert_ne heq] at hfound
      exact h.tasks other found hfound
  accounts := h.accounts
  once := h.once
  distinct := h.distinct
  answers := h.answers
  issued := h.issued

/-- A claim that goes on with the account it has keeps tokens and secrets separate. -/
theorem Separate.advance (h : Separate table hidden s) {request : ℕ} {task : ClaimTask}
    {stage : ClaimStage} (htask : s.claims.lookup request = some task)
    (hstage : task.stage.account = stage.account) :
    Separate table hidden (s.advance request task stage) := by
  refine h.insert request ?_
  have htexts : taskTexts { task with stage := stage } = taskTexts task := by
    rw [taskTexts, taskTexts, hstage]
  rw [htexts]
  exact h.tasks request task htask

/-- A claim that ends keeps tokens and secrets separate. -/
theorem Separate.erase (h : Separate table hidden s) (request : ℕ) :
    Separate table hidden { s with claims := s.claims.erase request } where
  records := h.records
  tokens := h.tokens
  tasks other found hfound := h.tasks other found (lookup_of_erase hfound).2
  accounts := h.accounts
  once := h.once
  distinct := h.distinct
  answers := h.answers
  issued := h.issued

/-- A claim that gets its account keeps tokens and secrets separate. -/
theorem Separate.account (h : Separate table hidden s) {request : ℕ} {task : ClaimTask}
    {account : Account} (code : String) (htask : s.claims.lookup request = some task)
    (hseparates : separates table idna publicURL allowedRouteSuffix hidden s
      (.accountCreated request (some account)) = true) :
    Separate table hidden { s.advance request task (.updating account) with
      created := (code, account) :: s.created } := by
  simp only [separates, eventTexts, drawn, Option.all_some, Bool.and_eq_true, List.all_eq_true,
    bne_iff_ne, List.forall_mem_singleton, Bool.not_eq_true'] at hseparates
  obtain ⟨husername, ⟨hhidden, htokens⟩, hsecrets⟩ := hseparates
  have hstarted := List.forall_mem_append.mp (h.tasks request task htask)
  have hadvanced : Separate table hidden (s.advance request task (.updating account)) :=
    h.insert request (List.forall_mem_append.mpr
      ⟨hstarted.1, List.forall_mem_singleton.mpr husername⟩)
  refine ⟨h.records, h.tokens, hadvanced.tasks, ?_, ?_, ?_, h.answers, h.issued⟩
  · exact List.forall_mem_cons.mpr ⟨hhidden, h.accounts⟩
  · refine List.nodup_cons.mpr ⟨?_, h.once⟩
    intro hm
    obtain ⟨item, hitem, heq⟩ := List.mem_map.mp hm
    exact hsecrets item hitem heq
  · intro enrollment hrecord
    exact List.forall_mem_cons.mpr ⟨htokens enrollment hrecord, h.distinct enrollment hrecord⟩

section

variable (hfixed : ∀ text ∈ fixedTexts, hidden text = false)
include hfixed

/-- A claim that fails keeps tokens and secrets separate. -/
theorem Separate.fail (h : Separate table hidden s) (request : ℕ) :
    Separate table hidden (s.fail request internalError) :=
  (h.erase request).answer_of_eq rfl (hfixed _ (by decide)) rfl

/-- A new enrollment keeps tokens and secrets separate. -/
theorem Separate.create (h : Separate table hidden s) {body : Option CreateRequest}
    {random : Option (String × String)} {now : ℤ}
    (hseparates : separates table idna publicURL allowedRouteSuffix hidden s
      (.create body random now) = true) :
    Separate table hidden (createEnrollment publicURL s body random now) := by
  rw [separates, Bool.and_eq_true, List.all_eq_true] at hseparates
  obtain ⟨htexts, hdrawn⟩ := hseparates
  unfold createEnrollment
  split
  · exact h.answer_of_eq rfl (hfixed _ (by decide)) rfl
  · rename_i request
    split
    · exact h.answer_of_eq rfl (hfixed _ (by decide)) rfl
    · split
      · exact h.answer_of_eq rfl (hfixed _ (by decide)) rfl
      · rename_i code pollToken
        simp only [eventTexts, List.forall_mem_cons, Bool.not_eq_true'] at htexts
        obtain ⟨hdevice, hname, hplatform, hversion, hclient, hcode, hurl, -⟩ := htexts
        simp only [drawn, Option.all_some, Bool.and_eq_true, List.all_eq_true, bne_iff_ne]
          at hdrawn
        obtain ⟨⟨hhidden, -⟩, hsecrets⟩ := hdrawn
        refine ⟨?_, ?_, h.tasks, h.accounts, h.once, ?_, ?_, ?_⟩
        · refine List.forall_mem_append.mpr ⟨h.records, List.forall_mem_singleton.mpr ?_⟩
          simp only [recordTexts, List.forall_mem_cons]
          exact ⟨hcode, hdevice, hname, hplatform, hversion, hfixed _ (by decide), hclient,
            fun text hm => absurd hm List.not_mem_nil⟩
        · exact List.forall_mem_append.mpr ⟨h.tokens, List.forall_mem_singleton.mpr hhidden⟩
        · refine List.forall_mem_append.mpr ⟨h.distinct, List.forall_mem_singleton.mpr ?_⟩
          exact fun item hitem => (hsecrets item hitem).symm
        · refine List.forall_mem_cons.mpr ⟨?_, h.answers⟩
          exact List.forall_mem_cons.mpr ⟨hcode, List.forall_mem_singleton.mpr hurl⟩
        · refine List.forall_mem_cons.mpr ⟨List.forall_mem_singleton.mpr ?_, ?_⟩
          · exact ⟨_, List.mem_append_right _ (List.mem_singleton.mpr rfl), rfl⟩
          · intro answer hanswer text htext
            obtain ⟨enrollment, hrecord, htoken⟩ := h.issued answer hanswer text htext
            exact ⟨enrollment, List.mem_append_left _ hrecord, htoken⟩

/-- A poll keeps tokens and secrets separate. -/
theorem Separate.poll (h : Separate table hidden s) {code authorization : String} {now : ℤ} :
    Separate table hidden (getEnrollment toUpper s code authorization now) := by
  rw [getEnrollment]
  split
  · exact h.answer_of_eq rfl (hfixed _ (by decide)) rfl
  · rename_i pointer enrollment hfind
    split
    · exact h.answer_of_eq rfl (hfixed _ (by decide)) rfl
    · split
      · exact h.answer_of_eq rfl (hfixed _ (by decide)) rfl
      · have hrecord := List.mem_of_getElem? (find_eq_some_iff.mp hfind).2
        have husername : hidden enrollment.username = false :=
          h.records enrollment hrecord _ (by simp [recordTexts])
        refine ⟨h.records, h.tokens, h.tasks, h.accounts, h.once, h.distinct, ?_, ?_⟩
        · refine List.forall_mem_cons.mpr ⟨?_, h.answers⟩
          exact List.forall_mem_cons.mpr ⟨hfixed _ (by decide),
            List.forall_mem_singleton.mpr husername⟩
        · exact List.forall_mem_cons.mpr ⟨fun text hm => absurd hm List.not_mem_nil, h.issued⟩

/-- A listing keeps tokens and secrets separate. -/
theorem Separate.list (h : Separate table hidden s) {checked : ℤ} {credentials : Credentials}
    {visits : List (String × ℤ)} :
    Separate table hidden (listEnrollments s checked credentials visits) := by
  rw [listEnrollments]
  split
  · exact h.answer_of_eq rfl (hfixed _ (by decide)) rfl
  · refine h.answer ?_ rfl
    intro text htext
    obtain ⟨listed, hlisted, htext⟩ := List.mem_flatMap.mp htext
    obtain ⟨visit, -, hvisit⟩ := List.mem_filterMap.mp hlisted
    obtain ⟨⟨pointer, enrollment⟩, hfind, hshown⟩ := Option.bind_eq_some_iff.mp hvisit
    split at hshown
    · cases hshown
      have hrecord := List.mem_of_getElem? (find_eq_some_iff.mp hfind).2
      refine h.records enrollment hrecord text ?_
      rw [ListedEnrollment.openTexts, List.mem_append] at htext
      rcases htext with hplain | husername
      · exact List.mem_append_left [enrollment.username, clientName table enrollment.name] hplain
      · rw [Enrollment.listed, omitEmpty, Option.mem_toList] at husername
        split at husername
        · cases husername
        · cases husername
          simp [recordTexts]
    · cases hshown

/-- A claim that begins keeps tokens and secrets separate. -/
theorem Separate.claim (h : Separate table hidden s) {request : ℕ} {checked : ℤ}
    {credentials : Credentials} {code : String} {entitlement : Option String} {now : ℤ}
    (hseparates : separates table idna publicURL allowedRouteSuffix hidden s
      (.claim request checked credentials code entitlement now) = true) :
    Separate table hidden (claimEnrollment table idna toUpper allowedRouteSuffix s request checked
      credentials code entitlement now) := by
  rw [separates, Bool.and_eq_true, List.all_eq_true] at hseparates
  obtain ⟨htexts, -⟩ := hseparates
  rw [claimEnrollment]
  cases hsession : requireSession checked credentials with
  | error error => exact h.answer_of_eq rfl (hfixed _ (by decide)) rfl
  | ok session =>
    cases entitlement with
    | none => exact h.answer_of_eq rfl (hfixed _ (by decide)) rfl
    | some requested =>
      rw [eventTexts, hsession] at htexts
      dsimp only at htexts ⊢
      cases howned : ownedEntitlement table idna session.entitlements requested
          allowedRouteSuffix with
      | error message =>
        rw [howned] at htexts
        have hmessage := List.forall_mem_singleton.mp htexts
        rw [Bool.not_eq_true'] at hmessage
        exact h.answer_of_eq rfl hmessage rfl
      | ok granted =>
        rw [howned] at htexts
        have hgranted := List.forall_mem_singleton.mp htexts
        rw [Bool.not_eq_true'] at hgranted
        dsimp only
        split
        · exact h.answer_of_eq rfl (hfixed _ (by decide)) rfl
        · rename_i pointer enrollment hfind
          split
          · exact h.answer_of_eq rfl (hfixed _ (by decide)) rfl
          · have hrecord := List.mem_of_getElem? (find_eq_some_iff.mp hfind).2
            have hname : hidden (clientName table enrollment.name) = false :=
              h.records enrollment hrecord _ (by simp [recordTexts])
            have htexts : ∀ text ∈ [clientName table enrollment.name, granted],
                hidden text = false :=
              List.forall_mem_cons.mpr ⟨hname, List.forall_mem_singleton.mpr hgranted⟩
            refine h.insert request ?_
            simp only [taskTexts, ClaimStage.account, Option.map_none, Option.toList_none,
              List.append_nil]
            exact htexts

/-- A claim that writes keeps tokens and secrets separate. -/
theorem Separate.finish (h : Separate table hidden s) {request : ℕ} {task : ClaimTask}
    {account : Account} {enrollment : Enrollment} (htask : s.claims.lookup request = some task)
    (hstage : task.stage = .finishing account)
    (hrecord : s.records[task.pointer]? = some enrollment) :
    Separate table hidden (finishClaim s request task account enrollment) := by
  have hold := h.records enrollment (List.mem_of_getElem? hrecord)
  have htexts := h.tasks request task htask
  rw [taskTexts, account_of_finishing hstage] at htexts
  have husername : hidden account.username = false := htexts _ (by simp)
  have hwritten : ∀ found ∈ (finishClaim s request task account enrollment).records,
      found = enrollment.write account ∨ found ∈ s.records := by
    intro found hfound
    obtain ⟨i, hi⟩ := List.getElem?_of_mem hfound
    rcases getElem?_finishClaim hi with ⟨-, heq⟩ | ⟨-, hbefore⟩
    · exact .inl heq
    · exact .inr (List.mem_of_getElem? hbefore)
  refine ⟨?_, ?_, ?_, h.accounts, h.once, ?_, ?_, ?_⟩
  · intro found hfound
    rcases hwritten found hfound with rfl | hbefore
    · simp only [recordTexts, List.forall_mem_cons] at hold ⊢
      obtain ⟨hcode, hdevice, hname, hplatform, hversion, -, hclient, hrest⟩ := hold
      exact ⟨hcode, hdevice, hname, hplatform, hversion, husername, hclient, hrest⟩
    · exact h.records found hbefore
  · intro found hfound
    rcases hwritten found hfound with rfl | hbefore
    · exact h.tokens enrollment (List.mem_of_getElem? hrecord)
    · exact h.tokens found hbefore
  · exact fun other found hfound => h.tasks other found (lookup_of_erase hfound).2
  · intro found hfound
    rcases hwritten found hfound with rfl | hbefore
    · exact h.distinct enrollment (List.mem_of_getElem? hrecord)
    · exact h.distinct found hbefore
  · refine List.forall_mem_cons.mpr ⟨?_, h.answers⟩
    have hname : hidden enrollment.name = false := hold _ (by simp [recordTexts])
    have hclient : hidden task.clientID = false := htexts _ (by simp)
    have hentitlement : hidden task.entitlement = false := htexts _ (by simp)
    exact List.forall_mem_cons.mpr ⟨hfixed _ (by decide), List.forall_mem_cons.mpr ⟨husername,
      List.forall_mem_cons.mpr ⟨hname, List.forall_mem_cons.mpr ⟨hclient,
        List.forall_mem_singleton.mpr hentitlement⟩⟩⟩⟩
  · refine List.forall_mem_cons.mpr ⟨fun text hm => absurd hm List.not_mem_nil, ?_⟩
    intro answer hanswer text htext
    obtain ⟨found, hfound, htoken⟩ := h.issued answer hanswer text htext
    obtain ⟨i, hi⟩ := List.getElem?_of_mem hfound
    by_cases heq : i = task.pointer
    · rw [heq, hrecord] at hi
      cases hi
      refine ⟨enrollment.write account, ?_, htoken⟩
      have hlt := (List.getElem?_eq_some_iff.mp hrecord).1
      refine List.mem_of_getElem? (i := task.pointer) ?_
      rw [finishClaim, List.getElem?_set_self hlt]
    · refine ⟨found, List.mem_of_getElem? (i := i) ?_, htoken⟩
      rw [finishClaim, List.getElem?_set_ne fun h => heq h.symm]
      exact hi

/-- A step without collisions keeps tokens and secrets separate. -/
theorem separate_step {event : Event} (h : Separate table hidden s)
    (hstep : separateStep table idna toUpper publicURL allowedRouteSuffix hidden s event =
      some s') : Separate table hidden s' := by
  rw [separateStep] at hstep
  split at hstep
  · rename_i hseparates
    rw [freshStep] at hstep
    split at hstep
    · cases event with
      | create body random now =>
        cases hstep
        exact h.create hfixed hseparates
      | poll code authorization now =>
        cases hstep
        exact h.poll hfixed
      | list checked credentials visits =>
        rw [step] at hstep
        split at hstep
        · cases hstep
          exact h.list hfixed
        · cases hstep
      | claim request checked credentials code entitlement now =>
        rw [step] at hstep
        split at hstep
        · cases hstep
        · cases hstep
          exact h.claim hfixed hseparates
      | accountCreated request account =>
        rw [step] at hstep
        obtain ⟨task, htask, hnext⟩ := Option.bind_eq_some_iff.mp hstep
        split at hnext
        · cases hnext
          exact h.fail hfixed request
        · obtain ⟨enrollment, hrecord, rfl⟩ := Option.map_eq_some_iff.mp hnext
          exact h.account enrollment.code htask hseparates
        · cases hnext
      | attributesUpdated request success =>
        rw [step] at hstep
        obtain ⟨task, htask, hnext⟩ := Option.bind_eq_some_iff.mp hstep
        split at hnext
        · rename_i account hstage
          cases hnext
          split
          · exact h.advance htask (by rw [hstage]; rfl)
          · exact h.fail hfixed request
        · cases hnext
      | entitlementFound request success =>
        rw [step] at hstep
        obtain ⟨task, htask, hnext⟩ := Option.bind_eq_some_iff.mp hstep
        split at hnext
        · rename_i account hstage
          cases hnext
          refine h.advance htask ?_
          rw [hstage]
          split <;> rfl
        · cases hnext
      | userBound request =>
        rw [step] at hstep
        obtain ⟨task, htask, hnext⟩ := Option.bind_eq_some_iff.mp hstep
        split at hnext
        · rename_i account hstage
          cases hnext
          exact h.advance htask (by rw [hstage]; rfl)
        · cases hnext
      | finish request =>
        rw [step] at hstep
        obtain ⟨task, htask, hnext⟩ := Option.bind_eq_some_iff.mp hstep
        split at hnext
        · rename_i account hstage
          obtain ⟨enrollment, hrecord, rfl⟩ := Option.map_eq_some_iff.mp hnext
          exact h.finish hfixed htask hstage hrecord
        · cases hnext
    · cases hstep
  · cases hstep

/-- Runs without collisions keep tokens and secrets separate. -/
theorem separate_of_reachable
    (hr : Reachable (separateStep table idna toUpper publicURL allowedRouteSuffix hidden)
      State.initial s) : Separate table hidden s := by
  refine hr.invariant (fun before event after hbefore hstep =>
    separate_step hfixed hbefore hstep) ?_
  refine ⟨?_, ?_, ?_, ?_, List.nodup_nil, ?_, ?_, ?_⟩
  · exact fun enrollment hrecord => absurd hrecord List.not_mem_nil
  · exact fun enrollment hrecord => absurd hrecord List.not_mem_nil
  · intro request task htask
    cases htask
  · exact fun item hitem => absurd hitem List.not_mem_nil
  · exact fun enrollment hrecord => absurd hrecord List.not_mem_nil
  · exact fun answer hanswer => absurd hanswer List.not_mem_nil
  · exact fun answer hanswer => absurd hanswer List.not_mem_nil

end

/-- A run without collisions is one without repeated codes, tokens and secrets. -/
theorem reachable_fresh
    (hr : Reachable (separateStep table idna toUpper publicURL allowedRouteSuffix hidden)
      State.initial s) :
    Reachable (freshStep table idna toUpper publicURL allowedRouteSuffix) State.initial s := by
  refine hr.invariant ?_ ⟨[], rfl⟩
  intro before event after hbefore hstep
  rw [separateStep] at hstep
  split at hstep
  · exact hbefore.next hstep
  · cases hstep

/-- A secret occurs in an answer exactly as often as in the fields for secrets. -/
theorem count_secret (h : Separate table hidden s) {answer : Answer} (hanswer : answer ∈ s.answers)
    {item : String × Account} (hitem : item ∈ s.created) :
    answer.texts.count item.2.token = answer.secrets.count item.2.token := by
  have hopen : (openTexts answer).count item.2.token = 0 := by
    rw [List.count_eq_zero]
    intro hm
    have hfalse := h.answers answer hanswer _ hm
    rw [h.accounts item hitem] at hfalse
    cases hfalse
  have htokens : (pollTokens answer).count item.2.token = 0 := by
    rw [List.count_eq_zero]
    intro hm
    obtain ⟨enrollment, hrecord, htoken⟩ := h.issued answer hanswer _ hm
    exact h.distinct enrollment hrecord item hitem htoken
  rw [count_texts, hopen, htokens, Nat.zero_add, Nat.add_zero]

/-- Enrollment secrets are disclosed once and only to the device: each secret
that a claim created occurs at most once in the texts of all answers together, in
the answer to a poll with the token of the enrollment that was claimed, no later
than its end; and no text of a listing or of an answer to a claim is hidden, so
none is a secret or a poll token. -/
theorem secrets_disclosed_once (hfixed : ∀ text ∈ fixedTexts, hidden text = false)
    (hr : Reachable (separateStep table idna toUpper publicURL allowedRouteSuffix hidden)
      State.initial s) :
    (∀ code account, (code, account) ∈ s.created →
      (s.answers.flatMap Answer.texts).count account.token ≤ 1) ∧
    (∀ answer ∈ s.answers, ∀ code account, (code, account) ∈ s.created →
      account.token ∈ answer.texts →
      ∃ authorization now username, ∃ (i : ℕ) (enrollment : Enrollment),
        answer = .poll code authorization now (.ok (.claimed username account.token)) ∧
        s.records[i]? = some enrollment ∧ enrollment.code = code ∧
        authorization = "Bearer " ++ enrollment.pollToken ∧ now ≤ enrollment.expires) ∧
    (∀ (i j : ℕ) (left right : Enrollment), s.records[i]? = some left →
      s.records[j]? = some right → left.code = right.code → i = j) ∧
    ∀ answer ∈ s.answers, ((∃ response, answer = .list response) ∨
        (∃ error, answer = .claimRefused error) ∨
        ∃ code account principal, answer = .claimed code account principal) →
      ∀ text ∈ answer.texts, hidden text = false ∧
        (∀ enrollment ∈ s.records, text ≠ enrollment.pollToken) ∧
        ∀ code account, (code, account) ∈ s.created → text ≠ account.token := by
  have hseparate := separate_of_reachable hfixed hr
  have hs := consistent_of_reachable (reachable_fresh hr)
  refine ⟨?_, ?_, hs.registry.codes, ?_⟩
  · intro code account hcreated
    have hsame : s.answers.map (fun answer => answer.texts.count account.token) =
        s.answers.map fun answer => answer.secrets.count account.token :=
      List.map_congr_left fun answer hanswer => count_secret hseparate hanswer hcreated
    have honce := hs.disclosure.once account.token
    rw [List.count_flatMap] at honce ⊢
    rw [show (s.answers.map (List.count account.token ∘ Answer.texts)) = _ from hsame]
    exact honce
  · intro answer hanswer code account hcreated hm
    have hsecret : account.token ∈ answer.secrets := by
      rw [← List.count_pos_iff, count_secret hseparate hanswer hcreated, List.count_pos_iff] at hm
      exact hm
    obtain ⟨polled, authorization, now, username, rfl⟩ :=
      hs.disclosure.only answer hanswer account.token hsecret
    obtain ⟨⟨i, enrollment, hrecord, hcode, hbearer, hnow⟩, other, principal, hmem, -, htoken⟩ :=
      hs.disclosure.handed polled authorization now username account.token hanswer
    have hother := hs.accounts.reported polled other principal hmem
    have hitem := List.inj_on_of_nodup_map hseparate.once hother hcreated htoken
    cases hitem
    exact ⟨authorization, now, username, i, enrollment, rfl, hrecord, hcode, hbearer, hnow⟩
  · intro answer hanswer hkind text htext
    have hopen : hidden text = false := by
      refine hseparate.answers answer hanswer text ?_
      have hplain : answer.secrets = [] ∧ pollTokens answer = [] := by
        refine ⟨?_, ?_⟩
        · rw [List.eq_nil_iff_forall_not_mem]
          intro secret hsecret
          obtain ⟨code, authorization, now, username, rfl⟩ :=
            hs.disclosure.only answer hanswer secret hsecret
          rcases hkind with ⟨response, heq⟩ | ⟨error, heq⟩ | ⟨code', account, principal, heq⟩ <;>
            cases heq
        · rcases hkind with ⟨response, rfl⟩ | ⟨error, rfl⟩ | ⟨code, account, principal, rfl⟩ <;> rfl
      rw [← List.count_pos_iff] at htext ⊢
      rw [count_texts, hplain.1, hplain.2, List.count_nil, Nat.add_zero] at htext
      exact htext
    refine ⟨hopen, ?_, ?_⟩
    · rintro enrollment hrecord rfl
      rw [hseparate.tokens enrollment hrecord] at hopen
      cases hopen
    · rintro code account hcreated rfl
      rw [hseparate.accounts _ hcreated] at hopen
      cases hopen

end

/-- The tokens and secrets of the sample run. -/
def sampleHidden (text : String) : Bool := ["poll-token", "first", "second"].contains text

/-- One device, with hidden tokens and secrets. -/
def sampleSeparateStep : State → Event → Option State :=
  separateStep asciiTable plainIdna asciiUpper "https://connect.example.com" "subdomain.domain"
    sampleHidden

/-- The secret of the second claim is handed out once, that of the first never. -/
theorem secrets_disclosed_once_double_claim :
    ∃ s, run sampleSeparateStep State.initial doubleClaim = some s ∧
      (s.answers.flatMap Answer.texts).count "second" = 1 ∧
      (s.answers.flatMap Answer.texts).count "first" ≤ 1 := by
  have hsecrets : (run sampleSeparateStep State.initial doubleClaim).map
      (fun s => ((s.answers.flatMap Answer.texts).count "second",
        s.created.map fun item => item.2.token)) = some (1, ["second", "first"]) := by
    decide +kernel
  obtain ⟨s, hrun, heq⟩ := Option.map_eq_some_iff.mp hsecrets
  rw [Prod.mk.injEq] at heq
  have hmem : "first" ∈ s.created.map fun item => item.2.token := by
    rw [heq.2]
    decide
  have hfixed : ∀ text ∈ fixedTexts, sampleHidden text = false := by decide
  obtain ⟨⟨code, account⟩, hcreated, htoken⟩ := List.mem_map.mp hmem
  have hbound := (secrets_disclosed_once hfixed ⟨doubleClaim, hrun⟩).1 code account hcreated
  rw [show account.token = "first" from htoken] at hbound
  exact ⟨s, hrun, heq.1, hbound⟩

end LfpPipe.EnrollmentDisclosure
