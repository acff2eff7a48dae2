import LfpPipe.DeviceEnrollment

/-!
# Claims and disclosures of enrollments

The record of an enrollment is shared by polls, listings and any number of
claims. Codes are never reused, so a registered record is the only one of
its code; accounts are never reused, so a secret sits in at most one running
claim, one record or one answer. A secret is handed out from a registered
record, which the same poll removes. Nothing of this keeps two claims of one
code apart: both write, both answer with success, and the later one wins.
-/

namespace LfpPipe.EnrollmentSafety

open DeviceEnrollment GoText OwnedTables RouteAuth TransitionRuns

variable {s s' : State} {event : Event}

/-- Codes, records and pointers fit together. -/
structure RegistryInv (s : State) : Prop where
  /-- A registered pointer leads to the record of the code. -/
  registered : ∀ code pointer, s.enrollments.lookup code = some pointer →
    ∃ enrollment, s.records[pointer]? = some enrollment ∧ enrollment.code = code
  /-- Two records have two codes. -/
  codes : ∀ (i j : ℕ) (left right : Enrollment), s.records[i]? = some left →
    s.records[j]? = some right → left.code = right.code → i = j
  /-- A record that is not claimed holds no credentials. -/
  blank : ∀ enrollment ∈ s.records, enrollment.claimed = false →
    enrollment.username = "" ∧ enrollment.secret = ""
  /-- A running claim points to a record. -/
  pointers : ∀ request task, s.claims.lookup request = some task →
    task.pointer < s.records.length

/-- A record after a write is the written one, or was there before. -/
theorem getElem?_finishClaim {request : ℕ} {task : ClaimTask} {account : Account}
    {enrollment found : Enrollment} {i : ℕ}
    (h : (finishClaim s request task account enrollment).records[i]? = some found) :
    (i = task.pointer ∧ found = enrollment.write account) ∨
      (i ≠ task.pointer ∧ s.records[i]? = some found) := by
  rw [finishClaim, List.getElem?_set] at h
  split at h
  · rename_i heq
    split at h
    · cases h
      exact Or.inl ⟨heq.symm, rfl⟩
    · cases h
  · rename_i hne
    exact Or.inr ⟨fun heq => hne heq.symm, h⟩

/-- A record after an enrollment is the new one, or was there before. -/
theorem getElem?_append_new {records : List Enrollment} {enrollment found : Enrollment} {i : ℕ}
    (h : (records ++ [enrollment])[i]? = some found) :
    (i = records.length ∧ found = enrollment) ∨ records[i]? = some found := by
  rcases Nat.lt_or_ge i records.length with hlt | hge
  · rw [List.getElem?_append_left hlt] at h
    exact Or.inr h
  · rw [List.getElem?_append_right hge, List.getElem?_singleton] at h
    split at h
    · rename_i hzero
      cases h
      exact Or.inl ⟨by omega, rfl⟩
    · cases h

/-- Every record of a code that was there keeps its code, token and end. -/
theorem registryInv_moves (hinv : RegistryInv s) (hmove : Moves s event s') : RegistryInv s' := by
  obtain ⟨hregistered, hcodes, hblank, hpointers⟩ := hinv
  cases hmove with
  | quiet claims news hkept hnews =>
    refine ⟨hregistered, hcodes, hblank, ?_⟩
    intro request task htask
    rcases hkept request task htask with ⟨-, hlt⟩ | ⟨old, hold, hpointer, -⟩
    · exact hlt
    · have hlt := hpointers request old hold
      rwa [hpointer] at hlt
  | enrolled enrollment response hnew hempty =>
    refine ⟨?_, ?_, ?_, ?_⟩
    · intro code pointer hlookup
      by_cases heq : code = enrollment.code
      · rw [heq, AList.lookup_insert] at hlookup
        cases hlookup
        exact ⟨enrollment, by simp, heq.symm⟩
      · rw [AList.lookup_insert_ne heq] at hlookup
        obtain ⟨found, hfound, hcode⟩ := hregistered code pointer hlookup
        have hlt := (List.getElem?_eq_some_iff.mp hfound).1
        exact ⟨found, by rw [List.getElem?_append_left hlt, hfound], hcode⟩
    · intro i j left right hleft hright hsame
      rcases getElem?_append_new hleft with ⟨hi, hl⟩ | hl
      · rcases getElem?_append_new hright with ⟨hj, -⟩ | hr
        · rw [hi, hj]
        · rw [hl] at hsame
          exact absurd hsame.symm (hnew right (List.mem_of_getElem? hr)).1
      · rcases getElem?_append_new hright with ⟨hj, hr⟩ | hr
        · rw [hr] at hsame
          exact absurd hsame (hnew left (List.mem_of_getElem? hl)).1
        · exact hcodes i j left right hl hr hsame
    · intro found hfound hclaimed
      rcases List.mem_append.mp hfound with hold | hlast
      · exact hblank found hold hclaimed
      · rw [List.mem_singleton.mp hlast]
        exact hempty.2
    · intro request task htask
      have hlt := hpointers request task htask
      simp only [List.length_append, List.length_singleton]
      omega
  | disclosed code authorization now pointer enrollment hlookup hrecord hnow hbearer hclaimed =>
    refine ⟨?_, hcodes, hblank, hpointers⟩
    intro other found hother
    exact hregistered other found (lookup_of_erase hother).2
  | account request task account enrollment htask hnone hrecord hnew =>
    refine ⟨hregistered, hcodes, hblank, ?_⟩
    intro other found hfound
    by_cases heq : other = request
    · rw [heq, State.advance, AList.lookup_insert] at hfound
      cases hfound
      exact hpointers request task htask
    · rw [State.advance, AList.lookup_insert_ne heq] at hfound
      exact hpointers other found hfound
  | finished request task account enrollment hevent htask hstage hrecord =>
    have hlt := hpointers request task htask
    refine ⟨?_, ?_, ?_, ?_⟩
    · intro code pointer hlookup
      obtain ⟨found, hfound, hcode⟩ := hregistered code pointer hlookup
      by_cases heq : pointer = task.pointer
      · rw [heq, hrecord] at hfound
        cases hfound
        refine ⟨enrollment.write account, ?_, hcode⟩
        rw [heq, finishClaim, List.getElem?_set_self hlt]
      · refine ⟨found, ?_, hcode⟩
        rw [finishClaim, List.getElem?_set_ne (fun h => heq h.symm), hfound]
    · intro i j left right hleft hright hsame
      have hbefore : ∀ {k : ℕ} {after : Enrollment},
          (finishClaim s request task account enrollment).records[k]? = some after →
          ∃ before, s.records[k]? = some before ∧ before.code = after.code := by
        intro k after hafter
        rcases getElem?_finishClaim hafter with ⟨hk, rfl⟩ | ⟨-, hold⟩
        · exact ⟨enrollment, by rw [hk, hrecord], rfl⟩
        · exact ⟨after, hold, rfl⟩
      obtain ⟨left', hleft', hlc⟩ := hbefore hleft
      obtain ⟨right', hright', hrc⟩ := hbefore hright
      exact hcodes i j left' right' hleft' hright' (by rw [hlc, hrc, hsame])
    · intro found hfound hclaimed
      obtain ⟨i, hi⟩ := List.getElem?_of_mem hfound
      rcases getElem?_finishClaim hi with ⟨-, rfl⟩ | ⟨-, hold⟩
      · cases hclaimed
      · exact hblank found (List.mem_of_getElem? hold) hclaimed
    · intro other found hfound
      rw [finishClaim, List.length_set]
      exact hpointers other found (lookup_of_erase hfound).2

/-- A claim that is about to write has an account. -/
theorem account_of_finishing {task : ClaimTask} {account : Account}
    (h : task.stage = .finishing account) : task.stage.account = some account := by
  rw [h]
  rfl

/-- A record stays, with its code, its token and its end, and stays claimed. -/
theorem record_of_moves {i : ℕ} {enrollment : Enrollment} (hmove : Moves s event s')
    (hrecord : s.records[i]? = some enrollment) :
    ∃ after, s'.records[i]? = some after ∧ after.code = enrollment.code ∧
      after.pollToken = enrollment.pollToken ∧ after.expires = enrollment.expires ∧
      (enrollment.claimed = true → after.claimed = true) := by
  have hlt := (List.getElem?_eq_some_iff.mp hrecord).1
  cases hmove with
  | quiet claims news hkept hnews => exact ⟨enrollment, hrecord, rfl, rfl, rfl, id⟩
  | enrolled added response hnew hempty =>
    exact ⟨enrollment, by rw [List.getElem?_append_left hlt, hrecord], rfl, rfl, rfl, id⟩
  | disclosed code authorization now pointer found hlookup hfound hnow hbearer hclaimed =>
    exact ⟨enrollment, hrecord, rfl, rfl, rfl, id⟩
  | account request task account found htask hnone hfound hnew =>
    exact ⟨enrollment, hrecord, rfl, rfl, rfl, id⟩
  | finished request task account found hevent htask hstage hfound =>
    by_cases heq : i = task.pointer
    · rw [heq, hfound] at hrecord
      cases hrecord
      refine ⟨enrollment.write account, ?_, rfl, rfl, rfl, fun _ => rfl⟩
      rw [heq] at hlt ⊢
      rw [finishClaim, List.getElem?_set_self hlt]
    · refine ⟨enrollment, ?_, rfl, rfl, rfl, id⟩
      rw [finishClaim, List.getElem?_set_ne (fun h => heq h.symm), hrecord]

/-- The account of a running claim was there before, or is the one just created. -/
theorem task_of_moves {request : ℕ} {task : ClaimTask} {account : Account}
    (hmove : Moves s event s')
    (htask : s'.claims.lookup request = some task) (haccount : task.stage.account = some account) :
    ∃ old, s.claims.lookup request = some old ∧ old.pointer = task.pointer ∧
      (old.stage.account = some account ∨
        ∃ enrollment, s.records[task.pointer]? = some enrollment ∧
          s'.created = (enrollment.code, account) :: s.created ∧ s'.answers = s.answers ∧
          ∀ other ∈ s.created, other.2.token ≠ account.token) := by
  cases hmove with
  | quiet claims news hkept hnews =>
    rcases hkept request task htask with ⟨hnone, -⟩ | ⟨old, hold, hpointer, hsame⟩
    · rw [hnone] at haccount
      cases haccount
    · exact ⟨old, hold, hpointer, Or.inl (hsame.trans haccount)⟩
  | enrolled added response hnew hempty => exact ⟨task, htask, rfl, Or.inl haccount⟩
  | disclosed code authorization now pointer found hlookup hfound hnow hbearer hclaimed =>
    exact ⟨task, htask, rfl, Or.inl haccount⟩
  | account other old created found hold hnone hfound hnew =>
    by_cases heq : request = other
    · rw [heq, State.advance, AList.lookup_insert] at htask
      cases htask
      cases haccount
      exact ⟨old, heq ▸ hold, rfl, Or.inr ⟨found, hfound, rfl, rfl, hnew⟩⟩
    · rw [State.advance, AList.lookup_insert_ne heq] at htask
      exact ⟨task, htask, rfl, Or.inl haccount⟩
  | finished other old created found hevent hold hstage hfound =>
    exact ⟨task, (lookup_of_erase htask).2, rfl, Or.inl haccount⟩

/-- A reported claim was reported before, or has just been written. -/
theorem claimed_of_moves {code : String} {account : Account} {principal : ServicePrincipal}
    (hmove : Moves s event s') (h : Answer.claimed code account principal ∈ s'.answers) :
    Answer.claimed code account principal ∈ s.answers ∨
      ∃ request task enrollment, s.claims.lookup request = some task ∧
        task.stage.account = some account ∧ s.records[task.pointer]? = some enrollment ∧
        enrollment.code = code ∧ s' = finishClaim s request task account enrollment := by
  cases hmove with
  | quiet claims news hkept hnews =>
    rcases List.mem_append.mp h with hmem | hmem
    · cases (hnews _ hmem).1
    · exact Or.inl hmem
  | enrolled added response hnew hempty => exact Or.inl ((List.mem_cons.mp h).resolve_left nofun)
  | disclosed code authorization now pointer found hlookup hfound hnow hbearer hclaimed =>
    exact Or.inl ((List.mem_cons.mp h).resolve_left nofun)
  | account request task created found htask hnone hfound hnew => exact Or.inl h
  | finished request task created found hevent htask hstage hfound =>
    rcases List.mem_cons.mp h with heq | hmem
    · cases heq
      exact Or.inr ⟨request, task, found, htask, account_of_finishing hstage, hfound, rfl, rfl⟩
    · exact Or.inl hmem

/-- What was answered and created stays so. -/
theorem history_of_moves (hmove : Moves s event s') :
    (∀ answer ∈ s.answers, answer ∈ s'.answers) ∧ ∀ item ∈ s.created, item ∈ s'.created := by
  cases hmove with
  | quiet claims news hkept hnews =>
    exact ⟨fun answer h => List.mem_append_right news h, fun item h => h⟩
  | enrolled added response hnew hempty =>
    exact ⟨fun answer h => List.mem_cons_of_mem _ h, fun item h => h⟩
  | disclosed code authorization now pointer found hlookup hfound hnow hbearer hclaimed =>
    exact ⟨fun answer h => List.mem_cons_of_mem _ h, fun item h => h⟩
  | account request task created found htask hnone hfound hnew =>
    exact ⟨fun answer h => h, fun item h => List.mem_cons_of_mem _ h⟩
  | finished request task created found hevent htask hstage hfound =>
    exact ⟨fun answer h => List.mem_cons_of_mem _ h, fun item h => h⟩

/-- Accounts belong to one claim each. -/
structure AccountInv (s : State) : Prop where
  /-- The account of a running claim was created for the code of its record. -/
  running : ∀ request task account, s.claims.lookup request = some task →
    task.stage.account = some account →
    ∃ enrollment, s.records[task.pointer]? = some enrollment ∧
      (enrollment.code, account) ∈ s.created
  /-- The account of a reported claim was created for its code. -/
  reported : ∀ code account principal, Answer.claimed code account principal ∈ s.answers →
    (code, account) ∈ s.created
  /-- Two running claims have accounts with two secrets. -/
  apart : ∀ first left account second right other, s.claims.lookup first = some left →
    left.stage.account = some account → s.claims.lookup second = some right →
    right.stage.account = some other → account.token = other.token → first = second
  /-- The secret of a running claim is not the one of a reported claim. -/
  unreported : ∀ request task account, s.claims.lookup request = some task →
    task.stage.account = some account → ∀ code other principal,
    Answer.claimed code other principal ∈ s.answers → other.token ≠ account.token

/-- Two claims stay apart: a new account has a new secret. -/
theorem apart_of_moves (hinv : AccountInv s) (hmove : Moves s event s') {first second : ℕ}
    {left right : ClaimTask} {account other : Account}
    (hleft : s'.claims.lookup first = some left) (hla : left.stage.account = some account)
    (hright : s'.claims.lookup second = some right) (hra : right.stage.account = some other)
    (htoken : account.token = other.token) : first = second := by
  obtain ⟨oldLeft, hol, -, hlc⟩ := task_of_moves hmove hleft hla
  obtain ⟨oldRight, hor, -, hrc⟩ := task_of_moves hmove hright hra
  cases hmove with
  | account request task created found htask hnone hfound hnew =>
    have hold : ∀ {name : ℕ} {running : ClaimTask} {held : Account}, name ≠ request →
        (s.advance request task (.updating created)).claims.lookup name = some running →
        running.stage.account = some held → held.token ≠ created.token := by
      intro name running held hname hlookup hheld
      rw [State.advance, AList.lookup_insert_ne hname] at hlookup
      obtain ⟨enrollment, -, hcreated⟩ := hinv.running name running held hlookup hheld
      exact hnew _ hcreated
    have hself : ∀ {running : ClaimTask} {held : Account},
        (s.advance request task (.updating created)).claims.lookup request = some running →
        running.stage.account = some held → held = created := by
      intro running held hlookup hheld
      rw [State.advance, AList.lookup_insert] at hlookup
      cases hlookup
      cases hheld
      rfl
    by_cases hf : first = request
    · by_cases hs : second = request
      · rw [hf, hs]
      · rw [hf] at hleft
        rw [hself hleft hla] at htoken
        exact absurd htoken.symm (hold hs hright hra)
    · by_cases hs : second = request
      · rw [hs] at hright
        rw [hself hright hra] at htoken
        exact absurd htoken (hold hf hleft hla)
      · rw [State.advance, AList.lookup_insert_ne hf] at hleft
        rw [State.advance, AList.lookup_insert_ne hs] at hright
        exact hinv.apart first left account second right other hleft hla hright hra htoken
  | quiet claims news hkept hnews =>
    have hl := hlc.resolve_right (fun ⟨_, _, hcreated, _⟩ => List.cons_ne_self _ _ hcreated.symm)
    have hr := hrc.resolve_right (fun ⟨_, _, hcreated, _⟩ => List.cons_ne_self _ _ hcreated.symm)
    exact hinv.apart first oldLeft account second oldRight other hol hl hor hr htoken
  | enrolled added response hnew hempty =>
    exact hinv.apart first left account second right other hleft hla hright hra htoken
  | disclosed code authorization now pointer found hlookup hfound hnow hbearer hclaimed =>
    exact hinv.apart first left account second right other hleft hla hright hra htoken
  | finished request task created found hevent htask hstage hfound =>
    exact hinv.apart first left account second right other (lookup_of_erase hleft).2 hla
      (lookup_of_erase hright).2 hra htoken

/-- A move keeps accounts with their claims. -/
theorem accountInv_moves (hinv : AccountInv s) (hmove : Moves s event s') : AccountInv s' := by
  have hhistory := history_of_moves hmove
  refine ⟨?_, ?_, ?_, ?_⟩
  · intro request task account htask haccount
    obtain ⟨old, hold, hpointer, hcases⟩ := task_of_moves hmove htask haccount
    rcases hcases with hsame | ⟨enrollment, hrecord, hcreated, -, -⟩
    · obtain ⟨enrollment, hrecord, hmem⟩ := hinv.running request old account hold hsame
      rw [hpointer] at hrecord
      obtain ⟨after, hafter, hcode, -⟩ := record_of_moves hmove hrecord
      exact ⟨after, hafter, hcode ▸ hhistory.2 _ hmem⟩
    · obtain ⟨after, hafter, hcode, -⟩ := record_of_moves hmove hrecord
      refine ⟨after, hafter, ?_⟩
      rw [hcode, hcreated]
      exact List.mem_cons_self
  · intro code account principal hclaimed
    rcases claimed_of_moves hmove hclaimed with hold | ⟨request, task, enrollment, htask, haccount,
      hrecord, hcode, -⟩
    · exact hhistory.2 _ (hinv.reported code account principal hold)
    · obtain ⟨found, hfound, hmem⟩ := hinv.running request task account htask haccount
      rw [hrecord] at hfound
      cases hfound
      exact hhistory.2 _ (hcode ▸ hmem)
  · intro first left account second right other hleft hla hright hra htoken
    exact apart_of_moves hinv hmove hleft hla hright hra htoken
  · intro request task account htask haccount code other principal hclaimed
    obtain ⟨old, hold, -, hcases⟩ := task_of_moves hmove htask haccount
    rcases hcases with hsame | ⟨enrollment, -, -, hanswers, hnew⟩
    · rcases claimed_of_moves hmove hclaimed with hbefore | ⟨writer, written, enrollment, hwritten,
        hwaccount, -, -, rfl⟩
      · exact hinv.unreported request old account hold hsame code other principal hbefore
      · intro htoken
        have heq := hinv.apart request old account writer written other hold hsame hwritten
          hwaccount htoken.symm
        exact (lookup_of_erase htask).1 heq
    · rw [hanswers] at hclaimed
      exact hnew _ (hinv.reported code other principal hclaimed)

/-- A claimed record was claimed before, or has just been written. -/
theorem claimed_record_of_moves {i : ℕ} {enrollment : Enrollment} (hmove : Moves s event s')
    (hrecord : s'.records[i]? = some enrollment) (hclaimed : enrollment.claimed = true) :
    s.records[i]? = some enrollment ∨
      ∃ request task account before, s.claims.lookup request = some task ∧
        task.stage.account = some account ∧ s.records[task.pointer]? = some before ∧
        i = task.pointer ∧ enrollment = before.write account ∧
        s' = finishClaim s request task account before := by
  cases hmove with
  | quiet claims news hkept hnews => exact Or.inl hrecord
  | enrolled added response hnew hempty =>
    rcases getElem?_append_new hrecord with ⟨-, hadded⟩ | hold
    · rw [hadded, hempty.1] at hclaimed
      cases hclaimed
    · exact Or.inl hold
  | disclosed code authorization now pointer found hlookup hfound hnow hbearer hc =>
    exact Or.inl hrecord
  | account request task account found htask hnone hfound hnew => exact Or.inl hrecord
  | finished request task account found hevent htask hstage hfound =>
    rcases getElem?_finishClaim hrecord with ⟨hi, hwritten⟩ | ⟨-, hold⟩
    · exact Or.inr ⟨request, task, account, found, htask, account_of_finishing hstage, hfound, hi,
        hwritten, rfl⟩
    · exact Or.inl hold

/-- Claimed records and reported claims belong together. -/
structure ClaimInv (s : State) : Prop where
  /-- A claimed record holds what some reported claim of its code created. -/
  source : ∀ (i : ℕ) (enrollment : Enrollment), s.records[i]? = some enrollment →
    enrollment.claimed = true →
    ∃ account principal, Answer.claimed enrollment.code account principal ∈ s.answers ∧
      account.username = enrollment.username ∧ account.token = enrollment.secret
  /-- The record of a reported claim is claimed. -/
  marked : ∀ code account principal, Answer.claimed code account principal ∈ s.answers →
    ∃ (i : ℕ) (enrollment : Enrollment), s.records[i]? = some enrollment ∧
      enrollment.code = code ∧ enrollment.claimed = true

/-- A move keeps claimed records and reported claims together. -/
theorem claimInv_moves (hinv : ClaimInv s) (hmove : Moves s event s') : ClaimInv s' := by
  have hhistory := history_of_moves hmove
  refine ⟨?_, ?_⟩
  · intro i enrollment hrecord hclaimed
    rcases claimed_record_of_moves hmove hrecord hclaimed with hold | ⟨request, task, account,
      before, -, -, -, -, rfl, rfl⟩
    · obtain ⟨account, principal, hmem, hname, htoken⟩ := hinv.source i enrollment hold hclaimed
      exact ⟨account, principal, hhistory.1 _ hmem, hname, htoken⟩
    · exact ⟨account, _, List.mem_cons_self, rfl, rfl⟩
  · intro code account principal hclaimed
    rcases claimed_of_moves hmove hclaimed with hold | ⟨request, task, enrollment, htask, haccount,
      hrecord, hcode, rfl⟩
    · obtain ⟨i, enrollment, hrecord, hcode, hmarked⟩ := hinv.marked code account principal hold
      obtain ⟨after, hafter, hsame, -, -, hstays⟩ := record_of_moves hmove hrecord
      exact ⟨i, after, hafter, hsame.trans hcode, hstays hmarked⟩
    · have hlt := (List.getElem?_eq_some_iff.mp hrecord).1
      refine ⟨task.pointer, enrollment.write account, ?_, hcode, rfl⟩
      rw [finishClaim, List.getElem?_set_self hlt]

/-- The answer that hands the credentials of a code to a device. -/
def handover (code authorization : String) (now : ℤ) (username secret : String) : Answer :=
  .poll code authorization now (.ok (.claimed username secret))

/-- A handed secret was handed before, or comes from a registered record that
the poll has just removed. -/
theorem handover_of_moves {code authorization : String} {now : ℤ} {username secret : String}
    (hmove : Moves s event s') (h : handover code authorization now username secret ∈ s'.answers) :
    handover code authorization now username secret ∈ s.answers ∨
      ∃ pointer enrollment, s.enrollments.lookup code = some pointer ∧
        s.records[pointer]? = some enrollment ∧ now ≤ enrollment.expires ∧
        authorization = "Bearer " ++ enrollment.pollToken ∧ enrollment.claimed = true ∧
        username = enrollment.username ∧ secret = enrollment.secret ∧
        s' = { s with
          enrollments := s.enrollments.erase code
          answers := handover code authorization now username secret :: s.answers } := by
  cases hmove with
  | quiet claims news hkept hnews =>
    rcases List.mem_append.mp h with hmem | hmem
    · rcases (hnews _ hmem).2 with hnone | ⟨enrollments, hlist, -⟩
      · cases hnone
      · cases hlist
    · exact Or.inl hmem
  | enrolled added response hnew hempty => exact Or.inl ((List.mem_cons.mp h).resolve_left nofun)
  | disclosed code' authorization' now' pointer found hlookup hfound hnow hbearer hclaimed =>
    rcases List.mem_cons.mp h with heq | hmem
    · cases heq
      exact Or.inr ⟨pointer, found, hlookup, hfound, hnow, hbearer, hclaimed, rfl, rfl, rfl⟩
    · exact Or.inl hmem
  | account request task account found htask hnone hfound hnew => exact Or.inl h
  | finished request task account found hevent htask hstage hfound =>
    exact Or.inl ((List.mem_cons.mp h).resolve_left nofun)

/-- A secret is handed out once, to the device of its enrollment. -/
structure DisclosureInv (s : State) : Prop where
  /-- Two claimed records hold two secrets. -/
  secrets : ∀ (i j : ℕ) (left right : Enrollment), s.records[i]? = some left →
    s.records[j]? = some right → left.claimed = true → right.claimed = true →
    left.secret = right.secret → i = j
  /-- Credentials are handed to the holder of the token of the code, before its
  end, and a reported claim of the code created them. -/
  handed : ∀ code authorization now username secret,
    handover code authorization now username secret ∈ s.answers →
    (∃ (i : ℕ) (enrollment : Enrollment), s.records[i]? = some enrollment ∧
      enrollment.code = code ∧ authorization = "Bearer " ++ enrollment.pollToken ∧
      now ≤ enrollment.expires) ∧
    ∃ account principal, Answer.claimed code account principal ∈ s.answers ∧
      account.username = username ∧ account.token = secret
  /-- A record with a secret that was handed out is not registered. -/
  gone : ∀ code authorization now username secret,
    handover code authorization now username secret ∈ s.answers →
    ∀ (i : ℕ) (enrollment : Enrollment), s.records[i]? = some enrollment →
    enrollment.claimed = true → enrollment.secret = secret →
    ∀ other, s.enrollments.lookup other ≠ some i
  /-- Only such answers contain a secret. -/
  only : ∀ answer ∈ s.answers, ∀ secret ∈ answer.secrets, ∃ code authorization now username,
    answer = handover code authorization now username secret
  /-- No secret occurs twice in the answers. -/
  once : ∀ secret, (s.answers.flatMap Answer.secrets).count secret ≤ 1

/-- A listing of unclaimed records contains no secret. -/
theorem secrets_eq_nil_of_harmless {answer : Answer} (hinv : RegistryInv s)
    (h : Harmless s answer) : answer.secrets = [] := by
  rcases h.2 with hnone | ⟨enrollments, rfl, hlisted⟩
  · exact hnone
  · rw [Answer.secrets, List.flatMap_eq_nil_iff]
    intro listed hmem
    obtain ⟨enrollment, hrecord, hclaimed, rfl⟩ := hlisted listed hmem
    have hblank := (hinv.blank enrollment hrecord hclaimed).2
    rw [Enrollment.listed, hblank]
    rfl

/-- A registered pointer was registered before, or is the new one. -/
theorem lookup_of_moves {code : String} {pointer : ℕ} (hmove : Moves s event s')
    (h : s'.enrollments.lookup code = some pointer) :
    s.enrollments.lookup code = some pointer ∨ pointer = s.records.length := by
  cases hmove with
  | quiet claims news hkept hnews => exact Or.inl h
  | enrolled added response hnew hempty =>
    by_cases heq : code = added.code
    · rw [heq, AList.lookup_insert] at h
      exact Or.inr (Option.some.inj h).symm
    · rw [AList.lookup_insert_ne heq] at h
      exact Or.inl h
  | disclosed other authorization now found enrollment hlookup hfound hnow hbearer hclaimed =>
    exact Or.inl (lookup_of_erase h).2
  | account request task account found htask hnone hfound hnew => exact Or.inl h
  | finished request task account found hevent htask hstage hfound => exact Or.inl h

/-- No two claimed records hold one secret after a move. -/
theorem secrets_of_moves (hacc : AccountInv s) (hclaim : ClaimInv s) (hinv : DisclosureInv s)
    (hmove : Moves s event s') {i j : ℕ} {left right : Enrollment}
    (hleft : s'.records[i]? = some left) (hright : s'.records[j]? = some right)
    (hl : left.claimed = true) (hr : right.claimed = true) (hsame : left.secret = right.secret) :
    i = j := by
  cases hmove with
  | quiet claims news hkept hnews => exact hinv.secrets i j left right hleft hright hl hr hsame
  | enrolled added response hnew hempty =>
    have hold : ∀ {k : ℕ} {found : Enrollment}, (s.records ++ [added])[k]? = some found →
        found.claimed = true → s.records[k]? = some found := by
      intro k found hfound hclaimed
      refine (getElem?_append_new hfound).resolve_left ?_
      rintro ⟨-, rfl⟩
      rw [hempty.1] at hclaimed
      cases hclaimed
    exact hinv.secrets i j left right (hold hleft hl) (hold hright hr) hl hr hsame
  | disclosed code authorization now pointer found hlookup hfound hnow hbearer hclaimed =>
    exact hinv.secrets i j left right hleft hright hl hr hsame
  | account request task account found htask hnone hfound hnew =>
    exact hinv.secrets i j left right hleft hright hl hr hsame
  | finished request task account found hevent htask hstage hfound =>
    have hother : ∀ {k : ℕ} {enrollment : Enrollment}, s.records[k]? = some enrollment →
        enrollment.claimed = true → enrollment.secret ≠ account.token := by
      intro k enrollment hrecord hclaimed hsecret
      obtain ⟨source, principal, hmem, -, htoken⟩ := hclaim.source k enrollment hrecord hclaimed
      exact hacc.unreported request task account htask (account_of_finishing hstage) _ _ _ hmem
        (htoken.trans hsecret)
    rcases getElem?_finishClaim hleft with ⟨hi, hlw⟩ | ⟨-, hlo⟩
    · rcases getElem?_finishClaim hright with ⟨hj, -⟩ | ⟨-, hro⟩
      · rw [hi, hj]
      · rw [hlw] at hsame
        exact absurd hsame.symm (hother hro hr)
    · rcases getElem?_finishClaim hright with ⟨-, hrw⟩ | ⟨-, hro⟩
      · rw [hrw] at hsame
        exact absurd hsame (hother hlo hl)
      · exact hinv.secrets i j left right hlo hro hl hr hsame

/-- A secret that was handed out is not in a registered record after a move. -/
theorem gone_of_moves (hreg : RegistryInv s) (hacc : AccountInv s) (hinv : DisclosureInv s)
    (hmove : Moves s event s') {code authorization : String} {now : ℤ} {username secret : String}
    (hhanded : handover code authorization now username secret ∈ s'.answers) {i : ℕ}
    {enrollment : Enrollment} (hrecord : s'.records[i]? = some enrollment)
    (hclaimed : enrollment.claimed = true) (hsecret : enrollment.secret = secret) (other : String) :
    s'.enrollments.lookup other ≠ some i := by
  intro hlookup
  rcases handover_of_moves hmove hhanded with hold | ⟨pointer, found, hfound, hfrecord, -, -,
    hfclaimed, -, hfsecret, rfl⟩
  · rcases claimed_record_of_moves hmove hrecord hclaimed with hbefore | ⟨request, task, account,
      before, htask, haccount, -, -, hwritten, -⟩
    · have hlt := (List.getElem?_eq_some_iff.mp hbefore).1
      rcases lookup_of_moves hmove hlookup with hlold | hlnew
      · exact hinv.gone _ _ _ _ _ hold i enrollment hbefore hclaimed hsecret other hlold
      · omega
    · obtain ⟨source, principal, hmem, -, htoken⟩ := (hinv.handed _ _ _ _ _ hold).2
      rw [hwritten] at hsecret
      exact hacc.unreported request task account htask haccount _ _ _ hmem
        (htoken.trans hsecret.symm)
  · have hsame : i = pointer :=
      hinv.secrets i pointer enrollment found hrecord hfrecord hclaimed hfclaimed
        (hsecret.trans hfsecret)
    obtain ⟨hne, hbefore⟩ := lookup_of_erase hlookup
    rw [hsame] at hbefore
    obtain ⟨first, hfirst, hfc⟩ := hreg.registered other pointer hbefore
    obtain ⟨second, hsecond, hsc⟩ := hreg.registered code pointer hfound
    rw [hfirst] at hsecond
    cases hsecond
    exact hne (hfc.symm.trans hsc)

/-- The answers of a move contain no secret, but for a handover. -/
theorem answers_of_moves (hreg : RegistryInv s) (hmove : Moves s event s') :
    (∃ news, s'.answers = news ++ s.answers ∧ ∀ answer ∈ news, answer.secrets = []) ∨
      ∃ code authorization now pointer enrollment, s.enrollments.lookup code = some pointer ∧
        s.records[pointer]? = some enrollment ∧ enrollment.claimed = true ∧
        s'.answers = handover code authorization now enrollment.username enrollment.secret ::
          s.answers := by
  cases hmove with
  | quiet claims news hkept hnews =>
    exact Or.inl ⟨news, rfl, fun answer h => secrets_eq_nil_of_harmless hreg (hnews answer h)⟩
  | enrolled added response hnew hempty => exact Or.inl ⟨[_], rfl, by simp [Answer.secrets]⟩
  | disclosed code authorization now pointer found hlookup hfound hnow hbearer hclaimed =>
    exact Or.inr ⟨code, authorization, now, pointer, found, hlookup, hfound, hclaimed, rfl⟩
  | account request task account found htask hnone hfound hnew =>
    exact Or.inl ⟨[], rfl, by simp⟩
  | finished request task account found hevent htask hstage hfound =>
    exact Or.inl ⟨[_], rfl, by simp [Answer.secrets]⟩

/-- A move hands out a secret at most once. -/
theorem disclosureInv_moves (hreg : RegistryInv s) (hacc : AccountInv s) (hclaim : ClaimInv s)
    (hinv : DisclosureInv s) (hmove : Moves s event s') : DisclosureInv s' := by
  have hhistory := history_of_moves hmove
  refine ⟨?_, ?_, ?_, ?_, ?_⟩
  · intro i j left right hleft hright hl hr hsame
    exact secrets_of_moves hacc hclaim hinv hmove hleft hright hl hr hsame
  · intro code authorization now username secret hhanded
    rcases handover_of_moves hmove hhanded with hold | ⟨pointer, enrollment, hlookup, hrecord, hnow,
      hbearer, hclaimed, husername, hsecret, -⟩
    · obtain ⟨⟨i, enrollment, hrecord, hcode, hbearer, hnow⟩, account, principal, hmem, hname,
        htoken⟩ := hinv.handed _ _ _ _ _ hold
      obtain ⟨after, hafter, hac, hat, hae, -⟩ := record_of_moves hmove hrecord
      exact ⟨⟨i, after, hafter, hac.trans hcode, hat ▸ hbearer, hae ▸ hnow⟩, account, principal,
        hhistory.1 _ hmem, hname, htoken⟩
    · obtain ⟨found, hfound, hcode⟩ := hreg.registered code pointer hlookup
      rw [hrecord] at hfound
      cases hfound
      obtain ⟨account, principal, hmem, hname, htoken⟩ :=
        hclaim.source pointer enrollment hrecord hclaimed
      obtain ⟨after, hafter, hac, hat, hae, -⟩ := record_of_moves hmove hrecord
      refine ⟨⟨pointer, after, hafter, hac.trans hcode, hat ▸ hbearer, hae ▸ hnow⟩, account,
        principal, ?_, hname.trans husername.symm, htoken.trans hsecret.symm⟩
      exact hhistory.1 _ (hcode ▸ hmem)
  · intro code authorization now username secret hhanded i enrollment hrecord hclaimed hsecret other
    exact gone_of_moves hreg hacc hinv hmove hhanded hrecord hclaimed hsecret other
  · intro answer hanswer secret hsecret
    rcases answers_of_moves hreg hmove with ⟨news, hnews, hnone⟩ | ⟨code, authorization, now,
      pointer, enrollment, -, -, -, hnews⟩
    · rw [hnews] at hanswer
      rcases List.mem_append.mp hanswer with hnew | hold
      · rw [hnone answer hnew] at hsecret
        cases hsecret
      · exact hinv.only answer hold secret hsecret
    · rw [hnews] at hanswer
      rcases List.mem_cons.mp hanswer with hnew | hold
      · rw [hnew, handover, Answer.secrets, List.mem_singleton] at hsecret
        exact ⟨code, authorization, now, enrollment.username, hsecret ▸ hnew⟩
      · exact hinv.only answer hold secret hsecret
  · intro secret
    rcases answers_of_moves hreg hmove with ⟨news, hnews, hnone⟩ | ⟨code, authorization, now,
      pointer, enrollment, hlookup, hrecord, hclaimed, hnews⟩
    · rw [hnews, List.flatMap_append, List.flatMap_eq_nil_iff.mpr hnone, List.nil_append]
      exact hinv.once secret
    · rw [hnews, List.flatMap_cons, List.count_append, handover, Answer.secrets,
        List.count_singleton]
      have hbefore := hinv.once secret
      split
      · rename_i heq
        have hnot : secret ∉ s.answers.flatMap Answer.secrets := by
          intro hmem
          obtain ⟨answer, hanswer, hcontained⟩ := List.mem_flatMap.mp hmem
          obtain ⟨c, a, n, u, rfl⟩ := hinv.only answer hanswer secret hcontained
          exact hinv.gone c a n u secret hanswer pointer enrollment hrecord hclaimed
            (beq_iff_eq.mp heq) code hlookup
        rw [List.count_eq_zero.mpr hnot]
      · omega

/-- What every reachable registry keeps. -/
structure Consistent (s : State) : Prop where
  /-- Codes, records and pointers fit together. -/
  registry : RegistryInv s
  /-- Accounts belong to one claim each. -/
  accounts : AccountInv s
  /-- Claimed records and reported claims belong together. -/
  claims : ClaimInv s
  /-- Secrets are handed out once. -/
  disclosure : DisclosureInv s

/-- The registry at the start is consistent. -/
theorem consistent_initial : Consistent State.initial := by
  have hrecords : ∀ {i : ℕ} {enrollment : Enrollment} {P : Prop},
      State.initial.records[i]? = some enrollment → P := by
    intro i enrollment P h
    cases h
  have hclaims : ∀ {request : ℕ} {task : ClaimTask} {P : Prop},
      State.initial.claims.lookup request = some task → P := by
    intro request task P h
    cases h
  have hanswers : ∀ {answer : Answer} {P : Prop}, answer ∈ State.initial.answers → P := by
    intro answer P h
    cases h
  refine ⟨⟨?_, ?_, ?_, ?_⟩, ⟨?_, ?_, ?_, ?_⟩, ⟨?_, ?_⟩, ⟨?_, ?_, ?_, ?_, ?_⟩⟩
  · intro code pointer hregistered
    cases hregistered
  · intro i j left right hleft
    exact hrecords hleft
  · intro enrollment hrecord
    cases hrecord
  · intro request task htask
    exact hclaims htask
  · intro request task account htask
    exact hclaims htask
  · intro code account principal hreported
    exact hanswers hreported
  · intro first left account second right other hleft
    exact hclaims hleft
  · intro request task account htask
    exact hclaims htask
  · intro i enrollment hrecord
    exact hrecords hrecord
  · intro code account principal hreported
    exact hanswers hreported
  · intro i j left right hleft
    exact hrecords hleft
  · intro code authorization now username secret hhanded
    exact hanswers hhanded
  · intro code authorization now username secret hhanded
    exact hanswers hhanded
  · intro answer hmem
    exact hanswers hmem
  · intro secret
    exact Nat.zero_le 1

/-- A move keeps the registry consistent. -/
theorem consistent_moves (h : Consistent s) (hmove : Moves s event s') : Consistent s' where
  registry := registryInv_moves h.registry hmove
  accounts := accountInv_moves h.accounts hmove
  claims := claimInv_moves h.claims hmove
  disclosure := disclosureInv_moves h.registry h.accounts h.claims h.disclosure hmove

section

variable {table : LowerTable} {idna : Idna} {toUpper : String → String}
  {publicURL allowedRouteSuffix : String}

/-- Runs without collisions keep the registry consistent. -/
theorem consistent_of_reachable
    (hr : Reachable (freshStep table idna toUpper publicURL allowedRouteSuffix) State.initial s) :
    Consistent s := by
  refine hr.invariant ?_ consistent_initial
  intro before event after hbefore hstep
  exact consistent_moves hbefore (freshStep_moves hstep)

/-- The answer reports a successful claim of the code. -/
def reports (code : String) (answer : Answer) : Bool := answer.claimedCode == some code

/-- At most one claim of a code was answered with success, and the credentials
handed to its device are those that this claim created. -/
def ClaimedOnce (s : State) : Prop :=
  (∀ code, s.answers.countP (reports code) ≤ 1) ∧
    ∀ code authorization now username secret,
      Answer.poll code authorization now (.ok (.claimed username secret)) ∈ s.answers →
      ∃ account principal, Answer.claimed code account principal ∈ s.answers ∧
        account.username = username ∧ account.token = secret

/-- A claim is about to write into a record that is claimed already. -/
def Overwrites (s : State) : Event → Prop
  | .finish request => ∃ task account enrollment, s.claims.lookup request = some task ∧
      task.stage = .finishing account ∧ s.records[task.pointer]? = some enrollment ∧
      enrollment.claimed = true
  | _ => False

/-- Only a write reports a claim. -/
theorem reports_of_moves (hmove : Moves s event s') :
    (∀ code, s'.answers.countP (reports code) = s.answers.countP (reports code)) ∨
      ∃ request task account enrollment, event = .finish request ∧
        s.claims.lookup request = some task ∧ task.stage = .finishing account ∧
        s.records[task.pointer]? = some enrollment ∧
        s' = finishClaim s request task account enrollment := by
  cases hmove with
  | quiet claims news hkept hnews =>
    left
    intro code
    have hnone : news.countP (reports code) = 0 := by
      rw [List.countP_eq_zero]
      intro answer hanswer
      rw [reports, (hnews answer hanswer).1]
      exact Bool.false_ne_true
    rw [List.countP_append, hnone, Nat.zero_add]
  | enrolled added response hnew hempty =>
    exact Or.inl fun code => List.countP_cons_of_neg Bool.false_ne_true
  | disclosed code authorization now pointer found hlookup hfound hnow hbearer hclaimed =>
    exact Or.inl fun code => List.countP_cons_of_neg Bool.false_ne_true
  | account request task account found htask hnone hfound hnew => exact Or.inl fun code => rfl
  | finished request task account found hevent htask hstage hfound =>
    exact Or.inr ⟨request, task, account, found, hevent, htask, hstage, hfound, rfl⟩

/-- The count of reports of a code after a write. -/
theorem countP_finishClaim {request : ℕ} {task : ClaimTask} {account : Account}
    {enrollment : Enrollment} (code : String) :
    (finishClaim s request task account enrollment).answers.countP (reports code) =
      s.answers.countP (reports code) + if enrollment.code = code then 1 else 0 := by
  rw [finishClaim]
  dsimp only
  rw [List.countP_cons]
  congr 1
  simp [reports, Answer.claimedCode]

/-- A code with a reported claim has a claimed record. -/
theorem exists_claimed_of_countP_pos (hinv : ClaimInv s) {code : String}
    (h : 0 < s.answers.countP (reports code)) :
    ∃ (i : ℕ) (enrollment : Enrollment), s.records[i]? = some enrollment ∧
      enrollment.code = code ∧ enrollment.claimed = true := by
  obtain ⟨answer, hanswer, hreports⟩ := List.countP_pos_iff.mp h
  cases answer with
  | claimed found account principal =>
    rw [reports, Answer.claimedCode, beq_iff_eq, Option.some.injEq] at hreports
    rw [hreports] at hanswer
    exact hinv.marked code account principal hanswer
  | create response => cases hreports
  | poll code authorization now response => cases hreports
  | list response => cases hreports
  | claimRefused error => cases hreports

/-- Handed credentials were created by a reported claim of the code. -/
theorem handed_of_consistent (h : Consistent s) :
    ∀ code authorization now username secret,
      Answer.poll code authorization now (.ok (.claimed username secret)) ∈ s.answers →
      ∃ account principal, Answer.claimed code account principal ∈ s.answers ∧
        account.username = username ∧ account.token = secret :=
  fun code authorization now username secret hanswer =>
    (h.disclosure.handed code authorization now username secret hanswer).2

/-- A step that does not overwrite keeps claims exclusive. -/
theorem claimedOnce_step (hs : Consistent s) (honce : ClaimedOnce s) (hguard : ¬ Overwrites s event)
    (hstep : freshStep table idna toUpper publicURL allowedRouteSuffix s event = some s') :
    ClaimedOnce s' := by
  have hmove := freshStep_moves hstep
  refine ⟨?_, handed_of_consistent (consistent_moves hs hmove)⟩
  intro code
  rcases reports_of_moves hmove with hsame | ⟨request, task, account, enrollment, rfl, htask,
    hstage, hrecord, rfl⟩
  · rw [hsame]
    exact honce.1 code
  · rw [countP_finishClaim]
    have hbefore := honce.1 code
    split
    · rename_i hcode
      have hzero : ¬ 0 < s.answers.countP (reports code) := by
        intro hpos
        obtain ⟨i, found, hfound, hfc, hclaimed⟩ := exists_claimed_of_countP_pos hs.claims hpos
        have hi := hs.registry.codes i task.pointer found enrollment hfound hrecord
          (hfc.trans hcode.symm)
        rw [hi, hrecord] at hfound
        cases hfound
        exact hguard ⟨task, account, enrollment, htask, hstage, hrecord, hclaimed⟩
      omega
    · omega

/-- A step that overwrites reports a second claim of its code. -/
theorem not_claimedOnce_of_overwrites (hs : Consistent s) (h : Overwrites s event) :
    ∃ s', freshStep table idna toUpper publicURL allowedRouteSuffix s event = some s' ∧
      ¬ ClaimedOnce s' := by
  cases event with
  | finish request =>
    obtain ⟨task, account, enrollment, htask, hstage, hrecord, hclaimed⟩ := h
    refine ⟨finishClaim s request task account enrollment, ?_, ?_⟩
    · have hfresh : fresh s (.finish request) = true := rfl
      rw [freshStep, if_pos hfresh, step, htask]
      simp only [Option.bind_some, hstage, hrecord, Option.map_some]
    · intro honce
      have hcount := honce.1 enrollment.code
      rw [countP_finishClaim, if_pos rfl] at hcount
      obtain ⟨source, principal, hmem, -⟩ :=
        hs.claims.source task.pointer enrollment hrecord hclaimed
      have hpos : 0 < s.answers.countP (reports enrollment.code) := by
        rw [List.countP_pos_iff]
        refine ⟨_, hmem, ?_⟩
        rw [reports, Answer.claimedCode, beq_iff_eq]
      omega
  | _ => exact absurd h id

/-- Along every run, at most one claim of each code succeeds and its device
receives what that claim created, exactly when no claim of the run writes into
a record that is claimed already. -/
theorem claimed_once_iff_never_overwritten (events : List Event) :
    (∀ s,
      Visits (freshStep table idna toUpper publicURL allowedRouteSuffix) State.initial events s →
      ClaimedOnce s) ↔
    Guarded (freshStep table idna toUpper publicURL allowedRouteSuffix)
      (fun s event => ¬ Overwrites s event) State.initial events := by
  have hknown : ∀ before event after, Consistent before →
      freshStep table idna toUpper publicURL allowedRouteSuffix before event = some after →
      Consistent after := by
    intro before event after hbefore hstep
    exact consistent_moves hbefore (freshStep_moves hstep)
  refine guarded_iff_visits hknown ?_ ?_ consistent_initial ⟨?_, nofun⟩
  · intro before event after hbefore honce hguard hstep
    exact claimedOnce_step hbefore honce hguard hstep
  · intro before event hbefore hguard
    exact not_claimedOnce_of_overwrites hbefore (not_not.mp hguard)
  · intro code
    exact Nat.zero_le 1

end

/-- ASCII letters in upper case. -/
def asciiUpper (s : String) : String := String.ofList (s.toList.map Char.toUpper)

/-- One device, with the default settings of the samples. -/
def sampleStep : State → Event → Option State :=
  freshStep asciiTable plainIdna asciiUpper "https://connect.example.com" "subdomain.domain"

/-- A device enrolls and a user claims its code, up to the write. -/
def claimEvents (request : ℕ) (account : Account) : List Event :=
  [.claim request 0 TunnelTickets.sampleCredentials "a1b2c3d4e5" (some "subdomain.domain") 1,
    .accountCreated request (some account), .attributesUpdated request true,
    .entitlementFound request true, .userBound request, .finish request]

/-- Two users claim one code before the device polls. -/
def doubleClaim : List Event :=
  .create (some ⟨"device", "Laptop", "linux", "1.0"⟩) (some ("A1B2C3D4E5", "poll-token")) 0 ::
    claimEvents 1 ⟨7, "managed-client-1", "first"⟩ ++
    claimEvents 2 ⟨8, "managed-client-2", "second"⟩ ++
    [.poll "a1b2c3d4e5" "Bearer poll-token" 2]

/-- Both claims are answered with success, and the device receives the account
of the second one. -/
theorem second_claim_succeeds :
    ¬ ∀ events s, run sampleStep State.initial events = some s → ClaimedOnce s := by
  intro hall
  have hcount : (run sampleStep State.initial doubleClaim).map
      (fun s => s.answers.countP (reports "A1B2C3D4E5")) = some 2 := by decide +kernel
  obtain ⟨s, hrun, htwo⟩ := Option.map_eq_some_iff.mp hcount
  have honce := (hall doubleClaim s hrun).1 "A1B2C3D4E5"
  omega

end LfpPipe.EnrollmentSafety
