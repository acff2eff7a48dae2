import LfpPipe.ServicePrincipals

/-!
# Creation of principals under failing calls

Two handlers create a service account, store its metadata and bind it to an
entitlement. Each of the calls may fail before or after Authentik has acted
on it; every operation is called at most once in a request, so a function
from operations to outcomes is one pattern of successes and failures. The
creation of a principal deletes an account that it could not complete. A
claim does not, and it does not look at the outcome of the binding.
-/

namespace LfpPipe.PrincipalCreation

open GoText RouteAuth TunnelTickets JsonValues RemotePrograms AuthentikApi DeviceEnrollment
open ServicePrincipals

/-- The calls of the two handlers. -/
inductive Operation where
  | listApplications
  | listEntitlements
  | createServiceAccount
  | updateUserAttributes
  | bindUser
  | deleteUser
  | other
  deriving DecidableEq, Repr

/-- The operation of a request. -/
def operation : Request → Operation
  | .listApplications => .listApplications
  | .listEntitlements _ => .listEntitlements
  | .createServiceAccount _ => .createServiceAccount
  | .updateUserAttributes _ _ => .updateUserAttributes
  | .bindUser _ _ => .bindUser
  | .deleteUser _ => .deleteUser
  | _ => .other

/-- What becomes of the call of each operation. -/
abbrev Pattern := Operation → Outcome String

/-- Authentik behind calls that follow a pattern. -/
def serve (alloc : Allocator) (pattern : Pattern) : Service Authentik Request Answer :=
  fun s request => deliver (apply alloc) (pattern (operation request)) s request

/-- The entitlement that the first pages of the lists have. -/
def lookupEntitlement (s : Authentik) (appSlug name : String) : Option Entitlement :=
  let appPK := (((s.applications.take 100).find? (·.slug == appSlug)).map Application.pk).getD ""
  if appPK == "" then none
  else ((s.entitlements.filter (·.app == appPK)).take 100).find? (·.name == name)

/-- No user has the login name yet. -/
def NameFree (s : Authentik) (name : String) : Prop := s.users.any (·.username == name) = false

/-- Both reads of the search succeed and it finds the entitlement. -/
def FindsEntitlement (config : ServerConfig) (pattern : Pattern) (s : Authentik)
    (entitlement : String) : Prop :=
  pattern .listApplications = .answered ∧ pattern .listEntitlements = .answered ∧
    (lookupEntitlement s config.authentikApplicationSlug entitlement).isSome = true

/-- Every binding is one of a user that exists. -/
def BindingsBelong (s : Authentik) : Prop :=
  ∀ binding ∈ s.bindings, ∃ user ∈ s.users, user.pk = binding.user

/-- A principal as it is promised: a new account that carries the metadata of
its owner and is bound to the entitlement. -/
structure Established (print : PrintTable) (config : ServerConfig) (admitted : Admitted)
    (before after : Authentik) (principal : ServicePrincipal) : Prop where
  /-- The account was not there before. -/
  created : ∀ user ∈ before.users, user.pk ≠ principal.id
  /-- The account carries the metadata. -/
  carries : ∃ user ∈ after.users, user.pk = principal.id ∧ user.serviceAccount = true ∧
    metadataFromUser user =
      { managed := true
        ownerSubject := admitted.session.subject
        ownerEmail := admitted.session.email
        clientID := admitted.clientID
        entitlement := admitted.entitlement
        configTOML := defaultClientConfig print config admitted.clientID admitted.entitlement
          principal.username }
  /-- The account is bound to the entitlement of the configured application. -/
  bound : ∃ target,
    lookupEntitlement after config.authentikApplicationSlug admitted.entitlement = some target ∧
      (⟨principal.id, target.pbmUUID⟩ : Binding) ∈ after.bindings

/-- A success leaves the promised principal, an error leaves no new account. -/
def AllOrNothing (print : PrintTable) (config : ServerConfig)
    (admission : Except HttpError Admitted) (before after : Authentik) :
    Except HttpError ServicePrincipal → Prop
  | .ok principal => ∃ admitted, admission = .ok admitted ∧
      Established print config admitted before after principal
  | .error _ => ∀ user ∈ after.users, ∃ old ∈ before.users, old.pk = user.pk

section

variable {alloc : Allocator} {pattern : Pattern}

/-- The search for an entitlement changes nothing. -/
theorem exec_findEntitlement_state (print : PrintTable) (s : Authentik) (appSlug name : String) :
    (exec (serve alloc pattern) s (findEntitlement print appSlug name)).1 = s := by
  rw [findEntitlement, Program.send_bind, exec, serve, operation]
  cases pattern .listApplications with
  | refused failure => rfl
  | lost failure => rfl
  | answered =>
    rw [deliver, apply]
    dsimp only
    split
    · rfl
    · rw [Program.send_bind, exec, serve, operation]
      cases pattern .listEntitlements with
      | refused failure => rfl
      | lost failure => rfl
      | answered =>
        rw [deliver, apply]
        dsimp only
        split <;> rfl

/-- What the search finds when both of its reads are answered. -/
theorem exec_findEntitlement_ok_iff {print : PrintTable} {s : Authentik} {appSlug name : String}
    {target : Entitlement} :
    (exec (serve alloc pattern) s (findEntitlement print appSlug name)).2 = .ok target ↔
      pattern .listApplications = .answered ∧ pattern .listEntitlements = .answered ∧
        lookupEntitlement s appSlug name = some target := by
  rw [findEntitlement, Program.send_bind, exec, serve, operation, lookupEntitlement]
  cases pattern .listApplications with
  | refused failure => simp [deliver, exec, pure]
  | lost failure => simp [deliver, exec, pure]
  | answered =>
    rw [deliver, apply]
    dsimp only
    split
    · simp [exec, pure]
    · rw [Program.send_bind, exec, serve, operation]
      cases pattern .listEntitlements with
      | refused failure => simp [deliver, exec, pure]
      | lost failure => simp [deliver, exec, pure]
      | answered =>
        rw [deliver, apply]
        dsimp only
        split
        · rename_i hnone
          simp [exec, pure, hnone]
        · rename_i found hfound
          simp [exec, pure, hfound]

/-- A user behind others that have other keys. -/
def Last (users : List User) (account : User) : Prop := ∀ user ∈ users, user.pk ≠ account.pk

/-- The last user is found by its key. -/
theorem any_last (users : List User) (account : User) :
    (users ++ [account]).any (·.pk == account.pk) = true := by
  rw [List.any_append, List.any_cons, beq_self_eq_true, Bool.true_or, Bool.or_true]

/-- Changing the attributes of the last user changes only this one. -/
theorem map_last {users : List User} {account : User} (h : Last users account)
    (attributes : Fields) :
    ((users ++ [account]).map fun user =>
        if user.pk == account.pk then { user with attributes := attributes } else user) =
      users ++ [{ account with attributes := attributes }] := by
  have hsame : ∀ user ∈ users,
      (if user.pk == account.pk then { user with attributes := attributes } else user) =
        id user := by
    intro user hu
    rw [if_neg]
    · rfl
    · rw [beq_iff_eq]
      exact h user hu
  rw [List.map_append, List.map_congr_left hsame, List.map_id, List.map_singleton,
    beq_self_eq_true, if_pos rfl]

/-- Deleting the last user leaves the others. -/
theorem filter_last {users : List User} {account : User} (h : Last users account) :
    (users ++ [account]).filter (·.pk != account.pk) = users := by
  rw [List.filter_append, List.filter_eq_self.mpr, List.filter_cons_of_neg, List.filter_nil,
    List.append_nil]
  · rw [bne_self_eq_false]
    exact Bool.false_ne_true
  · intro user hu
    exact bne_iff_ne.mpr (h user hu)

/-- The users of an unchanged list are no new ones. -/
theorem none_new (users : List User) : ∀ user ∈ users, ∃ old ∈ users, old.pk = user.pk :=
  fun user hu => ⟨user, hu, rfl⟩

/-- A list that has a new account at its end is not free of new ones. -/
theorem exists_new {users : List User} {account : User} (hlast : Last users account) :
    ¬ ∀ user ∈ users ++ [account], ∃ old ∈ users, old.pk = user.pk := by
  intro h
  obtain ⟨old, hold, hpk⟩ := h account (List.mem_append_right _ List.mem_cons_self)
  exact hlast old hold hpk

/-- The state with one more user. -/
def withUser (s : Authentik) (account : User) : Authentik :=
  { s with users := s.users ++ [account] }

/-- The state in which a user is bound to a target. -/
def withBinding (s : Authentik) (pk : ℤ) (target : String) : Authentik :=
  { s with bindings := s.bindings ++ [⟨pk, target⟩] }

/-- The answer to the creation of a service account. -/
def accountCreated (alloc : Allocator) (s : Authentik) (name : String) : CreatedServiceAccount :=
  ⟨name, alloc.appPassword s.users, alloc.userPK s.users⟩

/-- The new account once its metadata is stored. -/
def storedAccount (alloc : Allocator) (s : Authentik) (name : String) (attributes : Fields) :
    User :=
  { newServiceAccount alloc s.users name with attributes := attributes }

/-- The new account is behind the others. -/
theorem newServiceAccount_last (s : Authentik) (name : String) :
    Last s.users (newServiceAccount alloc s.users name) := alloc.userPK_fresh s.users

/-- It stays there when its metadata is stored. -/
theorem storedAccount_last (s : Authentik) (name : String) (attributes : Fields) :
    Last s.users (storedAccount alloc s name attributes) := alloc.userPK_fresh s.users

/-- How the creation of an account ends. -/
theorem serve_create (s : Authentik) (name : String) :
    serve alloc pattern s (.createServiceAccount name) =
      match pattern .createServiceAccount with
      | .refused failure => (s, .error failure)
      | .answered =>
        if s.users.any (·.username == name) then (s, .error notUnique)
        else (withUser s (newServiceAccount alloc s.users name), .ok (accountCreated alloc s name))
      | .lost failure =>
        if s.users.any (·.username == name) then (s, .error failure)
        else (withUser s (newServiceAccount alloc s.users name), .error failure) := by
  rw [serve, operation]
  cases pattern .createServiceAccount with
  | refused failure => rfl
  | answered => rfl
  | lost failure =>
    rw [deliver, apply]
    dsimp only
    split <;> rfl

/-- How storing the metadata of the new account ends. -/
theorem serve_update (s : Authentik) (name : String) (attributes : Fields) :
    serve alloc pattern (withUser s (newServiceAccount alloc s.users name))
        (.updateUserAttributes (accountCreated alloc s name).userPK attributes) =
      match pattern .updateUserAttributes with
      | .refused failure =>
        (withUser s (newServiceAccount alloc s.users name), .error failure)
      | .answered => (withUser s (storedAccount alloc s name attributes), .ok ())
      | .lost failure =>
        (withUser s (storedAccount alloc s name attributes), .error failure) := by
  have hany : (withUser s (newServiceAccount alloc s.users name)).users.any
      (·.pk == (accountCreated alloc s name).userPK) = true :=
    any_last s.users (newServiceAccount alloc s.users name)
  have hlast : Last s.users (newServiceAccount alloc s.users name) := newServiceAccount_last s name
  have hmap := map_last hlast attributes
  have happly : apply alloc (withUser s (newServiceAccount alloc s.users name))
      (.updateUserAttributes (accountCreated alloc s name).userPK attributes) =
        (withUser s (storedAccount alloc s name attributes), .ok ()) := by
    have hstate := congrArg (fun users => ({ s with users := users } : Authentik)) hmap
    have hstored : withUser s (storedAccount alloc s name attributes) = _ := hstate.symm
    rw [apply, if_pos hany, hstored]
    rfl
  rw [serve, operation]
  cases pattern .updateUserAttributes with
  | refused failure => rfl
  | answered => rw [deliver, happly]
  | lost failure => rw [deliver, happly]

/-- How binding the new account ends. -/
theorem serve_bind (s : Authentik) (name : String) (attributes : Fields) (target : String) :
    serve alloc pattern (withUser s (storedAccount alloc s name attributes))
        (.bindUser (accountCreated alloc s name).userPK target) =
      match pattern .bindUser with
      | .refused failure => (withUser s (storedAccount alloc s name attributes), .error failure)
      | .answered =>
        (withBinding (withUser s (storedAccount alloc s name attributes))
          (accountCreated alloc s name).userPK target, .ok ())
      | .lost failure =>
        (withBinding (withUser s (storedAccount alloc s name attributes))
          (accountCreated alloc s name).userPK target, .error failure) := by
  have hany : (withUser s (storedAccount alloc s name attributes)).users.any
      (·.pk == (accountCreated alloc s name).userPK) = true :=
    any_last s.users (storedAccount alloc s name attributes)
  have happly : apply alloc (withUser s (storedAccount alloc s name attributes))
      (.bindUser (accountCreated alloc s name).userPK target) =
        (withBinding (withUser s (storedAccount alloc s name attributes))
          (accountCreated alloc s name).userPK target, .ok ()) := by
    rw [apply, if_pos hany]
    rfl
  rw [serve, operation]
  cases pattern .bindUser with
  | refused failure => rfl
  | answered => rw [deliver, happly]
  | lost failure => rw [deliver, happly]

/-- After the deletion of the new account the others are left. -/
theorem serve_delete (hdelete : pattern .deleteUser = .answered) {s after : Authentik}
    {account : User} (hlast : Last s.users account) (husers : after.users = s.users ++ [account]) :
    ∀ user ∈ (serve alloc pattern after (.deleteUser account.pk)).1.users,
      ∃ old ∈ s.users, old.pk = user.pk := by
  have husers : (serve alloc pattern after (.deleteUser account.pk)).1.users = s.users := by
    rw [serve, operation, hdelete, deliver, apply, husers, any_last, if_pos rfl]
    exact filter_last hlast
  rw [husers]
  exact none_new s.users

/-- The metadata that a handler stores is read back. -/
theorem metadata_storedAccount (s : Authentik) (name : String) (session : BrowserSession)
    (clientID entitlement configTOML : String) :
    metadataFromUser (storedAccount alloc s name
        (principalAttributes session clientID entitlement configTOML)) =
      { managed := true
        ownerSubject := session.subject
        ownerEmail := session.email
        clientID := clientID
        entitlement := entitlement
        configTOML := configTOML } := rfl

end

section

variable {alloc : Allocator} {pattern : Pattern} {print : PrintTable} {config : ServerConfig}

/-- The attributes that a handler stores for the account that was created. -/
def grantedAttributes (print : PrintTable) (config : ServerConfig) (admitted : Admitted)
    (username : String) : Fields :=
  principalAttributes admitted.session admitted.clientID admitted.entitlement
    (defaultClientConfig print config admitted.clientID admitted.entitlement username)

/-- A stored account is the promised principal exactly when it is bound. -/
theorem established_iff {s after : Authentik} {admitted : Admitted} {name : String}
    {principal : ServicePrincipal} (hid : principal.id = alloc.userPK s.users)
    (husername : principal.username = name)
    (husers : after.users =
      s.users ++ [storedAccount alloc s name (grantedAttributes print config admitted name)]) :
    Established print config admitted s after principal ↔
      ∃ target,
        lookupEntitlement after config.authentikApplicationSlug admitted.entitlement =
            some target ∧
          (⟨alloc.userPK s.users, target.pbmUUID⟩ : Binding) ∈ after.bindings := by
  constructor
  · intro h
    rw [←hid]
    exact h.bound
  · intro h
    rw [←hid] at h
    refine ⟨?_, ?_, h⟩
    · rw [hid]
      exact alloc.userPK_fresh s.users
    · rw [husers, hid, husername]
      exact ⟨_, List.mem_append_right _ List.mem_cons_self, rfl, rfl,
        metadata_storedAccount s name _ _ _ _⟩

/-- What is done with a new account in a creation is all or nothing. -/
theorem complete_all_or_nothing (hdelete : pattern .deleteUser = .answered) {s : Authentik}
    {admitted : Admitted} {target : Entitlement} {displayName : String}
    (htarget : lookupEntitlement s config.authentikApplicationSlug admitted.entitlement =
      some target) :
    AllOrNothing print config (.ok admitted) s
      (exec (serve alloc pattern) (withUser s (newServiceAccount alloc s.users displayName))
        (completePrincipal print config admitted target displayName
          (accountCreated alloc s displayName))).1
      ((exec (serve alloc pattern) (withUser s (newServiceAccount alloc s.users displayName))
        (completePrincipal print config admitted target displayName
          (accountCreated alloc s displayName))).2.map CreatedPrincipal.principal) := by
  rw [completePrincipal, Program.send_bind, exec, serve_update]
  cases pattern .updateUserAttributes with
  | refused failure => exact serve_delete hdelete (newServiceAccount_last s displayName) rfl
  | lost failure =>
    exact serve_delete hdelete
      (storedAccount_last s displayName (grantedAttributes print config admitted displayName)) rfl
  | answered =>
    dsimp only
    rw [Program.send_bind, exec, serve_bind]
    cases pattern .bindUser with
    | refused failure =>
      exact serve_delete hdelete
        (storedAccount_last s displayName (grantedAttributes print config admitted displayName)) rfl
    | lost failure =>
      exact serve_delete hdelete
        (storedAccount_last s displayName (grantedAttributes print config admitted displayName)) rfl
    | answered =>
      refine ⟨admitted, rfl, (established_iff rfl rfl rfl).mpr ⟨target, htarget, ?_⟩⟩
      exact List.mem_append_right _ List.mem_cons_self

/-- An admitted creation is all or nothing unless the account is created and
the answer to that is lost. -/
theorem create_all_or_nothing_iff {table : LowerTable} {idna : Idna}
    (hdelete : pattern .deleteUser = .answered) (s : Authentik) (checked : ℤ)
    (credentials : Credentials) (body : Option PrincipalRequest) (random : Option String) :
    AllOrNothing print config (admitPrincipal table idna config checked credentials body) s
        (exec (serve alloc pattern) s (createServicePrincipal table idna print config checked
          credentials body random)).1
        ((exec (serve alloc pattern) s (createServicePrincipal table idna print config checked
          credentials body random)).2.map CreatedPrincipal.principal) ↔
      ∀ admitted digits, admitPrincipal table idna config checked credentials body = .ok admitted →
        FindsEntitlement config pattern s admitted.entitlement → random = some digits →
        NameFree s ("lfp-pipe-" ++ admitted.clientID ++ "-" ++ digits) →
        ∀ failure, pattern .createServiceAccount ≠ .lost failure := by
  rw [createServicePrincipal]
  cases hadmit : admitPrincipal table idna config checked credentials body with
  | error error =>
    refine iff_of_true (none_new s.users) ?_
    intro admitted digits hother
    cases hother
  | ok admitted =>
    dsimp only
    rw [exec_bind, exec_findEntitlement_state]
    cases hfind : (exec (serve alloc pattern) s
        (findEntitlement print config.authentikApplicationSlug admitted.entitlement)).2 with
    | error message =>
      refine iff_of_true (none_new s.users) ?_
      rintro other digits hother ⟨happs, hentitlements, hfound⟩
      cases hother
      obtain ⟨target, htarget⟩ := Option.isSome_iff_exists.mp hfound
      rw [exec_findEntitlement_ok_iff.mpr ⟨happs, hentitlements, htarget⟩] at hfind
      cases hfind
    | ok target =>
      obtain ⟨happs, hentitlements, htarget⟩ := exec_findEntitlement_ok_iff.mp hfind
      have hfound : FindsEntitlement config pattern s admitted.entitlement :=
        ⟨happs, hentitlements, by rw [htarget]; rfl⟩
      cases random with
      | none =>
        refine iff_of_true (none_new s.users) ?_
        intro other digits hother _ hdigits
        cases hdigits
      | some digits =>
        dsimp only
        rw [Program.send_bind, exec, serve_create]
        cases hcreate : pattern .createServiceAccount with
        | refused failure =>
          refine iff_of_true (none_new s.users) ?_
          intro other digits _ _ _ _ failure hother
          cases hother
        | lost failure =>
          cases hname : s.users.any
              (·.username == "lfp-pipe-" ++ admitted.clientID ++ "-" ++ digits) with
          | true =>
            refine iff_of_true (none_new s.users) ?_
            intro other others hother _ hothers hfree
            cases hother
            cases hothers
            rw [NameFree, hname] at hfree
            cases hfree
          | false =>
            refine iff_of_false (exists_new (newServiceAccount_last s _)) ?_
            intro hnever
            exact hnever admitted digits rfl hfound rfl hname failure rfl
        | answered =>
          have hright : ∀ failure : String, Outcome.answered ≠ Outcome.lost failure := by
            intro failure hother
            cases hother
          refine iff_of_true ?_ fun _ _ _ _ _ _ => hright
          cases hname : s.users.any
              (·.username == "lfp-pipe-" ++ admitted.clientID ++ "-" ++ digits) with
          | true => exact none_new s.users
          | false => exact complete_all_or_nothing hdelete htarget

/-- The calls of a claim after the account is created all do their work. -/
def ClaimCompletes (config : ServerConfig) (pattern : Pattern) (s : Authentik)
    (entitlement : String) : Prop :=
  pattern .updateUserAttributes = .answered ∧ FindsEntitlement config pattern s entitlement ∧
    (pattern .bindUser).takesEffect = true

/-- A new account is bound to nothing. -/
theorem not_bound_of_new {s : Authentik} (hbindings : BindingsBelong s) (target : String) :
    (⟨alloc.userPK s.users, target⟩ : Binding) ∉ s.bindings := by
  intro h
  obtain ⟨user, huser, hpk⟩ := hbindings _ h
  exact alloc.userPK_fresh s.users user huser hpk

/-- The answer to a claim whose account has its metadata. -/
def claimedPrincipal (created : CreatedServiceAccount) (enrollment : Enrollment)
    (admitted : Admitted) : ServicePrincipal :=
  ⟨created.userPK, created.username, enrollment.name, admitted.clientID, admitted.entitlement⟩

/-- What is done with a new account in a claim is all or nothing exactly when
every call does its work. -/
theorem completeClaim_all_or_nothing_iff {s : Authentik} (hbindings : BindingsBelong s)
    {admitted : Admitted} {enrollment : Enrollment} {name : String} :
    AllOrNothing print config (.ok admitted) s
        (exec (serve alloc pattern) (withUser s (newServiceAccount alloc s.users name))
          (completeClaim print config admitted enrollment (accountCreated alloc s name))).1
        ((exec (serve alloc pattern) (withUser s (newServiceAccount alloc s.users name))
          (completeClaim print config admitted enrollment (accountCreated alloc s name))).2.map
            Prod.snd) ↔
      ClaimCompletes config pattern s admitted.entitlement := by
  rw [completeClaim, Program.send_bind, exec, serve_update, ClaimCompletes]
  cases pattern .updateUserAttributes with
  | refused failure =>
    refine iff_of_false (exists_new (newServiceAccount_last s name)) ?_
    rintro ⟨hother, -⟩
    cases hother
  | lost failure =>
    refine iff_of_false (exists_new (storedAccount_last s name
      (grantedAttributes print config admitted name))) ?_
    rintro ⟨hother, -⟩
    cases hother
  | answered =>
    dsimp only
    rw [exec_bind, exec_findEntitlement_state]
    have hunbound : ¬ AllOrNothing print config (.ok admitted) s
        (withUser s (storedAccount alloc s name (grantedAttributes print config admitted name)))
        (.ok (claimedPrincipal (accountCreated alloc s name) enrollment admitted)) := by
      rintro ⟨other, hother, hestablished⟩
      cases hother
      obtain ⟨target, -, hbound⟩ := (established_iff rfl rfl rfl).mp hestablished
      exact not_bound_of_new hbindings target.pbmUUID hbound
    have hattributes : principalAttributes admitted.session admitted.clientID admitted.entitlement
        (defaultClientConfig print config admitted.clientID admitted.entitlement
          (accountCreated alloc s name).username) =
        grantedAttributes print config admitted name := rfl
    rw [hattributes]
    cases hfind : (exec (serve alloc pattern)
        (withUser s (storedAccount alloc s name (grantedAttributes print config admitted name)))
        (findEntitlement print config.authentikApplicationSlug admitted.entitlement)).2 with
    | error message =>
      refine iff_of_false hunbound ?_
      rintro ⟨-, ⟨happs, hentitlements, hfound⟩, -⟩
      obtain ⟨target, htarget⟩ := Option.isSome_iff_exists.mp hfound
      cases hfind.symm.trans (exec_findEntitlement_ok_iff.mpr ⟨happs, hentitlements, htarget⟩)
    | ok target =>
      obtain ⟨happs, hentitlements, htarget⟩ := exec_findEntitlement_ok_iff.mp hfind
      have hfound : FindsEntitlement config pattern s admitted.entitlement := by
        refine ⟨happs, hentitlements, ?_⟩
        exact Option.isSome_iff_exists.mpr ⟨target, htarget⟩
      have hbound : AllOrNothing print config (.ok admitted) s
          (withBinding (withUser s (storedAccount alloc s name
            (grantedAttributes print config admitted name))) (accountCreated alloc s name).userPK
            target.pbmUUID)
          (.ok (claimedPrincipal (accountCreated alloc s name) enrollment admitted)) := by
        refine ⟨admitted, rfl, (established_iff rfl rfl rfl).mpr ⟨target, htarget, ?_⟩⟩
        exact List.mem_append_right _ List.mem_cons_self
      dsimp only
      rw [Program.send_bind, exec, serve_bind]
      cases pattern .bindUser with
      | refused failure =>
        refine iff_of_false hunbound ?_
        rintro ⟨-, -, heffect⟩
        cases heffect
      | lost failure => exact iff_of_true hbound ⟨rfl, hfound, rfl⟩
      | answered => exact iff_of_true hbound ⟨rfl, hfound, rfl⟩

/-- A claim is all or nothing exactly when, once an account is created, the
answer to that arrives and every later call does its work. -/
theorem claim_all_or_nothing_iff {table : LowerTable} {idna : Idna} {s : Authentik}
    (hbindings : BindingsBelong s) (checked : ℤ) (credentials : Credentials)
    (requested : Option String) (enrollment : Option Enrollment) (now : ℤ) :
    AllOrNothing print config
        ((admitClaim table idna config checked credentials requested enrollment now).map Prod.fst) s
        (exec (serve alloc pattern) s (claimPrincipal table idna print config checked credentials
          requested enrollment now)).1
        ((exec (serve alloc pattern) s (claimPrincipal table idna print config checked credentials
          requested enrollment now)).2.map Prod.snd) ↔
      ∀ admitted record,
        admitClaim table idna config checked credentials requested enrollment now =
          .ok (admitted, record) →
        NameFree s admitted.clientID → (pattern .createServiceAccount).takesEffect = true →
        pattern .createServiceAccount = .answered ∧
          ClaimCompletes config pattern s admitted.entitlement := by
  rw [claimPrincipal]
  cases hadmit : admitClaim table idna config checked credentials requested enrollment now with
  | error error =>
    refine iff_of_true (none_new s.users) ?_
    intro admitted record hother
    cases hother
  | ok result =>
    obtain ⟨admitted, record⟩ := result
    dsimp only
    rw [Program.send_bind, exec, serve_create]
    cases hcreate : pattern .createServiceAccount with
    | refused failure =>
      refine iff_of_true (none_new s.users) ?_
      intro _ _ _ _ heffect
      cases heffect
    | lost failure =>
      cases hname : s.users.any (·.username == admitted.clientID) with
      | true =>
        refine iff_of_true (none_new s.users) ?_
        intro other others hother hfree
        cases hother
        rw [NameFree, hname] at hfree
        cases hfree
      | false =>
        refine iff_of_false (exists_new (newServiceAccount_last s _)) ?_
        intro hall
        cases (hall admitted record rfl hname rfl).1
    | answered =>
      cases hname : s.users.any (·.username == admitted.clientID) with
      | true =>
        refine iff_of_true (none_new s.users) ?_
        intro other others hother hfree
        cases hother
        rw [NameFree, hname] at hfree
        cases hfree
      | false =>
        refine (completeClaim_all_or_nothing_iff hbindings).trans ?_
        constructor
        · intro hcomplete other others hother _ _
          cases hother
          exact ⟨rfl, hcomplete⟩
        · intro hall
          exact (hall admitted record rfl hname rfl).2

/-- Exactly when the two handlers are all or nothing. A creation is, for every
pattern, except that the answer to the creation of its account is lost after
the account was created. A claim is only if, once its account is created,
storing the metadata succeeds, both reads of the search succeed and find the
entitlement, and the binding takes effect. -/
theorem principal_creation_all_or_nothing_iff {table : LowerTable} {idna : Idna}
    (hdelete : pattern .deleteUser = .answered) {s : Authentik} (hbindings : BindingsBelong s)
    (checked now : ℤ) (credentials : Credentials) (body : Option PrincipalRequest)
    (random requested : Option String) (enrollment : Option Enrollment) :
    (AllOrNothing print config (admitPrincipal table idna config checked credentials body) s
        (exec (serve alloc pattern) s (createServicePrincipal table idna print config checked
          credentials body random)).1
        ((exec (serve alloc pattern) s (createServicePrincipal table idna print config checked
          credentials body random)).2.map CreatedPrincipal.principal) ↔
      ∀ admitted digits, admitPrincipal table idna config checked credentials body = .ok admitted →
        FindsEntitlement config pattern s admitted.entitlement → random = some digits →
        NameFree s ("lfp-pipe-" ++ admitted.clientID ++ "-" ++ digits) →
        ∀ failure, pattern .createServiceAccount ≠ .lost failure) ∧
    (AllOrNothing print config
        ((admitClaim table idna config checked credentials requested enrollment now).map Prod.fst) s
        (exec (serve alloc pattern) s (claimPrincipal table idna print config checked credentials
          requested enrollment now)).1
        ((exec (serve alloc pattern) s (claimPrincipal table idna print config checked credentials
          requested enrollment now)).2.map Prod.snd) ↔
      ∀ admitted record,
        admitClaim table idna config checked credentials requested enrollment now =
          .ok (admitted, record) →
        NameFree s admitted.clientID → (pattern .createServiceAccount).takesEffect = true →
        pattern .createServiceAccount = .answered ∧
          ClaimCompletes config pattern s admitted.entitlement) :=
  ⟨create_all_or_nothing_iff hdelete s checked credentials body random,
    claim_all_or_nothing_iff hbindings checked credentials requested enrollment now⟩

end

/-- A control plane for routes below one suffix. -/
def sampleServerConfig : ServerConfig :=
  { TunnelTickets.sampleConfig with
    publicURL := "https://pipe.example.com"
    authentikApplicationSlug := "lfp-pipe"
    oauthTokenURL := "https://id.example.com/token"
    oidcClientID := "lfp-pipe"
    oidcScopes := ["openid", "entitlements"] }

/-- An Authentik with the application and its entitlement, and no users. -/
def sampleAuthentik : Authentik where
  users := []
  applications := [⟨"app-1", "LFP Pipe", "lfp-pipe", none⟩]
  entitlements := [⟨"subdomain.domain", "target-1", "app-1"⟩]
  bindings := []
  providers := []
  groups := []

/-- An enrollment that waits to be claimed. -/
def sampleEnrollment : Enrollment where
  code := "A1B2C3D4E5"
  pollToken := "poll"
  deviceID := "device-1"
  name := "Unraid East"
  platform := "linux"
  version := "1.0"
  expires := 600 * second
  username := ""
  secret := ""
  claimed := false

/-- What the session and the body of the samples admit. -/
def sampleAdmitted : Admitted where
  session := ⟨"authentik-subject", "Ada", "", ["subdomain.domain"], 1700003600, "ada"⟩
  clientID := "unraid-east"
  entitlement := "subdomain.domain"

/-- The sample claim is admitted. -/
theorem admitClaim_sample :
    admitClaim asciiTable plainIdna sampleServerConfig 0 sampleCredentials (some "subdomain.domain")
      (some sampleEnrollment) 1 = .ok (sampleAdmitted, sampleEnrollment) := by
  decide +kernel

/-- Every call is answered. -/
def allAnswered : Pattern := fun _ => .answered

/-- With every call answered, a creation leaves the promised principal. -/
theorem principal_creation_answered :
    AllOrNothing asciiPrintTable sampleServerConfig
      (admitPrincipal asciiTable plainIdna sampleServerConfig 0 sampleCredentials
        (some ⟨"Unraid East", "subdomain.domain"⟩)) sampleAuthentik
      (exec (serve countingAllocator allAnswered) sampleAuthentik
        (createServicePrincipal asciiTable plainIdna asciiPrintTable sampleServerConfig 0
          sampleCredentials (some ⟨"Unraid East", "subdomain.domain"⟩) (some "00c0ffee"))).1
      ((exec (serve countingAllocator allAnswered) sampleAuthentik
        (createServicePrincipal asciiTable plainIdna asciiPrintTable sampleServerConfig 0
          sampleCredentials (some ⟨"Unraid East", "subdomain.domain"⟩) (some "00c0ffee"))).2.map
            CreatedPrincipal.principal) := by
  have hbindings : BindingsBelong sampleAuthentik := fun _ h => absurd h List.not_mem_nil
  have hdelete : allAnswered .deleteUser = .answered := rfl
  have hiff := @principal_creation_all_or_nothing_iff countingAllocator allAnswered asciiPrintTable
    sampleServerConfig asciiTable plainIdna hdelete sampleAuthentik hbindings 0 1 sampleCredentials
    (some ⟨"Unraid East", "subdomain.domain"⟩) (some "00c0ffee") none none
  apply hiff.1.mpr
  intro admitted digits _ _ _ _ failure hlost
  cases hlost

/-- Only storing the metadata fails. -/
def metadataRefused : Pattern := fun call =>
  if call = .updateUserAttributes then .refused "timeout" else .answered

/-- A claim whose metadata is refused leaves its account behind. -/
theorem refused_metadata_leaves_account :
    ¬ AllOrNothing asciiPrintTable sampleServerConfig
      ((admitClaim asciiTable plainIdna sampleServerConfig 0 sampleCredentials
        (some "subdomain.domain") (some sampleEnrollment) 1).map Prod.fst) sampleAuthentik
      (exec (serve countingAllocator metadataRefused) sampleAuthentik
        (claimPrincipal asciiTable plainIdna asciiPrintTable sampleServerConfig 0 sampleCredentials
          (some "subdomain.domain") (some sampleEnrollment) 1)).1
      ((exec (serve countingAllocator metadataRefused) sampleAuthentik
        (claimPrincipal asciiTable plainIdna asciiPrintTable sampleServerConfig 0 sampleCredentials
          (some "subdomain.domain") (some sampleEnrollment) 1)).2.map Prod.snd) := by
  have hbindings : BindingsBelong sampleAuthentik := fun _ h => absurd h List.not_mem_nil
  intro h
  have hiff := @claim_all_or_nothing_iff countingAllocator metadataRefused asciiPrintTable
    sampleServerConfig asciiTable plainIdna sampleAuthentik hbindings 0 sampleCredentials
    (some "subdomain.domain") (some sampleEnrollment) 1
  have hall := hiff.mp h
  have hanswered := (hall sampleAdmitted sampleEnrollment admitClaim_sample rfl rfl).2.1
  exact absurd hanswered (by decide)

end LfpPipe.PrincipalCreation
