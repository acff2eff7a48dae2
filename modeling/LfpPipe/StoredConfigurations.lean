import LfpPipe.ServicePrincipals

/-!
# Reading and saving stored configurations

Users are decoded into untyped maps before the handlers look at them. The
metadata of a decoded user is that of the stored one, so a machine is handed
the configuration of the first account that has one for it, among the
accounts of the first page. Saving a configuration writes back the table of
the metadata alone: the other attributes of the user are lost, and the rest
of the table is what the number conversion left of it.
-/

namespace LfpPipe.StoredConfigurations

open GoText RouteAuth TunnelTickets JsonValues RemotePrograms AuthentikApi DeviceEnrollment
open DevicePresence ServicePrincipals

section

variable {float : FloatReader}

/-- The table of the metadata is recoded with the attributes. -/
theorem metadataRoot_recode {attributes recoded : Fields}
    (h : recodeFields float attributes = some recoded) :
    recodeFields float (metadataRoot attributes) = some (metadataRoot recoded) := by
  have hlookup := lookup_recodeFields h "lfp_pipe"
  rw [metadataRoot, metadataRoot, hlookup]
  cases hvalue : attributes.lookup "lfp_pipe" with
  | none => rfl
  | some value =>
    obtain ⟨result, hresult⟩ := exists_recode_of_lookup h hvalue
    rw [Option.bind_some, hresult]
    exact fieldsOr_recode hresult

/-- Decoding a user changes its attributes only, each number by the conversion. -/
theorem decodeUser_eq_ok {user decoded : User} (h : decodeUser float user = .ok decoded) :
    ∃ attributes, recodeFields float user.attributes = some attributes ∧
      decoded = { user with attributes := attributes } := by
  rw [decodeUser] at h
  split at h
  · cases h
  · rename_i attributes hattributes
    cases h
    exact ⟨attributes, hattributes, rfl⟩

/-- A decoded user has the metadata of the stored one. -/
theorem metadataFromUser_decode {user decoded : User} (h : decodeUser float user = .ok decoded) :
    metadataFromUser decoded = metadataFromUser user := by
  obtain ⟨attributes, hattributes, rfl⟩ := decodeUser_eq_ok h
  have hlookup := lookup_recodeFields (metadataRoot_recode hattributes)
  simp only [metadataFromUser, hlookup, boolOr_recode, textOr_recode]

/-- A decoded user keeps its login name. -/
theorem username_decode {user decoded : User} (h : decodeUser float user = .ok decoded) :
    decoded.username = user.username := by
  obtain ⟨attributes, -, rfl⟩ := decodeUser_eq_ok h
  rfl

/-- A decoded user keeps its key. -/
theorem pk_decode {user decoded : User} (h : decodeUser float user = .ok decoded) :
    decoded.pk = user.pk := by
  obtain ⟨attributes, -, rfl⟩ := decodeUser_eq_ok h
  rfl

/-- A decoded page is made of its decoded users, in order. -/
theorem decodeUsers_eq_ok {users decoded : List User} (h : decodeUsers float users = .ok decoded) :
    List.Forall₂ (fun user result => decodeUser float user = .ok result) users decoded := by
  induction users generalizing decoded with
  | nil =>
    rw [decodeUsers] at h
    cases h
    exact .nil
  | cons user users ih =>
    rw [decodeUsers] at h
    split at h
    · cases h
    · rename_i result hresult
      split at h
      · cases h
      · rename_i results hresults
        cases h
        exact .cons hresult (ih hresults)

/-- Every number in the attributes of these users can be converted. -/
def Decodable (float : FloatReader) (users : List User) : Prop :=
  ∀ user ∈ users, (recodeFields float user.attributes).isSome = true

/-- A page is decoded exactly when all of its numbers can be converted. -/
theorem decodeUsers_isOk_iff (users : List User) :
    (∃ decoded, decodeUsers float users = .ok decoded) ↔ Decodable float users := by
  induction users with
  | nil => simp [decodeUsers, Decodable]
  | cons user users ih =>
    have hcons : Decodable float (user :: users) ↔
        (recodeFields float user.attributes).isSome = true ∧ Decodable float users := by
      simp [Decodable]
    rw [hcons, ← ih, decodeUsers, decodeUser]
    cases recodeFields float user.attributes with
    | none => simp
    | some attributes =>
      cases decodeUsers float users with
      | error message => simp
      | ok decoded => simp

end

/-- The service accounts that Authentik has. -/
def serviceAccounts (s : Authentik) : List User := s.users.filter User.serviceAccount

/-- The service accounts on the first page of their list. -/
def firstPage (s : Authentik) : List User := (serviceAccounts s).take 100

section

variable {alloc : Allocator} {float : FloatReader}

/-- The service accounts are read from the first page, and nothing is changed. -/
theorem exec_listServiceAccounts (s : Authentik) :
    exec (apply alloc) s (AuthentikApi.listServiceAccounts float) =
      (s, decodeUsers float (firstPage s)) := rfl

end

section

variable {float : FloatReader} {sha256 : List UInt8 → List UInt8} {username : String}

/-- Whether an account configures a machine does not depend on its numbers. -/
theorem configures_decode {user decoded : User} (h : decodeUser float user = .ok decoded) :
    User.configures username decoded = User.configures username user := by
  rw [User.configures, User.configures, metadataFromUser_decode h, username_decode h]

/-- Nor does the answer to the machine. -/
theorem machineConfig_decode {user decoded : User} (h : decodeUser float user = .ok decoded) :
    machineConfig sha256 username decoded = machineConfig sha256 username user := by
  rw [machineConfig, machineConfig, metadataFromUser_decode h]

/-- The search of a decoded page answers as a search of the stored page. -/
theorem find_configures_decode {users decoded : List User}
    (h : List.Forall₂ (fun user result => decodeUser float user = .ok result) users decoded) :
    (decoded.find? (User.configures username)).map (machineConfig sha256 username) =
      (users.find? (User.configures username)).map (machineConfig sha256 username) := by
  induction h with
  | nil => rfl
  | cons hfirst _ ih =>
    rw [List.find?_cons, List.find?_cons, configures_decode hfirst]
    split
    · rw [Option.map_some, Option.map_some, machineConfig_decode hfirst]
    · exact ih

/-- The answer to a machine without a configuration. -/
def notConfigured : HttpError := ⟨404, "No central configuration is assigned to this client."⟩

/-- What a machine is answered when the first page has these accounts. -/
def pageAnswer (float : FloatReader) (sha256 : List UInt8 → List UInt8) (username : String)
    (users : List User) : Except HttpError MachineConfig :=
  match decodeUsers float users with
  | .error _ => .error internalError
  | .ok _ =>
    match users.find? (User.configures username) with
    | none => .error notConfigured
    | some user => .ok (machineConfig sha256 username user)

/-- What a machine should be answered: the configuration of an account that
has one for it, among all service accounts, and status 404 when none has. -/
def AnswersMachine (sha256 : List UInt8 → List UInt8) (username : String) (accounts : List User)
    (answer : Except HttpError MachineConfig) : Prop :=
  ((∃ user ∈ accounts, User.configures username user = true) →
    ∃ user ∈ accounts, User.configures username user = true ∧
      answer = .ok (machineConfig sha256 username user)) ∧
  ((∀ user ∈ accounts, User.configures username user = false) → answer = .error notConfigured)

/-- The answer from a page serves the machine exactly when the page can be
decoded and settles the search. -/
theorem answersMachine_pageAnswer_iff {page accounts : List User}
    (hpage : ∀ user ∈ page, user ∈ accounts) :
    AnswersMachine sha256 username accounts (pageAnswer float sha256 username page) ↔
      Decodable float page ∧
        ((∃ user ∈ page, User.configures username user = true) ∨
          ∀ user ∈ accounts, User.configures username user = false) := by
  rw [← decodeUsers_isOk_iff, pageAnswer]
  cases hdecoded : decodeUsers float page with
  | error message =>
    have hfails : ¬ AnswersMachine sha256 username accounts (.error internalError) := by
      intro h
      by_cases hsome : ∃ user ∈ accounts, User.configures username user = true
      · obtain ⟨user, -, -, hanswer⟩ := h.1 hsome
        cases hanswer
      · have hnone : ∀ user ∈ accounts, User.configures username user = false := by
          intro user huser
          exact eq_false_of_ne_true fun hconfigures => hsome ⟨user, huser, hconfigures⟩
        have hanswer := h.2 hnone
        rw [internalError, notConfigured] at hanswer
        injection hanswer with hanswer
        injection hanswer with hstatus
        omega
    simp only [hfails, reduceCtorEq, exists_false, false_and]
  | ok decoded =>
    simp only [Except.ok.injEq, exists_eq', true_and]
    cases hfind : page.find? (User.configures username) with
    | none =>
      have hnone : ∀ user ∈ page, User.configures username user = false := by
        intro user huser
        exact eq_false_of_ne_true (List.find?_eq_none.mp hfind user huser)
      constructor
      · intro h
        refine .inr fun user huser => eq_false_of_ne_true fun hconfigures => ?_
        obtain ⟨found, -, -, hanswer⟩ := h.1 ⟨user, huser, hconfigures⟩
        cases hanswer
      · intro h
        have haccounts : ∀ user ∈ accounts, User.configures username user = false := by
          rcases h with ⟨user, huser, hconfigures⟩ | h
          · rw [hnone user huser] at hconfigures
            cases hconfigures
          · exact h
        refine ⟨?_, fun _ => rfl⟩
        intro hsome
        obtain ⟨user, huser, hconfigures⟩ := hsome
        rw [haccounts user huser] at hconfigures
        cases hconfigures
    | some user =>
      have huser := List.mem_of_find?_eq_some hfind
      have hconfigures : User.configures username user = true := List.find?_some hfind
      constructor
      · intro _
        exact .inl ⟨user, huser, hconfigures⟩
      · intro _
        refine ⟨fun _ => ⟨user, hpage user huser, hconfigures, rfl⟩, fun hnone => ?_⟩
        rw [hnone user (hpage user huser)] at hconfigures
        cases hconfigures

end

section

variable {alloc : Allocator} {float : FloatReader} {sha256 : List UInt8 → List UInt8}
  {verify : String → Except String BrowserSession} {checked now : ℤ} {credentials : Credentials}
  {identity : BrowserSession}

/-- A verified machine is answered from the first page. -/
theorem exec_getMachineClientConfig (headers : DeviceHeaders) (registry : Registry) (s : Authentik)
    (hidentity : requireIdentity verify checked credentials = .ok identity)
    (hmachine : identity.username ≠ "") :
    (exec (apply alloc) s (getMachineClientConfig float sha256 verify checked now credentials
      headers registry)).2.2.2 = pageAnswer float sha256 identity.username (firstPage s) := by
  rw [getMachineClientConfig, hidentity]
  dsimp only
  rw [if_neg (by simpa using hmachine), exec_bind, exec_listServiceAccounts, pageAnswer]
  dsimp only
  cases hdecoded : decodeUsers float (firstPage s) with
  | error message => rfl
  | ok decoded =>
    dsimp only
    have hfind := @find_configures_decode float sha256 identity.username _ _
      (decodeUsers_eq_ok hdecoded)
    cases hleft : decoded.find? (User.configures identity.username) with
    | none =>
      rw [hleft] at hfind
      cases hright : (firstPage s).find? (User.configures identity.username) with
      | none => rfl
      | some user =>
        rw [hright] at hfind
        cases hfind
    | some user =>
      rw [hleft] at hfind
      cases hright : (firstPage s).find? (User.configures identity.username) with
      | none =>
        rw [hright] at hfind
        cases hfind
      | some stored =>
        rw [hright] at hfind
        injection hfind with hfind
        exact congrArg Except.ok hfind

/-- A verified machine is served exactly when the numbers on the first page
of service accounts can be converted and either an account of that page
configures the machine or no service account at all does. -/
theorem machine_config_served_iff (headers : DeviceHeaders) (registry : Registry) (s : Authentik)
    (hidentity : requireIdentity verify checked credentials = .ok identity)
    (hmachine : identity.username ≠ "") :
    AnswersMachine sha256 identity.username (serviceAccounts s)
        (exec (apply alloc) s (getMachineClientConfig float sha256 verify checked now credentials
          headers registry)).2.2.2 ↔
      Decodable float (firstPage s) ∧
        ((∃ user ∈ firstPage s, User.configures identity.username user = true) ∨
          ∀ user ∈ serviceAccounts s, User.configures identity.username user = false) := by
  rw [exec_getMachineClientConfig headers registry s hidentity hmachine]
  exact answersMachine_pageAnswer_iff fun _ huser => List.mem_of_mem_take huser

end

/-- Credentials with a bearer token. -/
def machineCredentials : Credentials where
  authorization := "Bearer machine"
  cookie := .error "no session"

/-- A verifier that knows the token of one machine. -/
def machineVerifier (username raw : String) : Except String BrowserSession :=
  if raw == "machine" then
    .ok { subject := "machine", name := username, email := "", entitlements := [],
          expiresUnix := 1700003600, username := username }
  else .error "unknown token"

/-- The identity that the token is verified to. -/
theorem requireIdentity_machine (username : String) :
    requireIdentity (machineVerifier username) 1700000000000000000 machineCredentials =
      .ok { subject := "machine", name := username, email := "", entitlements := [],
            expiresUnix := 1700003600, username := username } := rfl

/-- A service account with some attributes. -/
def account (pk : ℤ) (username : String) (attributes : Fields) : User where
  pk := pk
  username := username
  name := username
  serviceAccount := true
  isActive := true
  isSuperuser := false
  attributes := attributes

/-- The attributes of a managed account. -/
def managedAttributes (owner configTOML : String) : Fields :=
  [("lfp_pipe", .object
    [("managed", .bool true), ("owner_subject", .string owner),
      ("config_toml", .string configTOML)])]

/-- Authentik with these users and nothing else. -/
def withUsers (users : List User) : Authentik := ⟨users, [], [], [], [], []⟩

/-- A machine whose account is on the first page is served. -/
theorem machine_config_served_single :
    AnswersMachine (fun _ => []) "web"
      (serviceAccounts (withUsers [account 1 "web" (managedAttributes "ann" "[defaults]")]))
      (exec (apply countingAllocator)
        (withUsers [account 1 "web" (managedAttributes "ann" "[defaults]")])
        (getMachineClientConfig exactReader (fun _ => []) (machineVerifier "web")
          1700000000000000000 1700000000000000000 machineCredentials ⟨"", "", "", ""⟩
          newDeviceRegistry)).2.2.2 := by
  refine (machine_config_served_iff ⟨"", "", "", ""⟩ newDeviceRegistry _
    (requireIdentity_machine "web")
    (by decide)).mpr ⟨?_, .inl ?_⟩
  · intro user huser
    rw [List.mem_singleton.mp huser]
    rfl
  · exact ⟨_, List.mem_singleton.mpr rfl, by decide⟩

/-- A hundred accounts that other programs use. -/
def otherAccounts : List User :=
  (List.range 100).map fun n : ℕ => account (Int.ofNat n + 1) ("service-" ++ toString n) []

/-- They are all that the first page has. -/
theorem firstPage_otherAccounts (later : List User)
    (hlater : ∀ user ∈ later, user.serviceAccount = true) :
    firstPage (withUsers (otherAccounts ++ later)) = otherAccounts := by
  have hfilter : (otherAccounts ++ later).filter User.serviceAccount = otherAccounts ++ later := by
    rw [List.filter_eq_self]
    intro user huser
    rcases List.mem_append.mp huser with huser | huser
    · obtain ⟨n, -, rfl⟩ := List.mem_map.mp huser
      rfl
    · exact hlater user huser
  have hlength : otherAccounts.length = 100 := by
    rw [otherAccounts, List.length_map, List.length_range]
  rw [firstPage, serviceAccounts, withUsers, hfilter, ← hlength, List.take_left]

/-- A managed machine behind a hundred other accounts is told that it has no
configuration. -/
theorem machine_config_beyond_first_page :
    ¬ AnswersMachine (fun _ => []) "web"
      (serviceAccounts
        (withUsers (otherAccounts ++ [account 101 "web" (managedAttributes "ann" "[defaults]")])))
      (exec (apply countingAllocator)
        (withUsers (otherAccounts ++ [account 101 "web" (managedAttributes "ann" "[defaults]")]))
        (getMachineClientConfig exactReader (fun _ => []) (machineVerifier "web")
          1700000000000000000 1700000000000000000 machineCredentials ⟨"", "", "", ""⟩
          newDeviceRegistry)).2.2.2 := by
  have hnone : ∀ user ∈ otherAccounts, User.configures "web" user = false := by
    intro user huser
    obtain ⟨n, -, rfl⟩ := List.mem_map.mp huser
    rw [User.configures, Bool.and_assoc]
    exact Bool.and_false _
  have haccount : account 101 "web" (managedAttributes "ann" "[defaults]") ∈
      serviceAccounts
        (withUsers (otherAccounts ++ [account 101 "web" (managedAttributes "ann" "[defaults]")])) :=
    List.mem_filter.mpr ⟨List.mem_append_right _ (List.mem_singleton.mpr rfl), rfl⟩
  have hconfigures : User.configures "web"
      (account 101 "web" (managedAttributes "ann" "[defaults]")) = true := by decide
  rw [exec_getMachineClientConfig ⟨"", "", "", ""⟩ newDeviceRegistry _
    (requireIdentity_machine "web")
      (by decide), firstPage_otherAccounts, answersMachine_pageAnswer_iff]
  · intro h
    rcases h.2 with ⟨user, huser, hsome⟩ | hall
    · rw [hnone user huser] at hsome
      cases hsome
    · rw [hall _ haccount] at hconfigures
      cases hconfigures
  · intro user huser
    have hmem :=
      List.mem_append_left [account 101 "web" (managedAttributes "ann" "[defaults]")] huser
    refine List.mem_filter.mpr ⟨hmem, ?_⟩
    obtain ⟨n, -, rfl⟩ := List.mem_map.mp huser
    rfl
  · intro user huser
    rw [List.mem_singleton.mp huser]
    rfl

section

variable {alloc : Allocator} {float : FloatReader}

/-- The user with a key. -/
def userAt (s : Authentik) (pk : ℤ) : Option User := s.users.find? (·.pk == pk)

/-- A user that is asked for is decoded, and nothing is changed. -/
theorem exec_getUser (s : Authentik) (pk : ℤ) :
    exec (apply alloc) s (AuthentikApi.getUser float pk) =
      (s, match userAt s pk with
        | none => .error notFound
        | some user => decodeUser float user) := by
  rw [AuthentikApi.getUser, Program.send_bind, exec, apply, userAt]
  cases s.users.find? (·.pk == pk) with
  | none => rfl
  | some user => rfl

/-- Replaced attributes are those of the user with the key. -/
theorem userAt_map_attributes {s : Authentik} {pk : ℤ} {user : User} {attributes : Fields}
    (h : userAt s pk = some user) :
    (s.users.map fun user => if user.pk == pk then { user with attributes := attributes } else user
      ).find? (·.pk == pk) = some { user with attributes := attributes } := by
  rw [userAt] at h
  rw [List.find?_map]
  have hkey : ((fun candidate : User => candidate.pk == pk) ∘ fun candidate : User =>
      if candidate.pk == pk then { candidate with attributes := attributes } else candidate) =
      fun candidate => candidate.pk == pk := by
    funext candidate
    rw [Function.comp_apply]
    split <;> rfl
  have huser : (user.pk == pk) = true := List.find?_some (p := fun user : User => user.pk == pk) h
  rw [hkey, h, Option.map_some, if_pos huser]

variable {checked : ℤ} {credentials : Credentials} {id : String}

/-- What an owned principal is: an account of the key in the path whose
metadata names the signed-in user. -/
theorem ownedPrincipal_eq_ok {s : Authentik} {user : User} {metadata : PrincipalMetadata}
    (h : (exec (apply alloc) s (ownedPrincipal float checked credentials id)).2 =
      .ok (user, metadata)) :
    ∃ session pk stored, requireSession checked credentials = .ok session ∧
      principalID id = some pk ∧ userAt s pk = some stored ∧
      decodeUser float stored = .ok user ∧ metadata = metadataFromUser stored ∧
      (metadataFromUser stored).ownedBy session = true := by
  rw [ownedPrincipal] at h
  cases hsession : requireSession checked credentials with
  | error message =>
    rw [hsession] at h
    cases h
  | ok session =>
    rw [hsession] at h
    cases hpk : principalID id with
    | none =>
      rw [hpk] at h
      cases h
    | some pk =>
      rw [hpk] at h
      dsimp only at h
      rw [exec_bind, exec_getUser] at h
      cases hstored : userAt s pk with
      | none =>
        rw [hstored] at h
        cases h
      | some stored =>
        rw [hstored] at h
        dsimp only at h
        cases hdecoded : decodeUser float stored with
        | error message =>
          rw [hdecoded] at h
          cases h
        | ok decoded =>
          rw [hdecoded] at h
          dsimp only at h
          rw [metadataFromUser_decode hdecoded] at h
          split at h
          · cases h
          · rename_i howned
            cases h
            refine ⟨session, pk, stored, rfl, rfl, hstored, hdecoded, rfl, ?_⟩
            simpa using howned

/-- Looking at a principal changes nothing. -/
theorem exec_ownedPrincipal_state (s : Authentik) :
    (exec (apply alloc) s (ownedPrincipal float checked credentials id)).1 = s := by
  rw [ownedPrincipal]
  cases requireSession checked credentials with
  | error message => rfl
  | ok session =>
    cases principalID id with
    | none => rfl
    | some pk =>
      dsimp only
      rw [exec_bind, exec_getUser]
      dsimp only
      split
      · rfl
      · split <;> rfl

/-- A saved configuration is the table of the decoded metadata with the new
document, and it is all that the user has. -/
theorem putServicePrincipalConfig_eq_ok {s : Authentik} {body : Option String} {registry : Registry}
    {configTOML : String}
    (h : (exec (apply alloc) s
      (putServicePrincipalConfig float checked credentials id body registry)).2.2.2 =
        .ok configTOML) :
    ∃ pk stored decoded, principalID id = some pk ∧ userAt s pk = some stored ∧
      decodeUser float stored = .ok decoded ∧
      userAt (exec (apply alloc) s
        (putServicePrincipalConfig float checked credentials id body registry)).1 pk =
        some { stored with attributes := [("lfp_pipe", .object
          ((metadataRoot decoded.attributes).set "config_toml" (.string configTOML)))] } := by
  rw [putServicePrincipalConfig, exec_bind, exec_ownedPrincipal_state] at h ⊢
  cases howned : (exec (apply alloc) s (ownedPrincipal float checked credentials id)).2 with
  | error message =>
    rw [howned] at h
    cases h
  | ok owned =>
    obtain ⟨user, metadata⟩ := owned
    obtain ⟨session, pk, stored, -, hpk, hstored, hdecoded, -, -⟩ := ownedPrincipal_eq_ok howned
    rw [howned] at h
    dsimp only at h ⊢
    cases body with
    | none => cases h
    | some document =>
      dsimp only at h ⊢
      split at h
      · cases h
      · rename_i hdocument
        rw [if_neg hdocument]
        have huserPK : user.pk = pk := by
          rw [pk_decode hdecoded]
          exact beq_iff_eq.mp (List.find?_some (p := fun user : User => user.pk == pk) hstored)
        have hany : s.users.any (·.pk == pk) = true := by
          rw [List.any_eq_true]
          exact ⟨stored, List.mem_of_find?_eq_some hstored,
            List.find?_some (p := fun user : User => user.pk == pk) hstored⟩
        rw [Program.send_bind, exec, apply, huserPK, if_pos hany] at h ⊢
        cases h
        exact ⟨pk, stored, user, hpk, hstored, hdecoded, userAt_map_attributes hstored⟩

/-- The attributes are as before, except that the document in the table of the
metadata is the new one. -/
def SavesOnly (configTOML : String) (before after : Fields) : Prop :=
  (∀ key, key ≠ "lfp_pipe" → after.lookup key = before.lookup key) ∧
    ∃ root, after.lookup "lfp_pipe" = some (.object root) ∧
      ∀ field, root.lookup field =
        if field = "config_toml" then some (.string configTOML)
        else (metadataRoot before).lookup field

/-- The table of the metadata is the only attribute, and its other fields
hold no number that the conversion changes. -/
def Writable (float : FloatReader) (attributes : Fields) : Prop :=
  (∀ key, key ≠ "lfp_pipe" → attributes.lookup key = none) ∧
    ∀ field value, field ≠ "config_toml" → (metadataRoot attributes).lookup field = some value →
      value.recode float = some value

/-- What is written back agrees with the attributes exactly when these are writable. -/
theorem savesOnly_iff {before decoded : Fields} (configTOML : String)
    (hdecoded : recodeFields float before = some decoded) :
    SavesOnly configTOML before
        [("lfp_pipe", .object ((metadataRoot decoded).set "config_toml" (.string configTOML)))] ↔
      Writable float before := by
  have hroot := lookup_recodeFields (metadataRoot_recode hdecoded)
  have htop : ∀ key, key ≠ "lfp_pipe" → List.lookup key [("lfp_pipe", Json.object
      ((metadataRoot decoded).set "config_toml" (.string configTOML)))] = none := by
    intro key hkey
    rw [List.lookup_cons, beq_eq_false_iff_ne.mpr hkey]
    rfl
  constructor
  · intro h
    refine ⟨fun key hkey => (h.1 key hkey).symm.trans (htop key hkey), ?_⟩
    intro field value hfield hvalue
    obtain ⟨root, hlookup, hfields⟩ := h.2
    rw [List.lookup_cons, beq_self_eq_true] at hlookup
    cases hlookup
    have hsaved := hfields field
    rw [lookup_set, if_neg hfield, if_neg hfield, hroot, hvalue] at hsaved
    exact hsaved
  · intro h
    refine ⟨fun key hkey => (htop key hkey).trans (h.1 key hkey).symm, _, rfl, ?_⟩
    intro field
    rw [lookup_set]
    by_cases hfield : field = "config_toml"
    · rw [if_pos hfield, if_pos hfield]
    · rw [if_neg hfield, if_neg hfield, hroot]
      cases hvalue : (metadataRoot before).lookup field with
      | none => rfl
      | some value => exact h.2 field value hfield hvalue

/-- After an answer of status 200 only the configuration has changed, exactly
when the metadata was the user's only attribute and holds no number that the
conversion changes. -/
theorem saving_changes_config_only_iff {s : Authentik} {body : Option String} {registry : Registry}
    {configTOML : String} {pk : ℤ} {stored : User}
    (h : (exec (apply alloc) s
      (putServicePrincipalConfig float checked credentials id body registry)).2.2.2 =
        .ok configTOML)
    (hpk : principalID id = some pk) (hstored : userAt s pk = some stored) :
    (∃ saved, userAt (exec (apply alloc) s
        (putServicePrincipalConfig float checked credentials id body registry)).1 pk = some saved ∧
        SavesOnly configTOML stored.attributes saved.attributes) ↔
      Writable float stored.attributes := by
  obtain ⟨found, user, decoded, hfound, huser, hdecoded, hsaved⟩ :=
    putServicePrincipalConfig_eq_ok h
  rw [hpk] at hfound
  cases hfound
  rw [hstored] at huser
  cases huser
  obtain ⟨attributes, hattributes, rfl⟩ := decodeUser_eq_ok hdecoded
  rw [hsaved, ← savesOnly_iff configTOML hattributes]
  constructor
  · intro hsome
    obtain ⟨saved, hsaved, honly⟩ := hsome
    cases hsaved
    exact honly
  · intro honly
    exact ⟨_, rfl, honly⟩

end

/-- Credentials of a signed-in owner. -/
def ownerCredentials (owner : String) : Credentials where
  authorization := ""
  cookie := .ok
    { subject := owner, name := owner, email := "", entitlements := [], expiresUnix := 1700003600,
      username := owner }

/-- A principal that has nothing but its metadata is saved as promised. -/
theorem saving_changes_config_only_plain :
    ∃ saved, userAt (exec (apply countingAllocator)
        (withUsers [account 1 "web" (managedAttributes "ann" "old")])
        (putServicePrincipalConfig exactReader 1700000000000000000 (ownerCredentials "ann") "1"
          (some "[defaults]") newDeviceRegistry)).1 1 = some saved ∧
      SavesOnly "[defaults]" (managedAttributes "ann" "old") saved.attributes := by
  have hanswer : (exec (apply countingAllocator)
      (withUsers [account 1 "web" (managedAttributes "ann" "old")])
      (putServicePrincipalConfig exactReader 1700000000000000000 (ownerCredentials "ann") "1"
        (some "[defaults]") newDeviceRegistry)).2.2.2 = .ok "[defaults]" := by rfl
  have hpk : principalID "1" = some 1 := by decide +kernel
  have hstored : userAt (withUsers [account 1 "web" (managedAttributes "ann" "old")]) 1 =
      some (account 1 "web" (managedAttributes "ann" "old")) := rfl
  refine (saving_changes_config_only_iff hanswer hpk hstored).mpr ⟨?_, ?_⟩
  · intro key hkey
    rw [account, managedAttributes, List.lookup_cons, beq_eq_false_iff_ne.mpr hkey]
    rfl
  · intro field value hfield hvalue
    have hroot : metadataRoot (account 1 "web" (managedAttributes "ann" "old")).attributes =
        [("managed", .bool true), ("owner_subject", .string "ann"),
          ("config_toml", .string "old")] :=
      rfl
    rw [hroot, List.lookup_cons] at hvalue
    split at hvalue
    · cases hvalue
      rfl
    · rw [List.lookup_cons] at hvalue
      split at hvalue
      · cases hvalue
        rfl
      · rw [List.lookup_cons, beq_eq_false_iff_ne.mpr hfield] at hvalue
        cases hvalue

/-- A principal that another program has given an attribute loses it. -/
theorem saving_loses_other_attribute :
    ¬ ∃ saved, userAt (exec (apply countingAllocator)
        (withUsers
          [account 1 "web" (("department", .string "ops") :: managedAttributes "ann" "old")])
        (putServicePrincipalConfig exactReader 1700000000000000000 (ownerCredentials "ann") "1"
          (some "[defaults]") newDeviceRegistry)).1 1 = some saved ∧
      SavesOnly "[defaults]" (("department", .string "ops") :: managedAttributes "ann" "old")
        saved.attributes := by
  intro h
  obtain ⟨saved, hsaved, honly⟩ := h
  have hattributes : saved.attributes.lookup "department" = none := by
    cases hsaved
    rfl
  have hkept := honly.1 "department" (by decide)
  rw [hattributes] at hkept
  cases hkept

end LfpPipe.StoredConfigurations
