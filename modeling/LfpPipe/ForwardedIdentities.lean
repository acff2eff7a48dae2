import LfpPipe.PreparedRequests

/-!
# Verified users as header values

An identity is read from verified claims, and its texts become header values.
Reading it refuses line breaks only, while a header value holds no control
character but tab, so some users can log in but not be forwarded. Groups are joined
by a comma or a bar, which a group name may contain itself; the backend then reads
other groups than those that were verified.
-/

namespace LfpPipe.ForwardedIdentities

open RustText Fallible SharedConfig ClientIdentity HttpMessages ClientProxy PreparedRequests

/-- A text that may stand in a header value. -/
def HeaderText (text : String) : Prop := ∀ c ∈ text.toList, HeaderChar c

/-- A join of texts may stand in a value exactly when the texts may. -/
theorem headerText_intercalate {separator : String} (hseparator : HeaderText separator)
    (pieces : List String) :
    HeaderText (String.intercalate separator pieces) ↔ ∀ piece ∈ pieces, HeaderText piece := by
  induction pieces with
  | nil =>
    rw [String.intercalate_nil]
    exact iff_of_true (fun c hc => absurd hc List.not_mem_nil)
      (fun piece hm => absurd hm List.not_mem_nil)
  | cons piece rest ih =>
    cases rest with
    | nil => rw [String.intercalate_singleton, List.forall_mem_singleton]
    | cons next rest =>
      rw [String.intercalate_cons_cons, List.forall_mem_cons, ← ih, HeaderText,
        String.toList_append, String.toList_append, List.forall_mem_append,
        List.forall_mem_append]
      constructor
      · intro h
        exact ⟨h.1.1, h.2⟩
      · intro h
        exact ⟨⟨h.1, hseparator⟩, h.2⟩

/-- An identity whose texts may stand in header values. -/
structure ForwardableIdentity (identity : AuthenticatedIdentity) : Prop where
  /-- The subject. -/
  subject : HeaderText identity.subject
  /-- The login name. -/
  username : HeaderText identity.username
  /-- The display name. -/
  name : ∀ name, identity.name = some name → HeaderText name
  /-- The mail address. -/
  email : ∀ email, identity.email = some email → HeaderText email
  /-- The groups. -/
  groups : ∀ group ∈ identity.groups, HeaderText group

/-- The separators of group names may stand in values. -/
theorem headerText_separators : HeaderText "," ∧ HeaderText "|" :=
  ⟨List.forall_mem_singleton.mpr (.inl ⟨by decide, by decide⟩),
    List.forall_mem_singleton.mpr (.inl ⟨by decide, by decide⟩)⟩

/-- The headers of an identity may stand in values exactly when its texts may. -/
theorem headerText_identityHeaders {identity : AuthenticatedIdentity} :
    (∀ field ∈ identityHeaders identity, HeaderText field.2) ↔ ForwardableIdentity identity := by
  obtain ⟨subject, username, name, email, groups, expiresUnix⟩ := identity
  have hgroups : (∀ field ∈ (if groups.isEmpty then []
      else [("x-forwarded-groups", String.intercalate "," groups),
        ("x-auth-request-groups", String.intercalate "," groups),
        ("x-authentik-groups", String.intercalate "|" groups)]),
      HeaderText (Prod.snd (α := String) field)) ↔ ∀ group ∈ groups, HeaderText group := by
    have hcomma := headerText_intercalate headerText_separators.1 groups
    have hbar := headerText_intercalate headerText_separators.2 groups
    cases groups with
    | nil =>
      refine iff_of_true ?_ ?_
      · exact fun field hm => absurd hm List.not_mem_nil
      · exact fun group hm => absurd hm List.not_mem_nil
    | cons group rest =>
      rw [List.isEmpty_cons, if_neg Bool.false_ne_true, List.forall_mem_cons, List.forall_mem_cons,
        List.forall_mem_singleton]
      constructor
      · intro h
        exact hcomma.mp h.1
      · intro h
        exact ⟨hcomma.mpr h, hcomma.mpr h, hbar.mpr h⟩
  rw [identityHeaders, List.forall_mem_append, List.forall_mem_append]
  refine (and_congr (and_congr Iff.rfl (?hemail : _ ↔ ∀ text, email = some text →
    HeaderText text)) hgroups).trans ?_
  case hemail =>
    cases email with
    | none =>
      refine iff_of_true ?_ ?_
      · exact fun field hm => absurd hm List.not_mem_nil
      · intro text htext
        cases htext
    | some email =>
      rw [List.forall_mem_cons, List.forall_mem_cons, List.forall_mem_singleton]
      constructor
      · intro h text htext
        cases htext
        exact h.1
      · intro h
        exact ⟨h email rfl, h email rfl, h email rfl⟩
  have hnone : (∀ field : String × String, field ∈ [] → HeaderText field.2) ↔ True :=
    iff_true_intro (List.forall_mem_nil _)
  simp only [List.forall_mem_cons, hnone, and_true]
  constructor
  · intro h
    obtain ⟨⟨⟨husername, -, -, hsubject, -, hname⟩, hmail⟩, hall⟩ := h
    refine ⟨hsubject, husername, ?_, hmail, hall⟩
    intro text htext
    dsimp only at htext
    rw [htext] at hname
    exact hname
  · intro h
    refine ⟨⟨⟨h.username, h.username, h.username, h.subject, h.username, ?_⟩, h.email⟩, h.groups⟩
    cases name with
    | none => exact h.username
    | some text => exact h.name text rfl

/-- The group names that claims carry: those of the role claim, or else those of
the groups claim. -/
inductive GroupText (claims : Value) (rolesClaim : String) : String → Prop where
  | role {roles : List String} {text : String} (hroles : claimStrings claims rolesClaim = .ok roles)
      (hmem : text ∈ roles) : GroupText claims rolesClaim text
  | group {error : AnyError} {value : Value} {groups : List String} {text : String}
      (hroles : claimStrings claims rolesClaim = .error error)
      (hvalue : claims.get "groups" = some value) (hgroups : claimValueStrings value = .ok groups)
      (hmem : text ∈ groups) : GroupText claims rolesClaim text

/-- The groups that are read are those of the claims. -/
theorem mem_identityGroups {claims : Value} {rolesClaim : String} {unsorted : List String}
    (h : identityGroups claims rolesClaim = .ok unsorted) (text : String) :
    text ∈ unsorted ↔ GroupText claims rolesClaim text := by
  rw [identityGroups] at h
  constructor
  · intro hmem
    cases hroles : claimStrings claims rolesClaim with
    | ok roles =>
      rw [hroles] at h
      cases h
      exact .role hroles hmem
    | error error =>
      rw [hroles] at h
      dsimp only at h
      cases hvalue : claims.get "groups" with
      | none =>
        rw [hvalue] at h
        cases h
        cases hmem
      | some value =>
        rw [hvalue] at h
        exact .group hroles hvalue h hmem
  · intro hgroup
    cases hgroup with
    | role hroles hmem =>
      rw [hroles] at h
      cases h
      exact hmem
    | group hroles hvalue hgroups hmem =>
      rw [hroles, hvalue] at h
      dsimp only at h
      rw [hgroups] at h
      cases h
      exact hmem

/-- What an identity says, in terms of the claims. -/
structure ReadFrom (claims : Value) (rolesClaim : String) (identity : AuthenticatedIdentity) :
    Prop where
  /-- The subject is the string claim. -/
  subject : (claims.get "sub").bind Value.asStr = some identity.subject
  /-- The display name is the string claim, if any. -/
  name : (claims.get "name").bind Value.asStr = identity.name
  /-- The mail address is the string claim, if any. -/
  email : (claims.get "email").bind Value.asStr = identity.email
  /-- The login name is the preferred one, or else the first other name there is. -/
  username : identity.username =
    (((claims.get "preferred_username").bind Value.asStr).or
      (identity.name.or identity.email)).getD identity.subject
  /-- The groups are those of the claims. -/
  groups : ∀ text, text ∈ identity.groups ↔ GroupText claims rolesClaim text

/-- An identity is read from its claims. -/
theorem readFrom_of_identityFromClaims {claims : Value} {rolesClaim : String}
    {identity : AuthenticatedIdentity} (h : identityFromClaims claims rolesClaim = .ok identity) :
    ReadFrom claims rolesClaim identity := by
  rw [identityFromClaims, bind_eq_ok] at h
  obtain ⟨subject, hsubject, h⟩ := h
  obtain ⟨unsorted, hunsorted, h⟩ := bind_eq_ok.mp h
  obtain ⟨_, -, h⟩ := bind_eq_ok.mp h
  cases h
  refine ⟨orMissing_eq_ok.mp hsubject, rfl, rfl, ?_, ?_⟩
  · dsimp only
    rw [List.findSome?_cons, List.findSome?_cons, List.findSome?_nil]
    cases (claims.get "preferred_username").bind Value.asStr with
    | some preferred => rfl
    | none =>
      cases (claims.get "name").bind Value.asStr with
      | some name => rfl
      | none => rfl
  · intro text
    rw [List.mem_mergeSort]
    exact mem_identityGroups hunsorted text

/-- Claims whose forwarded texts may stand in header values. -/
structure ForwardableClaims (claims : Value) (rolesClaim : String) : Prop where
  /-- The names and the mail address. -/
  names : ∀ key ∈ ["sub", "preferred_username", "name", "email"], ∀ text,
    (claims.get key).bind Value.asStr = some text → HeaderText text
  /-- The groups. -/
  groups : ∀ text, GroupText claims rolesClaim text → HeaderText text

/-- An identity can be forwarded exactly when the claims it was read from can. -/
theorem forwardableIdentity_iff {claims : Value} {rolesClaim : String}
    {identity : AuthenticatedIdentity} (h : ReadFrom claims rolesClaim identity) :
    ForwardableIdentity identity ↔ ForwardableClaims claims rolesClaim := by
  constructor
  · intro hforwardable
    refine ⟨?_, ?_⟩
    · intro key hkey text htext
      rw [List.mem_cons, List.mem_cons, List.mem_cons, List.mem_singleton] at hkey
      rcases hkey with rfl | rfl | rfl | rfl
      · rw [h.subject, Option.some.injEq] at htext
        exact htext ▸ hforwardable.subject
      · have husername := h.username
        rw [htext, Option.some_or, Option.getD_some] at husername
        exact husername ▸ hforwardable.username
      · exact hforwardable.name text (h.name ▸ htext)
      · exact hforwardable.email text (h.email ▸ htext)
    · intro text htext
      exact hforwardable.groups text ((h.groups text).mpr htext)
  · intro hforwardable
    have hsubject : HeaderText identity.subject :=
      hforwardable.names "sub" (by decide) identity.subject h.subject
    have hname : ∀ name, identity.name = some name → HeaderText name :=
      fun name hname => hforwardable.names "name" (by decide) name (h.name.trans hname)
    have hemail : ∀ email, identity.email = some email → HeaderText email :=
      fun email hemail => hforwardable.names "email" (by decide) email (h.email.trans hemail)
    refine ⟨hsubject, ?_, hname, hemail, ?_⟩
    · rw [h.username]
      cases hpreferred : (claims.get "preferred_username").bind Value.asStr with
      | some preferred =>
        exact hforwardable.names "preferred_username" (by decide) preferred hpreferred
      | none =>
        cases hn : identity.name with
        | some name => exact hname name hn
        | none =>
          cases he : identity.email with
          | some email => exact hemail email he
          | none => exact hsubject
    · intro group hgroup
      exact hforwardable.groups group ((h.groups group).mp hgroup)

/-- A request whose preparation fails for no other reason than its identity. -/
structure Forwardable (request : Request) (rule : BackendRule) (clientIp : Option String)
    (scheme : String) : Prop where
  /-- The request names its host. -/
  host : ∃ host, request.headers.get "host" = some host
  /-- The backend sees that host. -/
  keepsHost : rule.backendHost = none
  /-- The backend sees the whole path. -/
  keepsPath : rule.stripPathPrefix = false
  /-- The address of the caller can be forwarded. -/
  clientIp : ∀ ip, clientIp = some ip → HeaderText ip
  /-- The scheme can be forwarded. -/
  scheme : HeaderText scheme

/-- The headers of the connection can be set. -/
theorem succeeds_proxyHeaders {request : Request} {rule : BackendRule} {clientIp : Option String}
    {scheme : String} (h : Forwardable request rule clientIp scheme) (headers : HeaderMap)
    (originalHost : HeaderValue) :
    Succeeds (proxyHeaders rule headers clientIp scheme originalHost) := by
  rw [proxyHeaders]
  cases rule.proxyHeaders with
  | false => exact succeeds_ok headers
  | true =>
    rw [if_pos rfl, setForwardingHeaders, succeeds_bind]
    have haddress : Succeeds (setHeaders (removeAll headers FORWARDING_HEADERS)
        ((clientIp.filter fun value => !isBlank value).toList.map
          fun value => ("x-forwarded-for", value))) := by
      rw [succeeds_setHeaders]
      intro field hm
      obtain ⟨ip, hip, rfl⟩ := List.mem_map.mp hm
      exact h.clientIp ip (Option.eq_some_of_filter_eq_some (Option.mem_toList.mp hip))
    obtain ⟨addressed, haddressed⟩ := haddress
    refine ⟨addressed, haddressed, ?_⟩
    rw [succeeds_bind]
    have hproto : fromStr scheme = some (utf8 scheme) := fromStr_eq_some_iff.mpr ⟨h.scheme, rfl⟩
    exact ⟨utf8 scheme, orMissing_eq_ok.mpr hproto, succeeds_ok _⟩

/-- A request can be prepared exactly when the identity can be forwarded. -/
theorem succeeds_prepareRequest {request : Request} {rule : BackendRule} {clientIp : Option String}
    {scheme : String} (h : Forwardable request rule clientIp scheme)
    (identity : AuthenticatedIdentity) :
    Succeeds (prepareRequest request rule clientIp scheme (some identity)) ↔
      ForwardableIdentity identity := by
  obtain ⟨host, hhost⟩ := h.host
  have huri : backendUri rule request.uri = .ok request.uri := by
    rw [backendUri, h.keepsPath]
    rfl
  have hset : ForwardableIdentity identity ↔ Succeeds (setHeaders
      (removeAll request.headers IDENTITY_HEADERS) (identityHeaders identity)) := by
    rw [succeeds_setHeaders, ← headerText_identityHeaders]
    exact Iff.rfl
  rw [hset, prepareRequest, hhost, succeeds_bind]
  constructor
  · intro hprepared
    obtain ⟨_, -, hprepared⟩ := hprepared
    obtain ⟨identified, hidentified, -⟩ := succeeds_bind.mp hprepared
    exact ⟨identified, hidentified⟩
  · intro hidentified
    obtain ⟨identified, hidentified⟩ := hidentified
    refine ⟨host, rfl, ?_⟩
    rw [succeeds_bind]
    refine ⟨identified, hidentified, ?_⟩
    rw [huri, succeeds_bind]
    refine ⟨request.uri, rfl, ?_⟩
    obtain ⟨proxied, hproxied⟩ := succeeds_proxyHeaders h identified host
    rw [hproxied, succeeds_bind]
    refine ⟨proxied, rfl, ?_⟩
    rw [backendHostHeader, h.keepsHost, succeeds_bind]
    exact ⟨proxied, rfl, succeeds_ok _⟩

/-- A verified user can be forwarded exactly when all texts of the claims that are
forwarded may stand in header values. -/
theorem verified_user_forwarded_iff {claims : Value} {rolesClaim : String}
    {identity : AuthenticatedIdentity} {request : Request} {rule : BackendRule}
    {clientIp : Option String} {scheme : String}
    (hidentity : identityFromClaims claims rolesClaim = .ok identity)
    (hrequest : Forwardable request rule clientIp scheme) :
    Succeeds (prepareRequest request rule clientIp scheme (some identity)) ↔
      ForwardableClaims claims rolesClaim := by
  rw [succeeds_prepareRequest hrequest,
    forwardableIdentity_iff (readFrom_of_identityFromClaims hidentity)]

/-- A plain request of an application. -/
def plainRequest : Request :=
  ⟨"GET", ⟨"/", none⟩, HeaderMap.empty.insert "host" (ascii "app.example.com")⟩

/-- A rule that forwards requests as they are. -/
def plainRule : BackendRule :=
  ⟨"app.example.com", none, false, false, "127.0.0.1:8080", none, none, none⟩

/-- The plain request can be forwarded by the plain rule. -/
theorem forwardable_plain : Forwardable plainRequest plainRule none "https" := by
  have hscheme : fromStr "https" = some (utf8 "https") := by decide
  refine ⟨⟨ascii "app.example.com", rfl⟩, rfl, rfl, ?_, (fromStr_eq_some_iff.mp hscheme).1⟩
  intro ip hip
  cases hip

/-- A user that has only a subject is forwarded. -/
theorem verified_user_forwarded_subject :
    Succeeds (prepareRequest plainRequest plainRule none "https"
      (some ⟨"u1", "u1", none, none, [], 0⟩)) ↔
      ForwardableClaims (.object [("sub", .string "u1")]) "roles" := by
  have hidentity : identityFromClaims (.object [("sub", .string "u1")]) "roles" =
      .ok ⟨"u1", "u1", none, none, [], 0⟩ := by
    have hgroups : identityGroups (.object [("sub", .string "u1")]) "roles" = .ok [] := by decide
    simp only [identityFromClaims, hgroups, List.mergeSort_nil, Bind.bind, Except.bind]
    decide
  exact verified_user_forwarded_iff hidentity forwardable_plain

/-- A user whose display name has a control character can log in but is not forwarded. -/
theorem control_character_not_forwarded :
    ¬ ∀ (claims : Value) (rolesClaim : String) (identity : AuthenticatedIdentity)
      (request : Request) (rule : BackendRule) (clientIp : Option String) (scheme : String),
      identityFromClaims claims rolesClaim = .ok identity →
      Forwardable request rule clientIp scheme →
      Succeeds (prepareRequest request rule clientIp scheme (some identity)) := by
  intro h
  have hidentity : identityFromClaims
      (.object [("sub", .string "u1"), ("name", .string "Ann\x07")]) "roles" =
      .ok ⟨"u1", "Ann\x07", some "Ann\x07", none, [], 0⟩ := by
    have hgroups : identityGroups
        (.object [("sub", .string "u1"), ("name", .string "Ann\x07")]) "roles" = .ok [] := by decide
    simp only [identityFromClaims, hgroups, List.mergeSort_nil, Bind.bind, Except.bind]
    decide
  obtain ⟨prepared, hprepared⟩ := h _ _ _ _ _ _ _ hidentity forwardable_plain
  have hfails : prepareRequest plainRequest plainRule none "https"
      (some ⟨"u1", "Ann\x07", some "Ann\x07", none, [], 0⟩) =
      .error ["invalid x-forwarded-user value"] := rfl
  rw [hfails] at hprepared
  cases hprepared

/-- The headers that carry group names, with the separator of the names. -/
def groupHeaders : List (String × Char) :=
  [("x-forwarded-groups", ','), ("x-auth-request-groups", ','), ("x-authentik-groups", '|')]

/-- A header with one value, which a backend splits into the pieces. -/
def ReadsAs (headers : HeaderMap) (name : String) (separator : Char) (pieces : List String) :
    Prop :=
  ∃ value text, headers.getAll name = [value] ∧ fromUtf8 value = some text ∧
    split separator text = pieces

/-- Every group header is read as the groups. -/
def DenotesGroups (headers : HeaderMap) (groups : List String) : Prop :=
  ∀ header ∈ groupHeaders, ReadsAs headers header.1 header.2 groups

/-- A group header is set to the join of the groups, and to nothing else. -/
theorem groupHeader_text {identity : AuthenticatedIdentity} (hgroups : identity.groups ≠ [])
    {header : String × Char} (hheader : header ∈ groupHeaders) :
    header.1 ∈ (identityHeaders identity).map Prod.fst ∧
      ∀ text, (header.1, text) ∈ identityHeaders identity →
        text = String.intercalate (String.singleton header.2) identity.groups := by
  have hfilled : identity.groups.isEmpty = false := by
    rw [Bool.eq_false_iff, Ne, List.isEmpty_iff]
    exact hgroups
  have hcomma : String.singleton ',' = "," := rfl
  have hbar : String.singleton '|' = "|" := rfl
  simp only [groupHeaders, List.mem_cons, List.not_mem_nil, or_false] at hheader
  cases hemail : identity.email with
  | none =>
    rcases hheader with rfl | rfl | rfl <;>
      simp [identityHeaders, hemail, hfilled, hcomma, hbar]
  | some email =>
    rcases hheader with rfl | rfl | rfl <;>
      simp [identityHeaders, hemail, hfilled, hcomma, hbar]

/-- Group headers are identity headers. -/
theorem groupHeaders_identity {header : String × Char} (h : header ∈ groupHeaders) :
    header.1 ∈ IDENTITY_HEADERS := by
  revert header
  decide

/-- A group header is read as the groups exactly when no group contains its separator. -/
theorem readsAs_iff {request prepared : Request} {rule : BackendRule} {clientIp : Option String}
    {scheme : String} {identity : AuthenticatedIdentity} (hgroups : identity.groups ≠ [])
    (hprepared : prepareRequest request rule clientIp scheme (some identity) = .ok prepared)
    {header : String × Char} (hheader : header ∈ groupHeaders) :
    ReadsAs prepared.headers header.1 header.2 identity.groups ↔
      ∀ group ∈ identity.groups, header.2 ∉ group.toList := by
  obtain ⟨identified, hidentified, hother⟩ := prepareRequest_other hprepared
  obtain ⟨hforwarding, hencoding, hhost⟩ := identityHeader_other (groupHeaders_identity hheader)
  obtain ⟨hname, honly⟩ := groupHeader_text hgroups hheader
  obtain ⟨text, value, htext, hvalue, hset⟩ := setHeaders_named hidentified hname
  rw [← split_intercalate_iff hgroups, ← honly text htext, ReadsAs,
    hother header.1 hforwarding hencoding hhost, hset]
  constructor
  · intro h
    obtain ⟨read, readText, hread, hreadText, hsplit⟩ := h
    cases hread
    rw [fromUtf8_of_fromStr hvalue] at hreadText
    cases hreadText
    exact hsplit
  · intro h
    exact ⟨value, text, rfl, fromUtf8_of_fromStr hvalue, h⟩

/-- The forwarded group headers denote the verified groups exactly when no group of the
claims contains a comma or a bar. -/
theorem forwarded_groups_denote_iff {claims : Value} {rolesClaim : String}
    {identity : AuthenticatedIdentity} {request prepared : Request} {rule : BackendRule}
    {clientIp : Option String} {scheme : String}
    (hidentity : identityFromClaims claims rolesClaim = .ok identity)
    (hgroups : identity.groups ≠ [])
    (hprepared : prepareRequest request rule clientIp scheme (some identity) = .ok prepared) :
    DenotesGroups prepared.headers identity.groups ↔
      ∀ text, GroupText claims rolesClaim text → ',' ∉ text.toList ∧ '|' ∉ text.toList := by
  have hread := readFrom_of_identityFromClaims hidentity
  constructor
  · intro h text htext
    have hmem := (hread.groups text).mpr htext
    have hcomma : ("x-forwarded-groups", ',') ∈ groupHeaders := by decide
    have hbar : ("x-authentik-groups", '|') ∈ groupHeaders := by decide
    exact ⟨(readsAs_iff hgroups hprepared hcomma).mp (h _ hcomma) text hmem,
      (readsAs_iff hgroups hprepared hbar).mp (h _ hbar) text hmem⟩
  · intro h header hheader
    rw [readsAs_iff hgroups hprepared hheader]
    intro group hgroup
    obtain ⟨hcomma, hbar⟩ := h group ((hread.groups group).mp hgroup)
    have hseparator : header.2 = ',' ∨ header.2 = '|' := by
      revert header
      decide
    rcases hseparator with heq | heq
    · rw [heq]
      exact hcomma
    · rw [heq]
      exact hbar

/-- Claims of a user with one group. -/
def oneGroupClaims (group : String) : Value :=
  .object [("sub", .string "u1"), ("groups", .array [.string group])]

/-- The identity of a user with one group. -/
def oneGroupIdentity (group : String) : AuthenticatedIdentity :=
  ⟨"u1", "u1", none, none, [group], 0⟩

/-- Groups without separators are denoted. -/
theorem forwarded_groups_denote_plain :
    ∃ prepared, prepareRequest plainRequest plainRule none "https"
      (some (oneGroupIdentity "ops")) = .ok prepared ∧
      (DenotesGroups prepared.headers ["ops"] ↔ ∀ text,
        GroupText (oneGroupClaims "ops") "roles" text →
          ',' ∉ text.toList ∧ '|' ∉ text.toList) := by
  have hidentity : identityFromClaims (oneGroupClaims "ops") "roles" =
      .ok (oneGroupIdentity "ops") := by
    have hgroups : identityGroups (oneGroupClaims "ops") "roles" = .ok ["ops"] := by decide
    simp only [identityFromClaims, hgroups, List.mergeSort_singleton, Bind.bind, Except.bind]
    decide
  have hprepared : ∃ prepared, prepareRequest plainRequest plainRule none "https"
      (some (oneGroupIdentity "ops")) = .ok prepared := ⟨_, rfl⟩
  obtain ⟨prepared, hprepared⟩ := hprepared
  exact ⟨prepared, hprepared,
    forwarded_groups_denote_iff hidentity (List.cons_ne_nil "ops" []) hprepared⟩

/-- A group whose name contains a comma is read as two groups. -/
theorem group_with_comma_split :
    ¬ ∀ (claims : Value) (rolesClaim : String) (identity : AuthenticatedIdentity)
      (request prepared : Request) (rule : BackendRule) (clientIp : Option String)
      (scheme : String), identityFromClaims claims rolesClaim = .ok identity →
      identity.groups ≠ [] →
      prepareRequest request rule clientIp scheme (some identity) = .ok prepared →
      DenotesGroups prepared.headers identity.groups := by
  intro h
  have hidentity : identityFromClaims (oneGroupClaims "guests,admin") "roles" =
      .ok (oneGroupIdentity "guests,admin") := by
    have hgroups : identityGroups (oneGroupClaims "guests,admin") "roles" =
        .ok ["guests,admin"] := by decide
    simp only [identityFromClaims, hgroups, List.mergeSort_singleton, Bind.bind, Except.bind]
    decide
  have hdenotes := h _ _ _ plainRequest _ plainRule none "https" hidentity
    (List.cons_ne_nil "guests,admin" []) rfl
  obtain ⟨value, text, hvalue, htext, hsplit⟩ := hdenotes ("x-forwarded-groups", ',') (by decide)
  have hset : value = utf8 "guests,admin" := (List.singleton_inj.mp hvalue).symm
  have hjoined : fromUtf8 (utf8 "guests,admin") = some "guests,admin" := fromUtf8_utf8 _
  rw [hset, hjoined] at htext
  cases htext
  have hread : split ',' "guests,admin" = ["guests", "admin"] := by decide
  rw [hread] at hsplit
  have hother : ["guests", "admin"] ≠ ["guests,admin"] := by decide
  exact hother hsplit

end LfpPipe.ForwardedIdentities
