import LfpPipe.SubjectAgreement
import LfpPipe.SubjectPatterns
import LfpPipe.TunnelTickets

/-!
# Isolation of tunnel credentials

A permission is a subject of dot-separated tokens in which a star stands for
one token and a final greater-than sign for one or more. Two tickets for
different routes never share a request subject, whatever the prefix. Their
inboxes are another matter: the inbox token is the client identifier, which
its holder chooses, so the grants are disjoint exactly when the identifiers
differ and no request subject lies in the other's inbox.
-/

namespace LfpPipe.TenantIsolation

open RustText GoText RouteAuth SubjectRouting SubjectAgreement SubjectPatterns TunnelTickets

/-- A token that can occur in a published subject. -/
def publishable (token : String) : Bool :=
  token != "" && token != "*" && token != ">" &&
    !containsAny token [' ', '\t', '\n', '\r', '\x0c']

/-- Tokens of published subjects. -/
abbrev Token := {token : String // publishable token = true}

instance : Inhabited Token := ⟨⟨"x", by decide⟩⟩

/-- Read the tokens of a permission; an open wildcard stands only at the end. -/
def parsePattern : List String → Option (Pattern Token)
  | [] => some .done
  | token :: tokens =>
    if token == ">" then if tokens.isEmpty then some .rest else none
    else if token == "*" then (parsePattern tokens).map .one
    else if h : publishable token = true then (parsePattern tokens).map (.literal ⟨token, h⟩)
    else none

/-- The patterns of a list of permissions; a malformed one permits nothing. -/
def permitted (permissions : List String) : Set (Pattern Token) :=
  {p | ∃ permission ∈ permissions, parsePattern (split '.' permission) = some p}

/-- The published subjects that a user may receive. -/
def subscribable (user : UserClaims) : Set (List Token) :=
  {s | ∃ p ∈ permitted user.subAllow, p.Matches s}

/-- The tokens of the request subject of a route. -/
def requestTokens (subjectPrefix route : String) : List String :=
  split '.' (trimSuffix subjectPrefix ".") ++ (split '.' route).reverse

/-- The request subject of a route lies in the inbox of a client: the prefix
is well formed and its first tokens stand for the inbox and the identifier. -/
def entersInbox (subjectPrefix route id : String) : Bool :=
  (parsePattern (requestTokens subjectPrefix route)).isSome &&
    ((requestTokens subjectPrefix route)[0]? == some "_LFP_INBOX" ||
      (requestTokens subjectPrefix route)[0]? == some "*") &&
    ((requestTokens subjectPrefix route)[1]? == some id ||
      (requestTokens subjectPrefix route)[1]? == some "*")

/-- Literal tokens are read as a literal pattern. -/
theorem parsePattern_literals (tokens : List Token) :
    parsePattern (tokens.map Subtype.val) = some (Pattern.literals tokens) := by
  induction tokens with
  | nil => rfl
  | cons token tokens ih =>
    have htoken := token.property
    rw [publishable, Bool.and_eq_true, Bool.and_eq_true, Bool.and_eq_true, bne_iff_ne, bne_iff_ne,
      bne_iff_ne] at htoken
    rw [List.map_cons, parsePattern, if_neg, if_neg, dif_pos token.property, ih]
    · rfl
    · rw [beq_iff_eq]
      exact htoken.1.1.2
    · rw [beq_iff_eq]
      exact htoken.1.2

/-- A token before others is a star or a literal; the rest is read after it. -/
theorem parsePattern_cons {token : String} {tokens : List String} {p : Pattern Token}
    (hne : tokens ≠ []) (hp : parsePattern (token :: tokens) = some p) :
    ∃ next, parsePattern tokens = some next ∧
      ((token = "*" ∧ p = .one next) ∨
        ∃ h : publishable token = true, p = .literal ⟨token, h⟩ next) := by
  rw [parsePattern, List.isEmpty_eq_false_iff.mpr hne] at hp
  split at hp
  · cases hp
  · split at hp
    · rename_i hstar
      obtain ⟨next, hnext, rfl⟩ := Option.map_eq_some_iff.mp hp
      exact ⟨next, hnext, Or.inl ⟨beq_iff_eq.mp hstar, rfl⟩⟩
    · split at hp
      · rename_i hvalid
        obtain ⟨next, hnext, rfl⟩ := Option.map_eq_some_iff.mp hp
        exact ⟨next, hnext, Or.inr ⟨hvalid, rfl⟩⟩
      · cases hp

/-- A star is not a literal token. -/
theorem star_not_publishable : ¬ publishable "*" = true := by decide

/-- After a common beginning two different literal endings never meet. -/
theorem common_not_overlaps {common : List String} {left right : List Token} {p q : Pattern Token}
    (hleft : left ≠ []) (hright : right ≠ []) (hne : left ≠ right)
    (hp : parsePattern (common ++ left.map Subtype.val) = some p)
    (hq : parsePattern (common ++ right.map Subtype.val) = some q) : p.overlaps q = false := by
  induction common generalizing p q with
  | nil =>
    rw [List.nil_append, parsePattern_literals] at hp hq
    rw [← Option.some.inj hp, ← Option.some.inj hq, Bool.eq_false_iff, Ne,
      Pattern.literals_overlaps_iff]
    exact hne
  | cons token common ih =>
    have hfollowed : ∀ tokens : List Token, tokens ≠ [] →
        common ++ tokens.map Subtype.val ≠ [] := by
      intro tokens htokens
      apply List.append_ne_nil_of_right_ne_nil
      rwa [Ne, List.map_eq_nil_iff]
    obtain ⟨p', hp', hpc⟩ := parsePattern_cons (hfollowed left hleft) hp
    obtain ⟨q', hq', hqc⟩ := parsePattern_cons (hfollowed right hright) hq
    have hrest := ih hp' hq'
    rcases hpc with ⟨hstar, rfl⟩ | ⟨hvalid, rfl⟩
    · rcases hqc with ⟨-, rfl⟩ | ⟨hvalid, -⟩
      · exact hrest
      · rw [hstar] at hvalid
        exact absurd hvalid star_not_publishable
    · rcases hqc with ⟨hstar, -⟩ | ⟨-, rfl⟩
      · rw [hstar] at hvalid
        exact absurd hvalid star_not_publishable
      · rw [Pattern.overlaps, hrest, Bool.and_false]

/-- The inbox namespace of a client. -/
def inboxPattern (id : Token) : Pattern Token :=
  .literal ⟨"_LFP_INBOX", by decide⟩ (.literal id .rest)

/-- The inbox permission is read as the inbox namespace. -/
theorem parsePattern_inbox (id : Token) (hdot : '.' ∉ id.val.toList) :
    parsePattern (split '.' ("_LFP_INBOX." ++ id.val ++ ".>")) = some (inboxPattern id) := by
  have htokens : split '.' ("_LFP_INBOX." ++ id.val ++ ".>") = ["_LFP_INBOX", id.val, ">"] := by
    have hjoin : "_LFP_INBOX." ++ id.val ++ ".>" =
        String.intercalate (String.singleton '.') ["_LFP_INBOX", id.val, ">"] := by
      apply String.toList_inj.mp
      simp
    rw [hjoin]
    apply split_intercalate (List.cons_ne_nil _ _)
    intro piece hpiece
    simp only [List.mem_cons, List.not_mem_nil, or_false] at hpiece
    rcases hpiece with rfl | rfl | rfl
    · decide
    · exact hdot
    · decide
  have hid := id.property
  rw [publishable, Bool.and_eq_true, Bool.and_eq_true, Bool.and_eq_true, bne_iff_ne, bne_iff_ne,
    bne_iff_ne] at hid
  rw [htokens, parsePattern, if_neg (by decide), if_neg (by decide), dif_pos (by decide),
    parsePattern, if_neg (fun h => hid.1.2 (beq_iff_eq.mp h)),
    if_neg (fun h => hid.1.1.2 (beq_iff_eq.mp h)), dif_pos id.property]
  rfl

/-- Two inboxes meet exactly when they are the same. -/
theorem inboxPattern_overlaps (left right : Token) :
    (inboxPattern left).overlaps (inboxPattern right) = true ↔ left = right := by
  simp only [inboxPattern, Pattern.overlaps, decide_true, Bool.true_and, Bool.and_true,
    decide_eq_true_eq]

/-- A token before others meets a literal exactly when it is that literal or a star. -/
theorem cons_overlaps_literal {token : String} {tokens : List String} {p : Pattern Token}
    (u : Token) (hne : tokens ≠ []) (hp : parsePattern (token :: tokens) = some p) :
    ∃ next, parsePattern tokens = some next ∧ ∀ q : Pattern Token,
      p.overlaps (.literal u q) = true ↔
        (token = u.val ∨ token = "*") ∧ next.overlaps q = true := by
  obtain ⟨next, hnext, hcases⟩ := parsePattern_cons hne hp
  refine ⟨next, hnext, ?_⟩
  intro q
  rcases hcases with ⟨hstar, rfl⟩ | ⟨hvalid, rfl⟩
  · rw [Pattern.overlaps]
    exact ⟨fun h => ⟨Or.inr hstar, h⟩, fun h => h.2⟩
  · have hnot : token ≠ "*" := by
      intro hstar
      rw [hstar] at hvalid
      exact star_not_publishable hvalid
    rw [Pattern.overlaps, Bool.and_eq_true, decide_eq_true_eq, Subtype.ext_iff]
    exact ⟨fun h => ⟨Or.inl h.1, h.2⟩, fun h => ⟨h.1.resolve_right hnot, h.2⟩⟩

/-- A pattern read from at least one token is not at its end. -/
theorem parsePattern_ne_done {token : String} {tokens : List String} {p : Pattern Token}
    (hp : parsePattern (token :: tokens) = some p) : p ≠ .done := by
  cases tokens with
  | nil =>
    rw [parsePattern] at hp
    intro hdone
    rw [hdone] at hp
    split at hp
    · cases hp
    · split at hp
      · cases hp
      · split at hp <;> cases hp
  | cons next tokens =>
    obtain ⟨q, -, hcases⟩ := parsePattern_cons (List.cons_ne_nil next tokens) hp
    rcases hcases with ⟨-, rfl⟩ | ⟨-, rfl⟩ <;> nofun

/-- A pattern of three tokens or more meets an inbox exactly when its first
two tokens stand for the inbox and the identifier. -/
theorem overlaps_inboxPattern {first second third : String} {tokens : List String}
    {p : Pattern Token} (id : Token)
    (hp : parsePattern (first :: second :: third :: tokens) = some p) :
    p.overlaps (inboxPattern id) = true ↔
      (first = "_LFP_INBOX" ∨ first = "*") ∧ (second = id.val ∨ second = "*") := by
  obtain ⟨p₁, hp₁, hfirst⟩ := cons_overlaps_literal ⟨"_LFP_INBOX", by decide⟩
    (List.cons_ne_nil _ _) hp
  obtain ⟨p₂, hp₂, hsecond⟩ := cons_overlaps_literal id (List.cons_ne_nil _ _) hp₁
  have hrest : p₂.overlaps .rest = true := by
    have hne := parsePattern_ne_done hp₂
    cases p₂ with
    | done => exact absurd rfl hne
    | rest => rfl
    | one next => rfl
    | literal token next => rfl
  rw [inboxPattern, hfirst, hsecond, hrest]
  exact ⟨fun h => ⟨h.1, h.2.1⟩, fun h => ⟨h.1, h.2, rfl⟩⟩

/-- Text without refused characters, not empty and not a wildcard, is publishable. -/
theorem publishable_of_chars {token : String} {allowed : Char → Prop} (hne : token ≠ "")
    (hchars : ∀ c ∈ token.toList, allowed c)
    (hrefused : ∀ c ∈ ['*', '>', ' ', '\t', '\n', '\r', '\x0c'], ¬ allowed c) :
    publishable token = true := by
  have hcontains : containsAny token [' ', '\t', '\n', '\r', '\x0c'] = false := by
    rw [containsAny, List.any_eq_false]
    intro c hc hmem
    rw [List.contains_iff_mem] at hmem
    exact hrefused c (List.mem_cons_of_mem _ (List.mem_cons_of_mem _ hmem)) (hchars c hc)
  have hstar : token ≠ "*" := by
    intro h
    exact hrefused '*' (by decide) (hchars '*' (by rw [h]; decide))
  have hopen : token ≠ ">" := by
    intro h
    exact hrefused '>' (by decide) (hchars '>' (by rw [h]; decide))
  rw [publishable, hcontains, bne_iff_ne.mpr hne, bne_iff_ne.mpr hstar, bne_iff_ne.mpr hopen]
  rfl

section

variable {table : LowerTable} {idna : Idna}

/-- A client identifier is one publishable token. -/
theorem publishable_clientID {value id : String} (h : clientID table value = .ok id) :
    publishable id = true := by
  apply publishable_of_chars (clientID_ne_empty h) (clientID_chars h)
  exact forall_mem_of_all (by decide)

/-- A client identifier contains no dot. -/
theorem dot_not_mem_clientID {value id : String} (h : clientID table value = .ok id) :
    '.' ∉ id.toList := by
  intro hdot
  exact absurd (clientID_chars h '.' hdot) (by decide)

/-- The labels of a normalized hostname are publishable tokens. -/
theorem publishable_label {hostname label : String} (h : Normalized idna hostname)
    (hl : label ∈ split '.' hostname) : publishable label = true := by
  have hne := (token_not_wildcard h hl).2.2
  have hchars : ∀ c ∈ label.toList, HostnameChar c := by
    intro c hc
    obtain ⟨piece, hpiece, rfl⟩ := List.mem_map.mp hl
    rw [String.toList_ofList] at hc
    exact h.chars c (mem_of_mem_splitChars hpiece hc)
  apply publishable_of_chars hne hchars
  exact forall_mem_of_all (by decide)

/-- The labels of a normalized hostname, in reverse, are literal tokens. -/
theorem exists_reverse_tokens {hostname : String} (h : Normalized idna hostname) :
    ∃ tokens : List Token, tokens.map Subtype.val = (split '.' hostname).reverse ∧ tokens ≠ [] := by
  have hall : ∀ label ∈ (split '.' hostname).reverse, publishable label = true :=
    fun label hl => publishable_label h (List.mem_reverse.mp hl)
  refine ⟨(split '.' hostname).reverse.attachWith _ hall, ?_, ?_⟩
  · exact List.attachWith_map_subtype_val hall
  · rw [Ne, List.attachWith_eq_nil_iff, List.reverse_eq_nil_iff]
    exact split_ne_nil '.' hostname

/-- The tokens of a request subject are those of the prefix and then the
labels of the route, in reverse. -/
theorem split_requestSubject {subjectPrefix route s : String}
    (hnormal : normalizeHostname table idna route = .ok route)
    (h : subject table idna subjectPrefix route = .ok s) :
    split '.' s = requestTokens subjectPrefix route := by
  rw [subject_eq hnormal] at h
  have hdot : "." = String.singleton '.' := by decide
  rw [← Except.ok.inj h, requestTokens, hdot, split_append_separator, ← hdot,
    split_reverse_labels]

/-- A route strictly below another name has two labels or more. -/
theorem two_le_labels_of_hasSuffix {route root : String}
    (h : hasSuffix route ("." ++ root) = true) : 2 ≤ (split '.' route).length := by
  rw [hasSuffix, List.isSuffixOf_iff_suffix] at h
  obtain ⟨before, hb⟩ := h
  have hroute : route = String.ofList before ++ String.singleton '.' ++ root := by
    apply String.toList_inj.mp
    rw [← hb]
    simp
  rw [hroute, split_append_separator, List.length_append]
  have hl := List.length_pos_iff.mpr (split_ne_nil '.' (String.ofList before))
  have hr := List.length_pos_iff.mpr (split_ne_nil '.' root)
  omega

/-- The request subject of such a route has three tokens or more. -/
theorem exists_requestTokens (subjectPrefix : String) {route : String}
    (h : 2 ≤ (split '.' route).length) :
    ∃ first second third tokens,
      requestTokens subjectPrefix route = first :: second :: third :: tokens := by
  have hlen : 3 ≤ (requestTokens subjectPrefix route).length := by
    have hp := List.length_pos_iff.mpr (split_ne_nil '.' (trimSuffix subjectPrefix "."))
    rw [requestTokens, List.length_append, List.length_reverse]
    omega
  match hr : requestTokens subjectPrefix route with
  | first :: second :: third :: tokens => exact ⟨first, second, third, tokens, rfl⟩
  | [] | [_] | [_, _] =>
    rw [hr] at hlen
    simp at hlen

/-- A well-formed request subject meets an inbox exactly when it enters it. -/
theorem overlaps_inbox_iff_entersInbox {subjectPrefix route : String} {p : Pattern Token}
    (id : Token) (h : 2 ≤ (split '.' route).length)
    (hp : parsePattern (requestTokens subjectPrefix route) = some p) :
    p.overlaps (inboxPattern id) = true ↔ entersInbox subjectPrefix route id.val = true := by
  obtain ⟨first, second, third, tokens, ht⟩ := exists_requestTokens subjectPrefix h
  rw [entersInbox, hp, ht]
  rw [ht] at hp
  rw [overlaps_inboxPattern id hp]
  simp

/-- What the callout grants for one ticket. -/
structure Grant (idna : Idna) (subjectPrefix route : String) (id : Token) (user : UserClaims) :
    Prop where
  /-- The route is normalized. -/
  route_normalized : Normalized idna route
  /-- The route has two labels or more. -/
  two_le_labels : 2 ≤ (split '.' route).length
  /-- The subscriptions are the request subject of the route and the inbox. -/
  mem_permitted : ∀ p, p ∈ permitted user.subAllow ↔
    parsePattern (requestTokens subjectPrefix route) = some p ∨ p = inboxPattern id

/-- The grants of two routes are disjoint exactly when the inboxes differ and
no request subject enters the other's inbox. -/
theorem disjoint_iff_of_grants {subjectPrefix route₁ route₂ : String} {id₁ id₂ : Token}
    {user₁ user₂ : UserClaims} (h₁ : Grant idna subjectPrefix route₁ id₁ user₁)
    (h₂ : Grant idna subjectPrefix route₂ id₂ user₂) (hroutes : route₁ ≠ route₂) :
    Disjoint (subscribable user₁) (subscribable user₂) ↔
      id₁ ≠ id₂ ∧ entersInbox subjectPrefix route₁ id₂.val = false ∧
        entersInbox subjectPrefix route₂ id₁.val = false := by
  have hlabels : ∀ {p q}, parsePattern (requestTokens subjectPrefix route₁) = some p →
      parsePattern (requestTokens subjectPrefix route₂) = some q → p.overlaps q = false := by
    intro p q hp hq
    obtain ⟨left, hleft, hlne⟩ := exists_reverse_tokens h₁.route_normalized
    obtain ⟨right, hright, hrne⟩ := exists_reverse_tokens h₂.route_normalized
    rw [requestTokens, ← hleft] at hp
    rw [requestTokens, ← hright] at hq
    refine common_not_overlaps hlne hrne ?_ hp hq
    intro heq
    rw [heq, hright] at hleft
    apply hroutes
    rw [← intercalate_split '.' route₁, ← List.reverse_injective hleft, intercalate_split]
  have hnone : ∀ {route : String} {id : Token}, 2 ≤ (split '.' route).length →
      ((∀ p, parsePattern (requestTokens subjectPrefix route) = some p →
        p.overlaps (inboxPattern id) = false) ↔
          entersInbox subjectPrefix route id.val = false) := by
    intro route id htwo
    constructor
    · intro hall
      cases hp : parsePattern (requestTokens subjectPrefix route) with
      | none =>
        rw [entersInbox, hp]
        rfl
      | some p =>
        rw [Bool.eq_false_iff, Ne, ← overlaps_inbox_iff_entersInbox id htwo hp, hall p hp]
        exact Bool.false_ne_true
    · intro henter p hp
      rw [Bool.eq_false_iff, Ne, overlaps_inbox_iff_entersInbox id htwo hp, henter]
      exact Bool.false_ne_true
  rw [subscribable, subscribable, disjoint_iff_not_overlaps, ← hnone h₁.two_le_labels,
    ← hnone h₂.two_le_labels]
  constructor
  · intro hall
    have hin₁ := (h₁.mem_permitted (inboxPattern id₁)).mpr (Or.inr rfl)
    have hin₂ := (h₂.mem_permitted (inboxPattern id₂)).mpr (Or.inr rfl)
    refine ⟨?_, ?_, ?_⟩
    · intro heq
      have hself := hall _ hin₁ _ hin₂
      rw [(inboxPattern_overlaps id₁ id₂).mpr heq] at hself
      cases hself
    · intro p hp
      exact hall p ((h₁.mem_permitted p).mpr (Or.inl hp)) _ hin₂
    · intro q hq
      rw [Pattern.overlaps_comm]
      exact hall _ hin₁ q ((h₂.mem_permitted q).mpr (Or.inl hq))
  · rintro ⟨hids, hfirst, hsecond⟩ p hp q hq
    rcases (h₁.mem_permitted p).mp hp with hp | rfl
    · rcases (h₂.mem_permitted q).mp hq with hq | rfl
      · exact hlabels hp hq
      · exact hfirst p hp
    · rcases (h₂.mem_permitted q).mp hq with hq | rfl
      · rw [Pattern.overlaps_comm]
        exact hsecond q hq
      · rw [Bool.eq_false_iff, Ne, inboxPattern_overlaps]
        exact hids

variable {jwt : JwtPackage} {nats : NatsPackage} {signer : Signer} {config : Config}

/-- A presented ticket is granted its request subject and its inbox. -/
theorem exists_grant {now presented : ℤ} {request : TokenRequest} {response : TokenResponse}
    {nkey : String} (hissued : Issued table idna jwt signer config now (some request) response)
    (hinternal : ∀ time claims, signer.parse jwt time config.natsInternalIngressToken ≠ .ok claims)
    (hkey : nats.isUserKey nkey = true) (hfrom : now ≤ presented)
    (huntil : presented < response.expiresUnix * second) :
    ∃ value user, authorize table idna jwt nats signer config presented ⟨nkey, response.token⟩ =
        .ok value ∧
      nats.decode value = some user ∧
      normalizeHostname table idna request.hostname = .ok response.hostname ∧
      clientID table request.clientName = .ok response.clientID ∧
      ∃ hid, Grant idna config.natsRequestSubjectPrefix response.hostname
        ⟨response.clientID, hid⟩ user := by
  obtain ⟨wanted, sub, entitlement, hbody, -, hmatched, hid, -⟩ := hissued.granted
  cases hbody
  obtain ⟨root, -, hstrict, -⟩ := hmatched.parent_ok
  rw [Bool.or_eq_false_iff, Bool.not_eq_false'] at hstrict
  have hroute := normalizeHostname_ok hmatched.route_eq
  have htokens := split_requestSubject hroute.normalizeHostname_eq hissued.requestSubject_eq
  obtain ⟨value, hencode, hdecode⟩ := nats.encoded
    (tunnelUser config nkey response.clientID response.requestSubject response.expiresUnix) hkey
  have hauth : authorize table idna jwt nats signer config presented ⟨nkey, response.token⟩ =
      nats.encode (tunnelUser config nkey response.clientID response.requestSubject
        response.expiresUnix) := authorize_issued nats hissued rfl hinternal hfrom huntil
  refine ⟨value, _, hauth.trans hencode, hdecode, hmatched.route_eq, hid,
    publishable_clientID hid, hroute, two_le_labels_of_hasSuffix hstrict.2, ?_⟩
  intro p
  have hinbox := parsePattern_inbox ⟨response.clientID, publishable_clientID hid⟩
    (dot_not_mem_clientID hid)
  have hallow := mem_tunnelUser_subAllow config nkey response.clientID response.expiresUnix
    (subject_ne_empty hissued.requestSubject_eq)
  constructor
  · rintro ⟨permission, hmem, hparse⟩
    rcases (hallow permission).mp hmem with rfl | rfl
    · rw [htokens] at hparse
      exact Or.inl hparse
    · rw [hinbox] at hparse
      exact Or.inr (Option.some.inj hparse).symm
  · rintro (hp | hp)
    · refine ⟨response.requestSubject, (hallow _).mpr (Or.inl rfl), ?_⟩
      rw [htokens, hp]
    · refine ⟨_, (hallow _).mpr (Or.inr rfl), ?_⟩
      rw [hinbox, hp]

/-- Two requests whose tickets keep apart: their client names give different
identifiers, and the prefix puts no request subject into the other's inbox. -/
def Separated (table : LowerTable) (idna : Idna) (subjectPrefix : String)
    (request₁ request₂ : TokenRequest) : Prop :=
  ∀ route₁ route₂ id₁ id₂ : String,
    normalizeHostname table idna request₁.hostname = .ok route₁ →
    normalizeHostname table idna request₂.hostname = .ok route₂ →
    clientID table request₁.clientName = .ok id₁ → clientID table request₂.clientName = .ok id₂ →
    id₁ ≠ id₂ ∧ entersInbox subjectPrefix route₁ id₂ = false ∧
      entersInbox subjectPrefix route₂ id₁ = false

/-- Two tickets for different routes, presented while they are valid, are
granted disjoint subscriptions exactly when their requests are separated. -/
theorem subscriptions_disjoint_iff {verify : String → Except String BrowserSession}
    {checked₁ checked₂ now₁ now₂ presented₁ presented₂ : ℤ}
    {credentials₁ credentials₂ : Credentials}
    {request₁ request₂ : TokenRequest} {response₁ response₂ : TokenResponse} {nkey₁ nkey₂ : String}
    (hissued₁ : issueTunnelToken table idna jwt signer config verify checked₁ now₁ credentials₁
      (some request₁) = .ok response₁)
    (hissued₂ : issueTunnelToken table idna jwt signer config verify checked₂ now₂ credentials₂
      (some request₂) = .ok response₂)
    (hroutes : response₁.hostname ≠ response₂.hostname)
    (hinternal : ∀ time claims, signer.parse jwt time config.natsInternalIngressToken ≠ .ok claims)
    (hkey₁ : nats.isUserKey nkey₁ = true) (hkey₂ : nats.isUserKey nkey₂ = true)
    (hfrom₁ : now₁ ≤ presented₁) (huntil₁ : presented₁ < response₁.expiresUnix * second)
    (hfrom₂ : now₂ ≤ presented₂) (huntil₂ : presented₂ < response₂.expiresUnix * second) :
    ∃ value₁ user₁ value₂ user₂,
      authorize table idna jwt nats signer config presented₁ ⟨nkey₁, response₁.token⟩ =
        .ok value₁ ∧
      nats.decode value₁ = some user₁ ∧
      authorize table idna jwt nats signer config presented₂ ⟨nkey₂, response₂.token⟩ =
        .ok value₂ ∧
      nats.decode value₂ = some user₂ ∧
      (Disjoint (subscribable user₁) (subscribable user₂) ↔
        Separated table idna config.natsRequestSubjectPrefix request₁ request₂) := by
  obtain ⟨value₁, user₁, hauth₁, hdecode₁, hroute₁, hid₁, hp₁, hgrant₁⟩ :=
    exists_grant (issueTunnelToken_ok hissued₁) hinternal hkey₁ hfrom₁ huntil₁
  obtain ⟨value₂, user₂, hauth₂, hdecode₂, hroute₂, hid₂, hp₂, hgrant₂⟩ :=
    exists_grant (issueTunnelToken_ok hissued₂) hinternal hkey₂ hfrom₂ huntil₂
  refine ⟨value₁, user₁, value₂, user₂, hauth₁, hdecode₁, hauth₂, hdecode₂, ?_⟩
  rw [disjoint_iff_of_grants hgrant₁ hgrant₂ hroutes, Ne, Subtype.ext_iff]
  constructor
  · intro h route₁ route₂ id₁ id₂ hr₁ hr₂ hi₁ hi₂
    rw [← Except.ok.inj (hroute₁.symm.trans hr₁), ← Except.ok.inj (hroute₂.symm.trans hr₂),
      ← Except.ok.inj (hid₁.symm.trans hi₁), ← Except.ok.inj (hid₂.symm.trans hi₂)]
    exact h
  · intro h
    exact h _ _ _ _ hroute₁ hroute₂ hid₁ hid₂

end

/-- The ticket of a sample client below the root namespace. -/
def sampleTicket (sub entitlement id : String) : Claims :=
  { sampleClaims with
    route := entitlement, entitlement := entitlement, clientID := id, subject := sub }

/-- One ticket of the first identity and two of the second. -/
def sampleTickets : List Claims :=
  [sampleTicket "alice" "a.subdomain.domain" "laptop",
    sampleTicket "bob" "b.subdomain.domain" "laptop",
    sampleTicket "bob" "b.subdomain.domain" "desktop"]

/-- A session of an identity with one entitlement of its own. -/
def sampleSession (sub entitlement : String) : Credentials where
  authorization := ""
  cookie := .ok
    { subject := sub, name := sub, email := "", entitlements := [entitlement],
      expiresUnix := 1700003600, username := sub }

/-- The answer for one of the sample tickets. -/
def sampleAnswer (token route id requestSubject : String) : TokenResponse :=
  { sampleResponse with
    token := token, hostname := route, clientID := id, requestSubject := requestSubject }

/-- A sample identity asks for a ticket for the hostname it is entitled to. -/
def sampleIssue (sub entitlement clientName : String) : Except HttpError TokenResponse :=
  issueTunnelToken asciiTable plainIdna (listedJwt sampleTickets) ⟨[1, 2, 3], 900 * second⟩
    sampleConfig (fun _ => .error "no verifier") 1700000000000000000 1700000000000000000
    (sampleSession sub entitlement) (some ⟨entitlement, clientName⟩)

/-- A sample ticket is presented ten minutes after it was issued. -/
def sampleAuthorize (token : String) : Except String String :=
  authorize asciiTable plainIdna (listedJwt sampleTickets) unaryPackage ⟨[1, 2, 3], 900 * second⟩
    sampleConfig 1700000600000000000 ⟨"UDEMO", token⟩

/-- The ingress token of the sample configuration is not a ticket. -/
theorem sample_internal_not_ticket (time : ℤ) (claims : Claims) :
    Signer.parse (listedJwt sampleTickets) ⟨[1, 2, 3], 900 * second⟩ time
      sampleConfig.natsInternalIngressToken ≠ .ok claims := nofun

/-- A ticket for the first client of the samples. -/
theorem sampleIssue_alice : sampleIssue "alice" "a.subdomain.domain" "laptop" =
    .ok (sampleAnswer "1" "a.subdomain.domain" "laptop" "lfp.v1.connect.domain.subdomain.a") := by
  decide +kernel

/-- Two identities with client names of their own. -/
theorem subscriptions_disjoint_iff_own_names :
    ∃ value₁ user₁ value₂ user₂, sampleAuthorize "1" = .ok value₁ ∧
      unaryPackage.decode value₁ = some user₁ ∧ sampleAuthorize "111" = .ok value₂ ∧
      unaryPackage.decode value₂ = some user₂ ∧
      (Disjoint (subscribable user₁) (subscribable user₂) ↔
        Separated asciiTable plainIdna "lfp.v1.connect" ⟨"a.subdomain.domain", "laptop"⟩
          ⟨"b.subdomain.domain", "desktop"⟩) := by
  have hissued₂ : sampleIssue "bob" "b.subdomain.domain" "desktop" =
      .ok (sampleAnswer "111" "b.subdomain.domain" "desktop"
        "lfp.v1.connect.domain.subdomain.b") := by
    decide +kernel
  have hroutes : "a.subdomain.domain" ≠ "b.subdomain.domain" := by decide
  have hkey : unaryPackage.isUserKey "UDEMO" = true := by decide
  have hfrom : (1700000000000000000 : ℤ) ≤ 1700000600000000000 := by decide
  have huntil : (1700000600000000000 : ℤ) < 1700000900 * second := by decide
  have hiff := subscriptions_disjoint_iff sampleIssue_alice hissued₂ hroutes
    sample_internal_not_ticket hkey hkey hfrom huntil hfrom huntil
  exact hiff

/-- Two identities that choose the same client name share an inbox: both may
receive what is published to it. -/
theorem shared_client_name_not_isolated :
    sampleIssue "alice" "a.subdomain.domain" "laptop" =
        .ok (sampleAnswer "1" "a.subdomain.domain" "laptop"
          "lfp.v1.connect.domain.subdomain.a") ∧
      sampleIssue "bob" "b.subdomain.domain" "laptop" =
        .ok (sampleAnswer "11" "b.subdomain.domain" "laptop"
          "lfp.v1.connect.domain.subdomain.b") ∧
      ∃ value₁ user₁ value₂ user₂, sampleAuthorize "1" = .ok value₁ ∧
        unaryPackage.decode value₁ = some user₁ ∧ sampleAuthorize "11" = .ok value₂ ∧
        unaryPackage.decode value₂ = some user₂ ∧
        ¬ Disjoint (subscribable user₁) (subscribable user₂) := by
  have hissued₂ : sampleIssue "bob" "b.subdomain.domain" "laptop" =
      .ok (sampleAnswer "11" "b.subdomain.domain" "laptop"
        "lfp.v1.connect.domain.subdomain.b") := by
    decide +kernel
  obtain ⟨value₁, user₁, hauth₁, hdecode₁, -, -, hp₁, hgrant₁⟩ :=
    exists_grant (issueTunnelToken_ok sampleIssue_alice) sample_internal_not_ticket
      (show unaryPackage.isUserKey "UDEMO" = true by decide)
      (show (1700000000000000000 : ℤ) ≤ 1700000600000000000 by decide) (by decide)
  obtain ⟨value₂, user₂, hauth₂, hdecode₂, -, -, hp₂, hgrant₂⟩ :=
    exists_grant (issueTunnelToken_ok hissued₂) sample_internal_not_ticket
      (show unaryPackage.isUserKey "UDEMO" = true by decide)
      (show (1700000000000000000 : ℤ) ≤ 1700000600000000000 by decide) (by decide)
  refine ⟨sampleIssue_alice, hissued₂, value₁, user₁, value₂, user₂, hauth₁, hdecode₁, hauth₂,
    hdecode₂, ?_⟩
  rw [disjoint_iff_of_grants hgrant₁ hgrant₂ (by decide)]
  exact fun h => h.1 rfl

end LfpPipe.TenantIsolation
