import LfpPipe.RequestDelivery

/-!
# The claim protocol is what the permissions allow

An ingress publishes the request of a hostname, a client publishes its claim
into the inbox of the ingress, and the ingress publishes its answer into the
inbox that the client has named. The callout permits these three messages to
their two sides and, among them, nothing else: no client publishes a request
or an answer, and none receives the claims or the answers of others.
-/

namespace LfpPipe.ProtocolPermissions

open RustText GoText SharedRouting RouteAuth SubjectRouting SubjectPatterns EntitlementMatching
open TunnelTickets TenantIsolation RequestDelivery

/-- A new inbox of the message library, below a prefix. -/
def newInbox (inboxPrefix : String) (name : Token) : String := inboxPrefix ++ "." ++ name.val

/-- A pattern that begins with literal tokens and is open. -/
def opens : List Token → Pattern Token
  | [] => .rest
  | token :: tokens => .literal token (opens tokens)

/-- Its subjects go on after the literal tokens. -/
theorem opens_matches_iff {before s : List Token} :
    (opens before).Matches s ↔ ∃ rest, rest ≠ [] ∧ s = before ++ rest := by
  induction before generalizing s with
  | nil =>
    constructor
    · intro h
      exact ⟨s, h, rfl⟩
    · rintro ⟨rest, hne, rfl⟩
      exact hne
  | cons token tokens ih =>
    rw [opens, Pattern.Matches]
    constructor
    · rintro ⟨xs, rfl, hrest⟩
      obtain ⟨rest, hne, rfl⟩ := ih.mp hrest
      exact ⟨rest, hne, rfl⟩
    · rintro ⟨rest, hne, rfl⟩
      exact ⟨tokens ++ rest, rfl, ih.mpr ⟨rest, hne, rfl⟩⟩

/-- Literal tokens before a final greater-than sign are read as an open pattern. -/
theorem parsePattern_opens (before : List Token) :
    parsePattern (before.map Subtype.val ++ [">"]) = some (opens before) := by
  induction before with
  | nil => rfl
  | cons token tokens ih =>
    have hstar : token.val ≠ "*" := by
      intro h
      exact star_not_publishable (h ▸ token.property)
    have hopen : token.val ≠ ">" := by
      intro h
      have hpublishable := token.property
      rw [h] at hpublishable
      exact absurd hpublishable (by decide)
    rw [List.map_cons, List.cons_append, parsePattern, if_neg (fun h => hopen (beq_iff_eq.mp h)),
      if_neg (fun h => hstar (beq_iff_eq.mp h)), dif_pos token.property, ih]
    rfl

/-- An open permission covers the subjects that go on after its tokens. -/
theorem permits_opens_iff {permission s : String} {before tokens : List Token}
    (hpermission : split '.' permission = before.map Subtype.val ++ [">"])
    (htokens : tokens.map Subtype.val = split '.' s) :
    permits [permission] s = true ↔ ∃ rest, rest ≠ [] ∧ tokens = before ++ rest := by
  rw [permits_iff]
  constructor
  · rintro ⟨others, hothers, p, ⟨found, hm, hp⟩, hmatches⟩
    have hsame : others = tokens :=
      List.map_injective_iff.mpr Subtype.val_injective (hothers.trans htokens.symm)
    rw [List.mem_singleton.mp hm, hpermission, parsePattern_opens] at hp
    cases hp
    rw [← hsame]
    exact opens_matches_iff.mp hmatches
  · intro hrest
    refine ⟨tokens, htokens, opens before, ⟨permission, List.mem_singleton_self _, ?_⟩,
      opens_matches_iff.mpr hrest⟩
    rw [hpermission, parsePattern_opens]

/-- A list of permissions covers what one of them covers. -/
theorem permits_cons_iff {permission s : String} {permissions : List String} :
    permits (permission :: permissions) s = true ↔
      permits [permission] s = true ∨ permits permissions s = true := by
  simp only [permits, Option.any_eq_true, List.any_cons, List.any_nil, Bool.or_false,
    Bool.or_eq_true]
  constructor
  · rintro ⟨tokens, htokens, hfirst | hrest⟩
    · exact Or.inl ⟨tokens, htokens, hfirst⟩
    · exact Or.inr ⟨tokens, htokens, hrest⟩
  · rintro (⟨tokens, htokens, hfirst⟩ | ⟨tokens, htokens, hrest⟩)
    · exact ⟨tokens, htokens, Or.inl hfirst⟩
    · exact ⟨tokens, htokens, Or.inr hrest⟩

/-- Only the set of permissions matters. -/
theorem permits_congr {permissions others : List String} {s : String}
    (h : ∀ permission, permission ∈ permissions ↔ permission ∈ others) :
    permits permissions s = true ↔ permits others s = true := by
  have hset : permitted permissions = permitted others := by
    apply Set.ext
    intro p
    constructor
    · rintro ⟨permission, hm, hp⟩
      exact ⟨permission, (h permission).mp hm, hp⟩
    · rintro ⟨permission, hm, hp⟩
      exact ⟨permission, (h permission).mpr hm, hp⟩
  rw [permits_iff, permits_iff, hset]

/-- A permission that begins with one token covers no subject that begins
with another. -/
theorem not_permits_of_head {permission s : String} {head first : Token} {more : List String}
    {rest : List Token} (hpermission : split '.' permission = head.val :: more)
    (htokens : (first :: rest).map Subtype.val = split '.' s) (hne : first ≠ head) :
    ¬ permits [permission] s = true := by
  rw [permits_iff]
  rintro ⟨tokens, hsame, p, ⟨found, hm, hp⟩, hmatches⟩
  have hlist : tokens = first :: rest :=
    List.map_injective_iff.mpr Subtype.val_injective (hsame.trans htokens.symm)
  have hstar : head.val ≠ "*" := by
    intro h
    exact star_not_publishable (h ▸ head.property)
  have hopen : head.val ≠ ">" := by
    intro h
    have hpublishable := head.property
    rw [h] at hpublishable
    exact absurd hpublishable (by decide)
  rw [List.mem_singleton.mp hm, hpermission, parsePattern,
    if_neg (fun h => hopen (beq_iff_eq.mp h)), if_neg (fun h => hstar (beq_iff_eq.mp h)),
    dif_pos head.property] at hp
  obtain ⟨next, -, rfl⟩ := Option.map_eq_some_iff.mp hp
  obtain ⟨xs, hcons, -⟩ := hmatches
  rw [hlist] at hcons
  exact hne (List.cons.inj hcons).1

/-- A text without a dot is one piece. -/
theorem split_token {name : Token} (h : '.' ∉ name.val.toList) :
    split '.' name.val = [name.val] := by
  have hone : String.intercalate (String.singleton '.') [name.val] = name.val := by
    apply String.toList_inj.mp
    simp
  have hsplit : split '.' (String.intercalate (String.singleton '.') [name.val]) = [name.val] := by
    apply split_intercalate (List.cons_ne_nil _ _)
    intro piece hpiece
    rw [List.mem_singleton.mp hpiece]
    exact h
  rw [hone] at hsplit
  exact hsplit

/-- The tokens of an inbox. -/
theorem split_newInbox {inboxPrefix : String} {name : Token} (h : '.' ∉ name.val.toList) :
    split '.' (newInbox inboxPrefix name) = split '.' inboxPrefix ++ [name.val] := by
  have hdot : "." = String.singleton '.' := by decide
  rw [newInbox, hdot, split_append_separator, split_token h]

/-- Where the inboxes of the ingresses begin. -/
def ingressInbox : Token := ⟨"_INBOX", by decide⟩

/-- The inboxes of the clients begin with one token. -/
theorem clientInbox_publishable : publishable "_LFP_INBOX" = true := by decide

/-- Where the inboxes of the clients begin. -/
def clientInbox : Token := ⟨"_LFP_INBOX", clientInbox_publishable⟩

/-- The tokens of an inbox of a client. -/
theorem split_clientInbox {id name : Token} (hid : '.' ∉ id.val.toList)
    (hname : '.' ∉ name.val.toList) :
    [clientInbox, id, name].map Subtype.val =
      split '.' (newInbox ("_LFP_INBOX." ++ id.val) name) := by
  have hjoined : "_LFP_INBOX." ++ id.val = newInbox "_LFP_INBOX" id := by
    apply String.toList_inj.mp
    simp [newInbox]
  have hroot : split '.' "_LFP_INBOX" = ["_LFP_INBOX"] := by decide
  rw [split_newInbox hname, hjoined, split_newInbox hid, hroot]
  rfl

/-- The tokens of an inbox of an ingress. -/
theorem split_ingressInbox {name : Token} (h : '.' ∉ name.val.toList) :
    [ingressInbox, name].map Subtype.val = split '.' (newInbox "_INBOX" name) := by
  have hroot : split '.' "_INBOX" = ["_INBOX"] := by decide
  rw [split_newInbox h, hroot]
  rfl

/-- What the permissions of a client and of an ingress allow. -/
structure Roles (subjectPrefix route id : String) (client ingress : UserClaims) : Prop where
  /-- Requests go from the ingress to the owner of the hostname; the ingress
  may publish them unless the prefix ends with a dot. -/
  requests : ∀ hostname s, hostnameRequestSubject subjectPrefix hostname = some s →
    (permits ingress.pubAllow s = true ↔ subjectPrefix.toList.getLast? ≠ some '.') ∧
    (permits client.subAllow s = true ↔ hostnameLabels hostname = labels route) ∧
    ¬ permits client.pubAllow s = true ∧ ¬ permits ingress.subAllow s = true
  /-- Claims go from the client to the ingress. -/
  claims : ∀ name : Token, '.' ∉ name.val.toList →
    permits client.pubAllow (newInbox "_INBOX" name) = true ∧
    permits ingress.subAllow (newInbox "_INBOX" name) = true ∧
    ¬ permits client.subAllow (newInbox "_INBOX" name) = true ∧
    ¬ permits ingress.pubAllow (newInbox "_INBOX" name) = true
  /-- Answers go from the ingress to the client whose identifier the inbox has. -/
  answers : ∀ other name : Token, '.' ∉ other.val.toList → '.' ∉ name.val.toList →
    permits ingress.pubAllow (newInbox ("_LFP_INBOX." ++ other.val) name) = true ∧
    (permits client.subAllow (newInbox ("_LFP_INBOX." ++ other.val) name) = true ↔
      other.val = id) ∧
    ¬ permits client.pubAllow (newInbox ("_LFP_INBOX." ++ other.val) name) = true ∧
    ¬ permits ingress.subAllow (newInbox ("_LFP_INBOX." ++ other.val) name) = true

/-- The labels of a hostname with a request are tokens. -/
theorem exists_label_tokens {subjectPrefix hostname s : String}
    (h : hostnameRequestSubject subjectPrefix hostname = some s) :
    ∃ first rest, (first :: rest : List Token).map Subtype.val =
      (hostnameLabels hostname).reverse := by
  obtain ⟨-, hvalid, -⟩ := hostnameRequestSubject_eq_some_iff.mp h
  have hall : ∀ label ∈ (hostnameLabels hostname).reverse, publishable label = true := by
    intro label hl
    have hlabel := hvalid label (List.mem_reverse.mp hl)
    refine publishable_of_chars ?_ (validLabel_chars hlabel)
      (forall_mem_of_all (by decide))
    rintro rfl
    exact absurd hlabel (by decide)
  have htokens := List.attachWith_map_subtype_val hall
  cases hlist : (hostnameLabels hostname).reverse.attachWith _ hall with
  | nil =>
    rw [hlist] at htokens
    have hempty := List.reverse_eq_nil_iff.mp htokens.symm
    exact absurd hempty (split_ne_nil '.' _)
  | cons first rest =>
    rw [hlist] at htokens
    exact ⟨first, rest, htokens⟩

/-- An empty token cannot be permitted. -/
theorem parsePattern_empty (before : List Token) (more : List String) :
    parsePattern (before.map Subtype.val ++ "" :: more) = none := by
  induction before with
  | nil =>
    rw [List.map_nil, List.nil_append, parsePattern, if_neg (by decide), if_neg (by decide),
      dif_neg (by decide)]
  | cons token tokens ih =>
    cases hparse : parsePattern ((token :: tokens).map Subtype.val ++ "" :: more) with
    | none => rfl
    | some p =>
      rw [List.map_cons, List.cons_append] at hparse
      obtain ⟨next, hnext, -⟩ := parsePattern_cons
        (List.append_ne_nil_of_right_ne_nil _ (List.cons_ne_nil _ _)) hparse
      rw [ih] at hnext
      cases hnext

/-- What an ingress may publish on. -/
theorem permits_ingress_iff (config : Config) (now : ℤ) (nkey s : String) :
    permits (ingressUser config now nkey).pubAllow s = true ↔
      permits [config.natsRequestSubjectPrefix ++ ".>"] s = true ∨
        permits ["_LFP_INBOX.>"] s = true := by
  have hne : config.natsRequestSubjectPrefix ++ ".>" ≠ "" := by
    intro h
    have hlen := congrArg String.length h
    rw [String.length_append] at hlen
    revert hlen
    change config.natsRequestSubjectPrefix.length + 2 = 0 → False
    omega
  rw [← permits_cons_iff]
  apply permits_congr
  intro permission
  rw [ingressUser]
  dsimp only
  rw [mem_addPermission (by decide), mem_addPermission hne, List.mem_cons, List.mem_singleton]
  simp only [List.not_mem_nil, false_or]

/-- The permission of an ingress for requests begins with the prefix. -/
theorem split_requestPermission {subjectPrefix : String} {before : List Token}
    (hbefore : before.map Subtype.val = split '.' (trimSuffix subjectPrefix ".")) :
    (subjectPrefix.toList.getLast? ≠ some '.' ∧
        split '.' (subjectPrefix ++ ".>") = before.map Subtype.val ++ [">"]) ∨
      (subjectPrefix.toList.getLast? = some '.' ∧
        split '.' (subjectPrefix ++ ".>") = before.map Subtype.val ++ ["", ">"]) := by
  have hdot : "." = String.singleton '.' := by decide
  have hjoin : ∀ front : String, front ++ ".>" = front ++ String.singleton '.' ++ ">" := by
    intro front
    apply String.toList_inj.mp
    simp
  have hopen : split '.' ">" = [">"] := by decide
  by_cases hlast : subjectPrefix.toList.getLast? = some '.'
  · refine Or.inr ⟨hlast, ?_⟩
    obtain ⟨front, hfront⟩ := List.getLast?_eq_some_iff.mp hlast
    have hstrip : stripEnd subjectPrefix "." = some (String.ofList front) := by
      rw [stripEnd_eq_some, String.toList_ofList, hfront]
      rfl
    have htrim : trimSuffix subjectPrefix "." = String.ofList front := by
      rw [trimSuffix, hstrip]
      rfl
    have hwhole : subjectPrefix = String.ofList front ++ String.singleton '.' ++ "" := by
      apply String.toList_inj.mp
      rw [hfront]
      simp
    have hempty : split '.' "" = [""] := by decide
    rw [htrim] at hbefore
    rw [hjoin, split_append_separator, hopen, hwhole, split_append_separator, hempty, hbefore,
      List.append_assoc]
    rfl
  · refine Or.inl ⟨hlast, ?_⟩
    rw [trimSuffix_dot_of_getLast_ne hlast] at hbefore
    rw [hjoin, split_append_separator, hopen, hbefore]

/-- The permission for requests covers nothing that begins in an inbox. -/
theorem not_permits_requests {subjectPrefix s : String} {first : Token} {rest : List Token}
    (husable : usablePrefix subjectPrefix = true)
    (htokens : (first :: rest).map Subtype.val = split '.' s)
    (hinbox : first = ingressInbox ∨ first = clientInbox) :
    ¬ permits [subjectPrefix ++ ".>"] s = true := by
  obtain ⟨head, tail, hhead, hingress, hclient⟩ := exists_prefix_tokens husable
  have hne : first ≠ head := by
    rintro rfl
    rcases hinbox with rfl | rfl
    · exact hingress rfl
    · exact hclient rfl
  rcases split_requestPermission hhead with ⟨-, hsplit⟩ | ⟨-, hsplit⟩
  · exact not_permits_of_head hsplit htokens hne
  · exact not_permits_of_head hsplit htokens hne

/-- A permission for the inboxes of one side. -/
theorem permits_inboxes_iff {permission s : String} {root first : Token} {rest : List Token}
    (hpermission : split '.' permission = [root.val, ">"])
    (htokens : (first :: rest).map Subtype.val = split '.' s) :
    permits [permission] s = true ↔ first = root ∧ rest ≠ [] := by
  have hopens : split '.' permission = [root].map Subtype.val ++ [">"] := hpermission
  rw [permits_opens_iff hopens htokens]
  constructor
  · rintro ⟨others, hne, hlist⟩
    obtain ⟨rfl, rfl⟩ := List.cons.inj hlist
    exact ⟨rfl, hne⟩
  · rintro ⟨rfl, hne⟩
    exact ⟨rest, hne, rfl⟩

/-- What a client may receive in an inbox: only what begins with its own. -/
theorem permits_client_inbox_iff {config : Config} {nkey requestSubject s : String} {id : Token}
    {expires : ℤ} {head first : Token} {more : List String} {rest : List Token}
    (hid : '.' ∉ id.val.toList) (hne : requestSubject ≠ "")
    (hsubject : split '.' requestSubject = head.val :: more) (hfirst : first ≠ head)
    (htokens : (first :: rest).map Subtype.val = split '.' s) :
    permits (tunnelUser config nkey id.val requestSubject expires).subAllow s = true ↔
      ∃ others, others ≠ [] ∧ first :: rest = clientInbox :: id :: others := by
  have hmem : ∀ permission,
      permission ∈ (tunnelUser config nkey id.val requestSubject expires).subAllow ↔
        permission ∈ [requestSubject, "_LFP_INBOX." ++ id.val ++ ".>"] := by
    intro permission
    rw [mem_tunnelUser_subAllow config nkey id.val expires hne, List.mem_cons,
      List.mem_singleton]
  have hown : split '.' ("_LFP_INBOX." ++ id.val ++ ".>") =
      [clientInbox, id].map Subtype.val ++ [">"] := by
    have hjoin : "_LFP_INBOX." ++ id.val ++ ".>" =
        "_LFP_INBOX" ++ String.singleton '.' ++ (id.val ++ String.singleton '.' ++ ">") := by
      apply String.toList_inj.mp
      simp
    have hroot : split '.' "_LFP_INBOX" = ["_LFP_INBOX"] := by decide
    have hopen : split '.' ">" = [">"] := by decide
    rw [hjoin, split_append_separator, split_append_separator, split_token hid, hroot, hopen]
    rfl
  rw [permits_congr hmem, permits_cons_iff, permits_opens_iff hown htokens]
  constructor
  · rintro (hrequest | hinbox)
    · exact absurd hrequest (not_permits_of_head hsubject htokens hfirst)
    · exact hinbox
  · exact Or.inr

/-- What a client may publish. -/
theorem tunnelUser_pubAllow (config : Config) (nkey clientID requestSubject : String)
    (expires : ℤ) :
    (tunnelUser config nkey clientID requestSubject expires).pubAllow = ["_INBOX.>"] := rfl

/-- What an ingress may receive. -/
theorem ingressUser_subAllow (config : Config) (now : ℤ) (nkey : String) :
    (ingressUser config now nkey).subAllow = ["_INBOX.>"] := rfl

/-- The permission for the inboxes of the ingresses. -/
theorem permits_ingress_inbox_iff {first : Token} {rest : List Token} {s : String}
    (htokens : (first :: rest).map Subtype.val = split '.' s) :
    permits ["_INBOX.>"] s = true ↔ first = ingressInbox ∧ rest ≠ [] := by
  have hopen : split '.' "_INBOX.>" = [ingressInbox.val, ">"] := by decide
  exact permits_inboxes_iff hopen htokens

/-- The permission for the inboxes of the clients. -/
theorem permits_answers_iff {first : Token} {rest : List Token} {s : String}
    (htokens : (first :: rest).map Subtype.val = split '.' s) :
    permits ["_LFP_INBOX.>"] s = true ↔ first = clientInbox ∧ rest ≠ [] := by
  have hopen : split '.' "_LFP_INBOX.>" = [clientInbox.val, ">"] := by decide
  exact permits_inboxes_iff hopen htokens

/-- The two kinds of inboxes begin differently. -/
theorem ingressInbox_ne : ingressInbox ≠ clientInbox := by decide

section

variable {table : LowerTable} {idna : Idna} {jwt : JwtPackage} {signer : Signer} {config : Config}

/-- An ingress may publish requests unless the prefix ends with a dot. -/
theorem permits_request_iff {hostname s : String} (now : ℤ) (nkey : String)
    (husable : usablePrefix config.natsRequestSubjectPrefix = true)
    (hs : hostnameRequestSubject config.natsRequestSubjectPrefix hostname = some s) :
    permits (ingressUser config now nkey).pubAllow s = true ↔
      config.natsRequestSubjectPrefix.toList.getLast? ≠ some '.' := by
  obtain ⟨head, tail, hhead, -, hheadClient⟩ := exists_prefix_tokens husable
  obtain ⟨label, labels, hlabels⟩ := exists_label_tokens hs
  have htokens : (head :: (tail ++ label :: labels)).map Subtype.val = split '.' s := by
    rw [split_hostnameRequestSubject husable hs, ← hhead, ← hlabels]
    simp
  have hother : ¬ permits ["_LFP_INBOX.>"] s = true := by
    rw [permits_answers_iff htokens]
    rintro ⟨rfl, -⟩
    exact hheadClient rfl
  rw [permits_ingress_iff]
  rcases split_requestPermission hhead with ⟨hlast, hsplit⟩ | ⟨hlast, hsplit⟩
  · have hpermitted := (permits_opens_iff hsplit htokens).mpr
      ⟨label :: labels, List.cons_ne_nil _ _, rfl⟩
    exact ⟨fun _ => hlast, fun _ => Or.inl hpermitted⟩
  · constructor
    · rintro (hpermitted | hpermitted)
      · obtain ⟨tokens, -, p, ⟨found, hm, hp⟩, -⟩ := permits_iff.mp hpermitted
        rw [List.mem_singleton.mp hm, hsplit, parsePattern_empty] at hp
        cases hp
      · exact absurd hpermitted hother
    · exact fun hnot => absurd hlast hnot

/-- What begins in an inbox reaches a client only below its own identifier. -/
theorem permits_inbox_iff {first id : Token} {rest : List Token} {s route requestSubject : String}
    (nkey : String) (expires : ℤ) (husable : usablePrefix config.natsRequestSubjectPrefix = true)
    (hid : '.' ∉ id.val.toList) (hroute : Normalized idna route)
    (hsubject : subject table idna config.natsRequestSubjectPrefix route = .ok requestSubject)
    (htokens : (first :: rest).map Subtype.val = split '.' s)
    (hinbox : first = ingressInbox ∨ first = clientInbox) :
    permits (tunnelUser config nkey id.val requestSubject expires).subAllow s = true ↔
      ∃ others, others ≠ [] ∧ first :: rest = clientInbox :: id :: others := by
  obtain ⟨head, tail, hhead, hheadIngress, hheadClient⟩ := exists_prefix_tokens husable
  have hnormal : RouteAuth.normalizeHostname table idna route = .ok route :=
    hroute.normalizeHostname_eq
  have hsplit : split '.' requestSubject =
      head.val :: (tail.map Subtype.val ++ (split '.' route).reverse) := by
    rw [split_requestSubject hnormal hsubject, requestTokens, ← hhead]
    rfl
  have hfirst : first ≠ head := by
    rintro rfl
    rcases hinbox with rfl | rfl
    · exact hheadIngress rfl
    · exact hheadClient rfl
  exact permits_client_inbox_iff hid (subject_ne_empty hsubject) hsplit hfirst htokens

/-- The permissions of every issued ticket and of every ingress allow exactly
the messages of the claim protocol, each to its two sides. -/
theorem claim_protocol_permitted {now ingressNow : ℤ} {body : Option TokenRequest}
    {response : TokenResponse} (nkey ingressKey : String)
    (hissued : Issued table idna jwt signer config now body response)
    (husable : usablePrefix config.natsRequestSubjectPrefix = true) :
    Roles config.natsRequestSubjectPrefix response.hostname response.clientID
      (tunnelUser config nkey response.clientID response.requestSubject response.expiresUnix)
      (ingressUser config ingressNow ingressKey) := by
  obtain ⟨request, sub, entitlement, -, -, hmatched, hid, -⟩ := hissued.granted
  have hiddot := dot_not_mem_clientID hid
  have hroute := normalizeHostname_ok hmatched.route_eq
  have hsubject := hissued.requestSubject_eq
  obtain ⟨id, hidval⟩ : ∃ id : Token, id.val = response.clientID :=
    ⟨⟨response.clientID, publishable_clientID hid⟩, rfl⟩
  rw [← hidval] at hiddot ⊢
  constructor
  case requests =>
    intro hostname s hs
    have hnone : ¬ permits ["_INBOX.>"] s = true := by
      rw [not_permits_inbox husable hs]
      exact Bool.false_ne_true
    rw [tunnelUser_pubAllow, ingressUser_subAllow]
    exact ⟨permits_request_iff _ _ husable hs,
      permits_tunnelUser_iff config nkey _ _ husable id.property hiddot hroute hsubject hs,
      hnone, hnone⟩
  case claims =>
    intro name hname
    have htokens := split_ingressInbox hname
    have hpermitted := (permits_ingress_inbox_iff htokens).mpr ⟨rfl, List.cons_ne_nil _ _⟩
    rw [tunnelUser_pubAllow, ingressUser_subAllow, permits_ingress_iff,
      permits_inbox_iff nkey _ husable hiddot hroute hsubject htokens (Or.inl rfl)]
    refine ⟨hpermitted, hpermitted, ?_, ?_⟩
    · rintro ⟨others, -, hlist⟩
      exact ingressInbox_ne (List.cons.inj hlist).1
    · rintro (hrequest | hanswer)
      · exact not_permits_requests husable htokens (Or.inl rfl) hrequest
      · exact ingressInbox_ne ((permits_answers_iff htokens).mp hanswer).1
  case answers =>
    intro other name hother hname
    have htokens := split_clientInbox hother hname
    have hforeign : ¬ permits ["_INBOX.>"] (newInbox ("_LFP_INBOX." ++ other.val) name) = true := by
      rw [permits_ingress_inbox_iff htokens]
      exact fun h => ingressInbox_ne h.1.symm
    have hanswer := (permits_answers_iff htokens).mpr ⟨rfl, List.cons_ne_nil _ _⟩
    rw [tunnelUser_pubAllow, ingressUser_subAllow, permits_ingress_iff,
      permits_inbox_iff nkey _ husable hiddot hroute hsubject htokens (Or.inr rfl)]
    refine ⟨Or.inr hanswer, ⟨?_, ?_⟩, hforeign, hforeign⟩
    · rintro ⟨others, -, hlist⟩
      rw [(List.cons.inj (List.cons.inj hlist).2).1]
    · intro hsame
      refine ⟨[name], List.cons_ne_nil _ _, ?_⟩
      rw [Subtype.ext hsame]

end

/-- The ticket of a sample client and an ingress. -/
theorem claim_protocol_permitted_alice :
    Roles "lfp.v1.connect" "a.subdomain.domain" "laptop"
      (tunnelUser sampleConfig "UDEMO" "laptop" "lfp.v1.connect.domain.subdomain.a" 1700000900)
      (ingressUser sampleConfig 1700000000000000000 "UDEMO") :=
  claim_protocol_permitted "UDEMO" "UDEMO" (issueTunnelToken_ok sampleIssue_alice) (by decide)

end LfpPipe.ProtocolPermissions
