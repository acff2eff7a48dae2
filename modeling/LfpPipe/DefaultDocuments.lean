import LfpPipe.ConfigDecoding
import LfpPipe.PrincipalCreation

/-!
# Default documents and the tickets they ask for

A new principal is given a document with its client identifier and, as the
hostname, its entitlement. The client reads the document, asks the control
plane for a ticket of that hostname and stops when the ticket names another
client identifier. Four rules have to agree: which entitlements may be used,
what the document says, which hostnames get a ticket, and how client
identifiers are converted. They do, except that an entitlement may be the
configured suffix itself, which never gets a ticket. The TOML reader is a
parameter.
-/

namespace LfpPipe.DefaultDocuments

open RustText GoText RouteAuth TunnelTickets JsonValues RemotePrograms AuthentikApi
open DeviceEnrollment ServicePrincipals Fallible SharedConfig ConfigExpansion TomlValues
open ConfigDecoding

/-- The tree of a default document. -/
def defaultDocument (config : ServerConfig) (clientID hostname username : String) : Toml :=
  .table [
    ("defaults", .table [
      ("nats_url", .string (config.natsPublicURLs.headD "tls://nats.example.com:443")),
      ("relay_mode", .string "auto"),
      ("claim_ack_timeout_ms", .integer 1500),
      ("backend_addr", .string "127.0.0.1:443"),
      ("http_backend_addr", .string "127.0.0.1:80"),
      ("acme", .table [("production", .boolean true)]),
      ("oauth", .table [
        ("token_url", .string config.oauthTokenURL),
        ("provider_client_id", .string config.oidcClientID),
        ("username", .string username),
        ("client_secret_file", .string "__central__"),
        ("control_plane_url", .string config.publicURL),
        ("scopes", textArray ["openid", "profile", "entitlements"]),
        ("renew_before_seconds", .integer 60)])]),
    ("routes", .array [.table [
      ("client_id", .string clientID),
      ("hostname", .string hostname)]])]

/-- The inherited values of a default document. -/
def documentDefaults (config : ServerConfig) (username : String) : ClientConfigDefaults where
  natsUrl := some (config.natsPublicURLs.headD "tls://nats.example.com:443")
  relayMode := some .auto
  claimAckTimeoutMs := some 1500
  backendAddr := some "127.0.0.1:443"
  httpBackendAddr := some "127.0.0.1:80"
  acme := some { production := some true }
  oauth := some {
    tokenUrl := some config.oauthTokenURL
    providerClientId := some config.oidcClientID
    username := some username
    clientSecretFile := some "__central__"
    controlPlaneUrl := some config.publicURL
    scopes := some ["openid", "profile", "entitlements"]
    renewBeforeSeconds := some 60 }

/-- The exchange settings of a default document. -/
def documentOAuth (config : ServerConfig) (hostname username : String) : ClientOAuthConfig where
  tokenUrl := config.oauthTokenURL
  providerClientId := config.oidcClientID
  username := username
  clientSecretFile := "__central__"
  controlPlaneUrl := config.publicURL
  hostname := hostname
  scopes := ["openid", "profile", "entitlements"]
  renewBeforeSeconds := 60

/-- The one route that a default document stands for. -/
def documentClient (config : ServerConfig) (clientID hostname username : String) :
    ClientConfig where
  clientId := clientID
  natsUrl := config.natsPublicURLs.headD "tls://nats.example.com:443"
  natsTokenFile := none
  oauth := some (documentOAuth config hostname username)
  acme := some ⟨hostname, [], defaultAcmeCacheDir, true, none⟩
  authorization := none
  tcpPassthrough := true
  relayMode := .auto
  requestSubject := defaultRequestSubject
  claimAckTimeoutMs := 1500
  backendRules := [⟨hostname, none, false, true, "127.0.0.1:443", none, some "127.0.0.1:80", none⟩]

/-- A default document is one of the multi-route shape. -/
theorem fromToml_defaultDocument (config : ServerConfig) (clientID hostname username : String) :
    ClientConfigDocument.fromToml (defaultDocument config clientID hostname username) =
      some (.multiRoute ⟨documentDefaults config username, [⟨clientID, hostname, none, none, none,
        none, none, none, none, none, none, none, none, none, none, none, []⟩]⟩) := rfl

/-- The client reads a default document as its one route. -/
theorem parseClientToml_defaultDocument (config : ServerConfig)
    {clientID hostname : String} (username : String) (hclient : isBlank clientID = false)
    (hhostname : isBlank hostname = false) :
    parseClientToml (defaultDocument config clientID hostname username) =
      .ok [documentClient config clientID hostname username] := by
  have hacme : mergeAcmeDefaults (documentDefaults config username).acme none hostname =
      .ok (some ⟨hostname, [], defaultAcmeCacheDir, true, none⟩) := by
    have hcache : isBlank defaultAcmeCacheDir = false := by decide +kernel
    have hensure : ensure (!isBlank defaultAcmeCacheDir) "acme.cache_dir cannot be empty" =
        .ok () := by
      rw [hcache]
      rfl
    change (do
      ensure (!isBlank defaultAcmeCacheDir) "acme.cache_dir cannot be empty"
      Except.ok (some (⟨hostname, [], defaultAcmeCacheDir, true, none⟩ : ClientAcmeConfig))) = _
    rw [hensure]
    rfl
  have hexpand : expandClientRoute (documentDefaults config username)
      ⟨clientID, hostname, none, none, none, none, none, none, none, none, none, none, none, none,
        none, none, []⟩ = .ok (documentClient config clientID hostname username) := by
    rw [expandClientRoute]
    dsimp only
    rw [hclient, hhostname, hacme]
    rfl
  have hconfigs : documentConfigs (.multiRoute ⟨documentDefaults config username,
      [⟨clientID, hostname, none, none, none, none, none, none, none, none, none, none, none, none,
        none, none, []⟩]⟩) = .ok [documentClient config clientID hostname username] := by
    rw [documentConfigs, expandClientRoutes]
    dsimp only
    rw [expandRoutesFrom, hexpand]
    rfl
  have hread : parseClientToml (defaultDocument config clientID hostname username) =
      parseClientConfigs (.multiRoute ⟨documentDefaults config username,
        [⟨clientID, hostname, none, none, none, none, none, none, none, none, none, none, none,
          none, none, none, []⟩]⟩) := by
    rw [parseClientToml, fromToml_defaultDocument]
    simp only [orMissing, bind, Except.bind]
  rw [hread, parseClientConfigs, hconfigs]
  rfl

section

variable {table : LowerTable} {idna : Idna}

/-- The IDNA profile works label by label: what follows a dot of an accepted
output is an accepted output. -/
def Labelwise (idna : Idna) : Prop :=
  ∀ {value ascii before after : String}, idna.toASCII value = some ascii →
    ascii = before ++ "." ++ after → idna.toASCII after = some after

/-- A text that ends with another one. -/
theorem hasSuffix_eq_append {s ending : String} (h : hasSuffix s ending = true) :
    ∃ before, s = before ++ ending := by
  rw [hasSuffix, List.isSuffixOf_iff_suffix] at h
  obtain ⟨before, hbefore⟩ := h
  refine ⟨String.ofList before, ?_⟩
  rw [← String.toList_inj, String.toList_append, String.toList_ofList, hbefore]

/-- What a normalized hostname lies below is normalized. -/
theorem normalized_parent {hostname parent : String} (hidna : Labelwise idna)
    (h : Normalized idna hostname) (hbelow : hasSuffix hostname ("." ++ parent) = true) :
    Normalized idna parent := by
  obtain ⟨before, hbefore⟩ := hasSuffix_eq_append hbelow
  have hsplit : hostname = before ++ "." ++ parent := by
    rw [hbefore, String.append_assoc]
  have hlabels : ∀ label ∈ split '.' parent, invalidLabel label = false := by
    intro label hlabel
    refine h.labels label ?_
    have hpieces := split_append_separator '.' before parent
    have hdot : String.singleton '.' = "." := rfl
    rw [hdot, ← hsplit] at hpieces
    rw [hpieces]
    exact List.mem_append_right _ hlabel
  refine ⟨hidna h.mapped hsplit, ?_, ?_, hlabels⟩
  · intro hempty
    have hlabel := hlabels "" (by rw [hempty]; decide)
    exact absurd hlabel (by decide)
  · intro c hc
    refine h.chars c ?_
    rw [hsplit, String.toList_append]
    exact List.mem_append_right _ hc

/-- An entitlement that was found stays found. -/
theorem considerEntitlement_ne {route parent matched entitlement : String} (h : matched ≠ "") :
    considerEntitlement table idna route parent matched entitlement ≠ "" := by
  rw [considerEntitlement]
  split
  · exact h
  · split
    · exact h
    · split
      · rename_i hlonger
        rw [Bool.and_eq_true, decide_eq_true_eq] at hlonger
        intro hempty
        rw [hempty, String.utf8ByteSize_empty] at hlonger
        omega
      · exact h

/-- A covering entitlement among those carried is found, or a longer one. -/
theorem foldl_considerEntitlement_ne {route parent raw value : String} {entitlements : List String}
    (hraw : raw ∈ entitlements)
    (hvalue : normalizeHostname table idna (trimPrefix (trimSpace raw) "route:") = .ok value)
    (hbelow : (value != parent && !hasSuffix value ("." ++ parent)) = false)
    (howns : (route == value || hasSuffix route ("." ++ value)) = true) (matched : String) :
    entitlements.foldl (considerEntitlement table idna route parent) matched ≠ "" := by
  have hkeep : ∀ (rest : List String) {found : String}, found ≠ "" →
      rest.foldl (considerEntitlement table idna route parent) found ≠ "" := by
    intro rest
    induction rest with
    | nil => exact fun hfound => hfound
    | cons entitlement rest ih => exact fun hfound => ih (considerEntitlement_ne hfound)
  induction entitlements generalizing matched with
  | nil => cases hraw
  | cons entitlement entitlements ih =>
    rw [List.foldl_cons]
    rcases List.mem_cons.mp hraw with rfl | hlater
    · refine hkeep entitlements ?_
      rw [considerEntitlement, hvalue]
      dsimp only
      rw [hbelow, howns, if_neg Bool.false_ne_true, Bool.true_and]
      have hsize : value.utf8ByteSize ≠ 0 := by
        rw [Ne, String.utf8ByteSize_eq_zero_iff]
        exact (normalizeHostname_ok hvalue).nonempty
      split
      · exact (normalizeHostname_ok hvalue).nonempty
      · rename_i hlonger
        rw [decide_eq_true_eq] at hlonger
        intro hempty
        rw [hempty, String.utf8ByteSize_empty] at hlonger
        omega
    · exact ih hlater _

/-- The identity carries the entitlement, in some spelling. -/
def Carries (table : LowerTable) (idna : Idna) (identity : BrowserSession) (entitlement : String) :
    Prop :=
  ∃ raw ∈ identity.entitlements,
    normalizeHostname table idna (trimPrefix (trimSpace raw) "route:") = .ok entitlement

/-- An entitlement below the suffix gets a route of its own name. -/
theorem matchStrictSubdomain_own {identity : BrowserSession} {entitlement parent : String}
    (hidna : Labelwise idna) (hcarries : Carries table idna identity entitlement)
    (hbelow : hasSuffix entitlement ("." ++ parent) = true) (hne : entitlement ≠ parent) :
    ∃ matched, matchStrictSubdomain table idna identity.entitlements entitlement parent =
      .ok (entitlement, matched) := by
  obtain ⟨raw, hraw, hvalue⟩ := hcarries
  have hnormal := normalizeHostname_ok hvalue
  have hparent := normalized_parent hidna hnormal hbelow
  have hinside : (entitlement != parent && !hasSuffix entitlement ("." ++ parent)) = false := by
    rw [hbelow, Bool.not_true, Bool.and_false]
  have howns :
      (entitlement == entitlement || hasSuffix entitlement ("." ++ entitlement)) = true := by
    rw [beq_self_eq_true, Bool.true_or]
  have hfound := foldl_considerEntitlement_ne hraw hvalue hinside howns ""
  rw [matchStrictSubdomain, hnormal.normalizeHostname_eq, hparent.normalizeHostname_eq]
  dsimp only
  rw [beq_eq_false_iff_ne.mpr hne, hbelow, Bool.not_true, Bool.false_or,
    if_neg Bool.false_ne_true, if_neg (by rw [beq_iff_eq]; exact hfound)]
  exact ⟨_, rfl⟩

/-- The suffix itself gets no route. -/
theorem matchStrictSubdomain_suffix {entitlements : List String} {entitlement : String}
    (hnormal : Normalized idna entitlement) :
    matchStrictSubdomain table idna entitlements entitlement entitlement =
      .error ("route must be a strict subdomain of " ++ entitlement) := by
  rw [matchStrictSubdomain, hnormal.normalizeHostname_eq]
  dsimp only
  rw [beq_self_eq_true, Bool.true_or, if_pos rfl]

end

/-- The document in the attributes of a user. -/
def storedDocument (attributes : Fields) : String :=
  Json.textOr ((metadataRoot attributes).lookup "config_toml")

section

variable {table : LowerTable} {idna : Idna} {print : PrintTable} {config : ServerConfig}
  {State : Type} {serve : Service State Request Answer} {state : State}

/-- What an admission has established: the identifier is converted to itself,
and the entitlement is owned. -/
structure Admissible (table : LowerTable) (idna : Idna) (config : ServerConfig)
    (clientID entitlement : String) : Prop where
  /-- The identifier is converted to itself. -/
  client : RouteAuth.clientID table clientID = .ok clientID
  /-- The entitlement is normalized. -/
  normalized : Normalized idna entitlement
  /-- The entitlement is the suffix or lies below it. -/
  below : entitlement = config.allowedRouteSuffix ∨
    hasSuffix entitlement ("." ++ config.allowedRouteSuffix) = true

/-- An owned entitlement is normalized and not above the suffix. -/
theorem ownedEntitlement_ok {values : List String} {requested parent entitlement : String}
    (h : ownedEntitlement table idna values requested parent = .ok entitlement) :
    Normalized idna entitlement ∧
      (entitlement = parent ∨ hasSuffix entitlement ("." ++ parent) = true) := by
  rw [ownedEntitlement] at h
  split at h
  · cases h
  · rename_i normalized hnormalized
    split at h
    · cases h
    · rename_i hbelow
      split at h
      · cases h
        refine ⟨normalizeHostname_ok hnormalized, ?_⟩
        by_cases hparent : entitlement = parent
        · exact .inl hparent
        · right
          rw [Bool.and_eq_true, not_and, bne_iff_ne] at hbelow
          simpa using hbelow hparent
      · cases h

/-- The name that a claim falls back on is converted to itself. -/
theorem clientID_managedClient :
    RouteAuth.clientID table "managed-client" = .ok "managed-client" := by
  have hchars : ∀ c ∈ "managed-client".toList, clientIDChar c = true :=
    List.all_eq_true.mp (by decide)
  have hlower : toLower table "managed-client" = "managed-client" :=
    toLower_of_lower fun c hc => clientIDChar_toLower (hchars c hc)
  rw [RouteAuth.clientID, hlower, replaceRuns_of_keep '-' hchars]
  decide +kernel

/-- A request for a principal that is admitted. -/
theorem admissible_of_admitPrincipal {checked : ℤ} {credentials : Credentials}
    {body : Option PrincipalRequest} {admitted : Admitted}
    (h : admitPrincipal table idna config checked credentials body = .ok admitted) :
    Admissible table idna config admitted.clientID admitted.entitlement := by
  rw [admitPrincipal] at h
  split at h
  · cases h
  · split at h
    · cases h
    · split at h
      · cases h
      · rename_i name hname
        split at h
        · cases h
        · rename_i entitlement hentitlement
          cases h
          obtain ⟨hnormalized, hbelow⟩ := ownedEntitlement_ok hentitlement
          exact ⟨clientID_idempotent hname, hnormalized, hbelow⟩

/-- A claim that is admitted. -/
theorem admissible_of_admitClaim {checked : ℤ} {credentials : Credentials}
    {requested : Option String} {enrollment : Option Enrollment} {now : ℤ}
    {admitted : Admitted × Enrollment}
    (h : admitClaim table idna config checked credentials requested enrollment now =
      .ok admitted) :
    Admissible table idna config admitted.1.clientID admitted.1.entitlement := by
  rw [admitClaim] at h
  split at h
  · cases h
  · split at h
    · cases h
    · split at h
      · cases h
      · rename_i entitlement hentitlement
        obtain ⟨hnormalized, hbelow⟩ := ownedEntitlement_ok hentitlement
        split at h
        · cases h
        · rename_i enrollment
          split at h
          · cases h
          · cases h
            refine ⟨?_, hnormalized, hbelow⟩
            dsimp only
            split
            · rename_i name hname
              exact clientID_idempotent hname
            · exact clientID_managedClient

/-- A principal with the document that was stored for it. -/
structure Documented (print : PrintTable) (config : ServerConfig) (admitted : Admitted)
    (principal : ServicePrincipal) (document : String) : Prop where
  /-- The identifier is the one that was admitted. -/
  client : principal.clientID = admitted.clientID
  /-- The entitlement is the one that was admitted. -/
  entitled : principal.entitlement = admitted.entitlement
  /-- The document is the default one. -/
  stored : document = defaultClientConfig print config principal.clientID principal.entitlement
    principal.username

/-- Completing a principal stores its default document. -/
theorem documented_completePrincipal {admitted : Admitted} {target : Entitlement}
    {displayName : String} {created : CreatedServiceAccount} {answer : CreatedPrincipal} {pk : ℤ}
    {attributes : Fields}
    (hanswer : (exec serve state
      (completePrincipal print config admitted target displayName created)).2 = .ok answer)
    (hsent : Request.updateUserAttributes pk attributes ∈ sent serve state
      (completePrincipal print config admitted target displayName created)) :
    Documented print config admitted answer.principal (storedDocument attributes) := by
  rw [completePrincipal, Program.send_bind, exec] at hanswer
  rw [completePrincipal, Program.send_bind, sent] at hsent
  generalize (serve state (Request.updateUserAttributes created.userPK _)).1 = next
    at hanswer hsent
  generalize (serve state (Request.updateUserAttributes created.userPK _)).2 = updated
    at hanswer hsent
  cases updated with
  | error message => cases hanswer
  | ok _ =>
    dsimp only at hanswer hsent
    rw [Program.send_bind, exec] at hanswer
    rw [Program.send_bind, sent] at hsent
    generalize (serve next (Request.bindUser created.userPK target.pbmUUID)).1 = last
      at hanswer hsent
    generalize (serve next (Request.bindUser created.userPK target.pbmUUID)).2 = bound
      at hanswer hsent
    cases bound with
    | error message => cases hanswer
    | ok _ =>
      cases hanswer
      rcases List.mem_cons.mp hsent with hfirst | hrest
      · injection hfirst with _ hattributes
        rw [hattributes]
        exact ⟨rfl, rfl, rfl⟩
      · rcases List.mem_cons.mp hrest with hsecond | hnone
        · cases hsecond
        · cases hnone

/-- A search for an entitlement stores no attributes. -/
theorem update_not_sent_by_search {appSlug name : String} {pk : ℤ} {attributes : Fields}
    (h : Request.updateUserAttributes pk attributes ∈
      sent serve state (findEntitlement print appSlug name)) : False :=
  allowed_of_mem_sent (findEntitlement_reads print appSlug name) h

/-- A principal that was created has its default document. -/
theorem documented_createServicePrincipal {checked : ℤ} {credentials : Credentials}
    {body : Option PrincipalRequest} {random : Option String} {answer : CreatedPrincipal} {pk : ℤ}
    {attributes : Fields}
    (hanswer : (exec serve state (createServicePrincipal table idna print config checked credentials
      body random)).2 = .ok answer)
    (hsent : Request.updateUserAttributes pk attributes ∈ sent serve state
      (createServicePrincipal table idna print config checked credentials body random)) :
    ∃ admitted, admitPrincipal table idna config checked credentials body = .ok admitted ∧
      Documented print config admitted answer.principal (storedDocument attributes) := by
  rw [createServicePrincipal] at hanswer hsent
  cases hadmitted : admitPrincipal table idna config checked credentials body with
  | error error =>
    rw [hadmitted] at hanswer
    cases hanswer
  | ok admitted =>
    rw [hadmitted] at hanswer hsent
    dsimp only at hanswer hsent
    rw [exec_bind] at hanswer
    rw [sent_bind, List.mem_append] at hsent
    refine ⟨admitted, rfl, ?_⟩
    rcases hsent with hsearch | hsent
    · exact (update_not_sent_by_search hsearch).elim
    · generalize (exec serve state (findEntitlement print config.authentikApplicationSlug
        admitted.entitlement)).1 = next at hanswer hsent
      generalize (exec serve state (findEntitlement print config.authentikApplicationSlug
        admitted.entitlement)).2 = found at hanswer hsent
      cases found with
      | error message => cases hanswer
      | ok target =>
        cases random with
        | none => cases hanswer
        | some digits =>
          dsimp only at hanswer hsent
          rw [Program.send_bind, exec] at hanswer
          rw [Program.send_bind, sent] at hsent
          rcases List.mem_cons.mp hsent with hfirst | hsent
          · cases hfirst
          · generalize (serve next (Request.createServiceAccount _)).1 = last at hanswer hsent
            generalize (serve next (Request.createServiceAccount _)).2 = account at hanswer hsent
            cases account with
            | error message => cases hanswer
            | ok created => exact documented_completePrincipal hanswer hsent

/-- Completing a claim stores the default document. -/
theorem documented_completeClaim {admitted : Admitted} {record : Enrollment}
    {created : CreatedServiceAccount} {claimed : Enrollment × ServicePrincipal} {pk : ℤ}
    {attributes : Fields}
    (hanswer : (exec serve state (completeClaim print config admitted record created)).2 =
      .ok claimed)
    (hsent : Request.updateUserAttributes pk attributes ∈ sent serve state
      (completeClaim print config admitted record created)) :
    Documented print config admitted claimed.2 (storedDocument attributes) := by
  rw [completeClaim, Program.send_bind, exec] at hanswer
  rw [completeClaim, Program.send_bind, sent] at hsent
  generalize (serve state (Request.updateUserAttributes created.userPK _)).1 = last
    at hanswer hsent
  generalize (serve state (Request.updateUserAttributes created.userPK _)).2 = updated
    at hanswer hsent
  cases updated with
  | error message => cases hanswer
  | ok _ =>
    dsimp only at hanswer hsent
    rw [exec_bind] at hanswer
    rw [sent_bind] at hsent
    generalize (exec serve last (findEntitlement print config.authentikApplicationSlug
      admitted.entitlement)).1 = final at hanswer hsent
    generalize (exec serve last (findEntitlement print config.authentikApplicationSlug
      admitted.entitlement)).2 = found at hanswer hsent
    have hclaimed : claimed.2 = ⟨created.userPK, created.username, record.name,
        admitted.clientID, admitted.entitlement⟩ := by
      cases found with
      | error message =>
        cases hanswer
        rfl
      | ok target =>
        cases hanswer
        rfl
    have hattributes : Request.updateUserAttributes pk attributes =
        Request.updateUserAttributes created.userPK (principalAttributes admitted.session
          admitted.clientID admitted.entitlement (defaultClientConfig print config
            admitted.clientID admitted.entitlement created.username)) := by
      rcases List.mem_cons.mp hsent with hfirst | hsent
      · exact hfirst
      · rcases List.mem_append.mp hsent with hsearch | hsent
        · exact (update_not_sent_by_search hsearch).elim
        · cases found with
          | error message => cases hsent
          | ok target =>
            rcases List.mem_cons.mp hsent with hbind | hnone
            · cases hbind
            · cases hnone
    injection hattributes with _ hattributes
    rw [hclaimed, hattributes]
    exact ⟨rfl, rfl, rfl⟩

/-- A principal that was claimed has its default document. -/
theorem documented_claimPrincipal {checked : ℤ} {credentials : Credentials}
    {requested : Option String} {enrollment : Option Enrollment} {now : ℤ}
    {claimed : Enrollment × ServicePrincipal} {pk : ℤ} {attributes : Fields}
    (hanswer : (exec serve state (claimPrincipal table idna print config checked credentials
      requested enrollment now)).2 = .ok claimed)
    (hsent : Request.updateUserAttributes pk attributes ∈ sent serve state
      (claimPrincipal table idna print config checked credentials requested enrollment now)) :
    ∃ admitted, admitClaim table idna config checked credentials requested enrollment now =
        .ok admitted ∧
      Documented print config admitted.1 claimed.2 (storedDocument attributes) := by
  rw [claimPrincipal] at hanswer hsent
  cases hadmitted : admitClaim table idna config checked credentials requested enrollment now with
  | error error =>
    rw [hadmitted] at hanswer
    cases hanswer
  | ok admitted =>
    obtain ⟨admitted, record⟩ := admitted
    refine ⟨(admitted, record), rfl, ?_⟩
    rw [hadmitted] at hanswer hsent
    dsimp only at hanswer hsent
    rw [Program.send_bind, exec] at hanswer
    rw [Program.send_bind, sent] at hsent
    rcases List.mem_cons.mp hsent with hfirst | hsent
    · cases hfirst
    · generalize (serve state (Request.createServiceAccount admitted.clientID)).1 = next
        at hanswer hsent
      generalize (serve state (Request.createServiceAccount admitted.clientID)).2 = account
        at hanswer hsent
      cases account with
      | error message => cases hanswer
      | ok created => exact documented_completeClaim hanswer hsent

/-- A handler has created a principal and stored a document for it. -/
inductive Created (table : LowerTable) (idna : Idna) (print : PrintTable) (config : ServerConfig)
    (serve : Service State Request Answer) (state : State) : ServicePrincipal → String → Prop where
  /-- On the request of its owner. -/
  | created {checked : ℤ} {credentials : Credentials} {body : Option PrincipalRequest}
      {random : Option String} {answer : CreatedPrincipal} {pk : ℤ} {attributes : Fields}
      (success : (exec serve state (createServicePrincipal table idna print config checked
        credentials body random)).2 = .ok answer)
      (stored : Request.updateUserAttributes pk attributes ∈ sent serve state
        (createServicePrincipal table idna print config checked credentials body random)) :
      Created table idna print config serve state answer.principal (storedDocument attributes)
  /-- By a claim of an enrolled device. -/
  | claimed {checked : ℤ} {credentials : Credentials} {requested : Option String}
      {enrollment : Option Enrollment} {now : ℤ} {claim : Enrollment × ServicePrincipal} {pk : ℤ}
      {attributes : Fields}
      (success : (exec serve state (claimPrincipal table idna print config checked credentials
        requested enrollment now)).2 = .ok claim)
      (stored : Request.updateUserAttributes pk attributes ∈ sent serve state
        (claimPrincipal table idna print config checked credentials requested enrollment now)) :
      Created table idna print config serve state claim.2 (storedDocument attributes)

/-- A created principal is admissible and its document is the default one. -/
theorem Created.admissible {principal : ServicePrincipal} {document : String}
    (h : Created table idna print config serve state principal document) :
    Admissible table idna config principal.clientID principal.entitlement ∧
      document = defaultClientConfig print config principal.clientID principal.entitlement
        principal.username := by
  cases h with
  | created success stored =>
    obtain ⟨admitted, hadmitted, hdocumented⟩ := documented_createServicePrincipal success stored
    refine ⟨?_, hdocumented.stored⟩
    rw [hdocumented.client, hdocumented.entitled]
    exact admissible_of_admitPrincipal hadmitted
  | claimed success stored =>
    obtain ⟨admitted, hadmitted, hdocumented⟩ := documented_claimPrincipal success stored
    refine ⟨?_, hdocumented.stored⟩
    rw [hdocumented.client, hdocumented.entitled]
    exact admissible_of_admitClaim hadmitted

variable {jwt : JwtPackage} {signer : Signer} {verify : String → Except String BrowserSession}
  {checked now : ℤ} {credentials : Credentials} {identity : BrowserSession}

/-- The client that runs a document asks for a ticket for its hostname and
client identifier, and gets one that names the same client identifier. -/
def ObtainsTicket (table : LowerTable) (idna : Idna) (jwt : JwtPackage) (signer : Signer)
    (config : ServerConfig) (verify : String → Except String BrowserSession) (checked now : ℤ)
    (credentials : Credentials) (read : String → Option Toml) (document : String) : Prop :=
  ∃ tree client oauth response, read document = some tree ∧
    parseClientToml tree = .ok [client] ∧ client.oauth = some oauth ∧
    issueTunnelToken table idna jwt signer config.toConfig verify checked now credentials
      (some ⟨oauth.hostname, client.clientId⟩) = .ok response ∧
    response.clientID = client.clientId

/-- A text without white space that is not empty is not blank. -/
theorem isBlank_of_chars {s : String} (hne : s ≠ "")
    (h : ∀ c ∈ s.toList, isWhitespace c = false) : isBlank s = false := by
  have htrim : trim s = s := trimSpace_of_no_space h
  rw [isBlank, htrim, Bool.eq_false_iff, Ne, String.isEmpty_iff]
  exact hne

/-- A character of a client identifier is not white space. -/
theorem clientIDChar_isWhitespace {c : Char} (h : clientIDChar c = true) :
    isWhitespace c = false := by
  rw [clientIDChar, Bool.or_eq_true, Bool.or_eq_true, Bool.or_eq_true, beq_iff_eq, beq_iff_eq] at h
  rcases h with ((h | h) | h) | h
  · exact hostnameChar_isWhitespace (.inr (.inr (.inl h)))
  · exact hostnameChar_isWhitespace (.inr (.inr (.inr h)))
  · rw [h]
    decide
  · rw [h]
    decide

/-- The client of a created principal whose token carries the entitlement
obtains a ticket under its configured client identifier, exactly when the
entitlement is not the configured suffix itself. -/
theorem default_document_obtains_ticket_iff {principal : ServicePrincipal} {document : String}
    {read : String → Option Toml}
    (hcreated : Created table idna print config serve state principal document)
    (hidna : Labelwise idna)
    (hread : read (defaultClientConfig print config principal.clientID principal.entitlement
      principal.username) = some (defaultDocument config principal.clientID principal.entitlement
        principal.username))
    (hidentity : requireIdentity verify checked credentials = .ok identity)
    (hcarries : Carries table idna identity principal.entitlement)
    (hsign : ∀ matched, matchStrictSubdomain table idna identity.entitlements
      principal.entitlement config.allowedRouteSuffix = .ok (principal.entitlement, matched) →
      ∃ ticket, signer.issue jwt now identity.subject principal.clientID principal.entitlement
        matched = .ok ticket) :
    ObtainsTicket table idna jwt signer config verify checked now credentials read document ↔
      principal.entitlement ≠ config.allowedRouteSuffix := by
  obtain ⟨hadmissible, rfl⟩ := hcreated.admissible
  have hclient : isBlank principal.clientID = false :=
    isBlank_of_chars (clientID_ne_empty hadmissible.client) fun c hc =>
      clientIDChar_isWhitespace (clientID_chars hadmissible.client c hc)
  have hhostname : isBlank principal.entitlement = false :=
    isBlank_of_chars hadmissible.normalized.nonempty fun c hc =>
      hostnameChar_isWhitespace (hadmissible.normalized.chars c hc)
  have hparse := parseClientToml_defaultDocument config principal.username hclient hhostname
  constructor
  · intro hobtains hsuffix
    obtain ⟨tree, client, oauth, response, htree, hconfigs, hoauth, hissued, -⟩ := hobtains
    rw [hread] at htree
    cases htree
    rw [hparse] at hconfigs
    cases hconfigs
    cases hoauth
    rw [issueTunnelToken, hidentity] at hissued
    dsimp only at hissued
    have hrefused : matchStrictSubdomain table idna identity.entitlements principal.entitlement
        config.allowedRouteSuffix =
        .error ("route must be a strict subdomain of " ++ principal.entitlement) := by
      rw [← hsuffix]
      exact matchStrictSubdomain_suffix hadmissible.normalized
    have hhost : (documentOAuth config principal.entitlement principal.username).hostname =
        principal.entitlement := rfl
    rw [hhost, hrefused] at hissued
    cases hissued
  · intro hne
    have hbelow := hadmissible.below.resolve_left hne
    obtain ⟨matched, hmatched⟩ := matchStrictSubdomain_own hidna hcarries hbelow hne
    obtain ⟨ticket, hticket⟩ := hsign matched hmatched
    obtain ⟨value, expires⟩ := ticket
    have hsubject : ∃ subject, RouteAuth.subject table idna config.natsRequestSubjectPrefix
        principal.entitlement = .ok subject := by
      rw [RouteAuth.subject, hadmissible.normalized.normalizeHostname_eq]
      exact ⟨_, rfl⟩
    obtain ⟨subject, hsubject⟩ := hsubject
    have hissued : issueTunnelToken table idna jwt signer config.toConfig verify checked now
        credentials (some ⟨principal.entitlement, principal.clientID⟩) =
        .ok { token := value, expiresAt := expires, expiresUnix := unix expires,
              hostname := principal.entitlement, clientID := principal.clientID,
              requestSubject := subject, natsURLs := config.natsPublicURLs } := by
      rw [issueTunnelToken, hidentity]
      dsimp only
      rw [hmatched]
      dsimp only
      rw [hadmissible.client]
      dsimp only
      rw [hsubject]
      dsimp only
      rw [hticket]
    exact ⟨_, _, _, _, hread, hparse, rfl, hissued, rfl⟩

end

/-- A session of an owner of one entitlement. -/
def ownerOf (entitlement : String) : Credentials where
  authorization := ""
  cookie := .ok
    { subject := "ann", name := "Ann", email := "", entitlements := [entitlement],
      expiresUnix := 1700003600, username := "ann" }

/-- Authentik with the application and one entitlement. -/
def authentikWith (entitlement : String) : Authentik :=
  ⟨[], [⟨"app-1", "LFP Pipe", "lfp-pipe", none⟩], [⟨entitlement, "target-1", "app-1"⟩], [], [], []⟩

/-- The principal of the samples. -/
def samplePrincipal (entitlement : String) : ServicePrincipal where
  id := 1
  username := "lfp-pipe-web-00c0ffee"
  name := "lfp-pipe-web-00c0ffee"
  clientID := "web"
  entitlement := entitlement

/-- What the owner of an entitlement is admitted to. -/
def sampleAdmission (entitlement : String) : Admitted where
  session :=
    { subject := "ann", name := "Ann", email := "", entitlements := [entitlement],
      expiresUnix := 1700003600, username := "ann" }
  clientID := "web"
  entitlement := entitlement

/-- A creation by the owner stores the default document. -/
theorem created_sample {entitlement : String}
    (hadmitted : admitPrincipal asciiTable plainIdna PrincipalCreation.sampleServerConfig 0
      (ownerOf entitlement) (some ⟨"web", entitlement⟩) = .ok (sampleAdmission entitlement))
    (hfind : exec (apply countingAllocator) (authentikWith entitlement)
      (findEntitlement asciiPrintTable
        PrincipalCreation.sampleServerConfig.authentikApplicationSlug
        (sampleAdmission entitlement).entitlement) =
      (authentikWith entitlement, .ok ⟨entitlement, "target-1", "app-1"⟩)) :
    Created asciiTable plainIdna asciiPrintTable PrincipalCreation.sampleServerConfig
      (apply countingAllocator) (authentikWith entitlement) (samplePrincipal entitlement)
      (defaultClientConfig asciiPrintTable PrincipalCreation.sampleServerConfig "web" entitlement
        "lfp-pipe-web-00c0ffee") := by
  have hanswer : (exec (apply countingAllocator) (authentikWith entitlement)
      (createServicePrincipal asciiTable plainIdna asciiPrintTable
        PrincipalCreation.sampleServerConfig 0 (ownerOf entitlement) (some ⟨"web", entitlement⟩)
        (some "00c0ffee"))).2 = .ok (createdPrincipal PrincipalCreation.sampleServerConfig
          (sampleAdmission entitlement) "lfp-pipe-web-00c0ffee"
          ⟨"lfp-pipe-web-00c0ffee", "app-password", 1⟩) := by
    rw [createServicePrincipal, hadmitted]
    dsimp only
    rw [exec_bind, hfind]
    rfl
  have hsent : Request.updateUserAttributes 1 (principalAttributes
      (sampleAdmission entitlement).session "web" entitlement
      (defaultClientConfig asciiPrintTable PrincipalCreation.sampleServerConfig "web" entitlement
        "lfp-pipe-web-00c0ffee")) ∈ sent (apply countingAllocator) (authentikWith entitlement)
      (createServicePrincipal asciiTable plainIdna asciiPrintTable
        PrincipalCreation.sampleServerConfig 0 (ownerOf entitlement) (some ⟨"web", entitlement⟩)
        (some "00c0ffee")) := by
    rw [createServicePrincipal, hadmitted]
    dsimp only
    rw [sent_bind, hfind]
    refine List.mem_append_right _ ?_
    exact .tail _ (.head _)
  exact Created.created hanswer hsent

/-- The profile on hostnames in ASCII form works label by label. -/
theorem labelwise_plainIdna : Labelwise plainIdna := by
  intro value ascii before after hascii hsplit
  have hchars : after.toList.all (fun c => decide (HostnameChar c)) = true := by
    rw [List.all_eq_true]
    intro c hc
    refine decide_eq_true (plainIdna.toASCII_chars hascii c ?_)
    rw [hsplit, String.toList_append]
    exact List.mem_append_right _ hc
  exact if_pos hchars

/-- A reader that knows the default document of the sample principal. -/
def sampleReader (entitlement text : String) : Option Toml :=
  if text = defaultClientConfig asciiPrintTable PrincipalCreation.sampleServerConfig "web"
      entitlement "lfp-pipe-web-00c0ffee" then
    some (defaultDocument PrincipalCreation.sampleServerConfig "web" entitlement
      "lfp-pipe-web-00c0ffee")
  else none

/-- The identity of the machine with the entitlement. -/
def machineIdentity (entitlement : String) : BrowserSession where
  subject := "machine-1"
  name := "lfp-pipe-web-00c0ffee"
  email := ""
  entitlements := ["route:" ++ entitlement]
  expiresUnix := 1700003600
  username := "lfp-pipe-web-00c0ffee"

/-- The verification of the access token of the machine. -/
def machineVerify (entitlement : String) (_ : String) : Except String BrowserSession :=
  .ok (machineIdentity entitlement)

/-- The request of the machine. -/
def machineBearer : Credentials where
  authorization := "Bearer access-token"
  cookie := .error "http: named cookie not present"

/-- The ticket of the machine. -/
def machineClaims (entitlement : String) : Claims where
  route := entitlement
  entitlement := entitlement
  clientID := "web"
  issuer := issuer
  subject := "machine-1"
  audience := ["nats"]
  issuedAt := some 1700000000
  notBefore := some 1699999995
  expiresAt := some 1700000900

/-- The machine of an owner of a name below the suffix obtains its ticket. -/
theorem default_document_obtains_ticket_below :
    ObtainsTicket asciiTable plainIdna (listedJwt [machineClaims "web.subdomain.domain"])
      ⟨[1, 2, 3], 900 * second⟩ PrincipalCreation.sampleServerConfig
      (machineVerify "web.subdomain.domain") (1700000000 * second) (1700000000 * second)
      machineBearer (sampleReader "web.subdomain.domain")
      (defaultClientConfig asciiPrintTable PrincipalCreation.sampleServerConfig "web"
        "web.subdomain.domain" "lfp-pipe-web-00c0ffee") := by
  have hadmitted : admitPrincipal asciiTable plainIdna PrincipalCreation.sampleServerConfig 0
      (ownerOf "web.subdomain.domain") (some ⟨"web", "web.subdomain.domain"⟩) =
      .ok (sampleAdmission "web.subdomain.domain") := by
    decide +kernel
  have hcreated := created_sample hadmitted rfl
  have hidentity : requireIdentity (machineVerify "web.subdomain.domain") (1700000000 * second)
      machineBearer = .ok (machineIdentity "web.subdomain.domain") := by
    decide +kernel
  have hcarries : Carries asciiTable plainIdna (machineIdentity "web.subdomain.domain")
      (samplePrincipal "web.subdomain.domain").entitlement :=
    ⟨_, .head _, by decide +kernel⟩
  have hmatched : matchStrictSubdomain asciiTable plainIdna
      (machineIdentity "web.subdomain.domain").entitlements "web.subdomain.domain"
      "subdomain.domain" = .ok ("web.subdomain.domain", "web.subdomain.domain") := by
    decide +kernel
  have hsign : ∀ matched, matchStrictSubdomain asciiTable plainIdna
      (machineIdentity "web.subdomain.domain").entitlements
      (samplePrincipal "web.subdomain.domain").entitlement
      PrincipalCreation.sampleServerConfig.allowedRouteSuffix =
      .ok ((samplePrincipal "web.subdomain.domain").entitlement, matched) →
      ∃ ticket, Signer.issue (listedJwt [machineClaims "web.subdomain.domain"])
        ⟨[1, 2, 3], 900 * second⟩ (1700000000 * second)
        (machineIdentity "web.subdomain.domain").subject
        (samplePrincipal "web.subdomain.domain").clientID
        (samplePrincipal "web.subdomain.domain").entitlement matched = .ok ticket := by
    intro matched h
    have hsame := Except.ok.inj (hmatched.symm.trans h)
    cases hsame
    exact ⟨("1", 1700000900 * second), by decide +kernel⟩
  exact (default_document_obtains_ticket_iff hcreated labelwise_plainIdna (if_pos rfl) hidentity
    hcarries hsign).mpr (by decide +kernel)

/-- The machine of an owner of the suffix itself obtains no ticket for the
hostname its document asks for. -/
theorem default_document_refused_suffix :
    Created asciiTable plainIdna asciiPrintTable PrincipalCreation.sampleServerConfig
        (apply countingAllocator) (authentikWith "subdomain.domain")
        (samplePrincipal "subdomain.domain")
        (defaultClientConfig asciiPrintTable PrincipalCreation.sampleServerConfig "web"
          "subdomain.domain" "lfp-pipe-web-00c0ffee") ∧
      Carries asciiTable plainIdna (machineIdentity "subdomain.domain") "subdomain.domain" ∧
      ¬ ObtainsTicket asciiTable plainIdna (listedJwt [machineClaims "subdomain.domain"])
        ⟨[1, 2, 3], 900 * second⟩ PrincipalCreation.sampleServerConfig
        (machineVerify "subdomain.domain") (1700000000 * second) (1700000000 * second)
        machineBearer (sampleReader "subdomain.domain")
        (defaultClientConfig asciiPrintTable PrincipalCreation.sampleServerConfig "web"
          "subdomain.domain" "lfp-pipe-web-00c0ffee") := by
  have hadmitted : admitPrincipal asciiTable plainIdna PrincipalCreation.sampleServerConfig 0
      (ownerOf "subdomain.domain") (some ⟨"web", "subdomain.domain"⟩) =
      .ok (sampleAdmission "subdomain.domain") := by
    decide +kernel
  have hcarries : Carries asciiTable plainIdna (machineIdentity "subdomain.domain")
      "subdomain.domain" :=
    ⟨_, .head _, by decide +kernel⟩
  refine ⟨created_sample hadmitted rfl, hcarries, ?_⟩
  intro hobtains
  obtain ⟨tree, client, oauth, response, htree, hconfigs, hoauth, hissued, -⟩ := hobtains
  have hread : sampleReader "subdomain.domain"
      (defaultClientConfig asciiPrintTable PrincipalCreation.sampleServerConfig "web"
        "subdomain.domain" "lfp-pipe-web-00c0ffee") =
      some (defaultDocument PrincipalCreation.sampleServerConfig "web" "subdomain.domain"
        "lfp-pipe-web-00c0ffee") := if_pos rfl
  cases hread.symm.trans htree
  have hparse := parseClientToml_defaultDocument PrincipalCreation.sampleServerConfig
    "lfp-pipe-web-00c0ffee" (show isBlank "web" = false by decide)
    (show isBlank "subdomain.domain" = false by decide)
  cases hparse.symm.trans hconfigs
  cases hoauth
  have hrefused : issueTunnelToken asciiTable plainIdna
      (listedJwt [machineClaims "subdomain.domain"]) ⟨[1, 2, 3], 900 * second⟩
      PrincipalCreation.sampleServerConfig.toConfig (machineVerify "subdomain.domain")
      (1700000000 * second) (1700000000 * second) machineBearer
      (some ⟨"subdomain.domain", "web"⟩) =
      .error ⟨403, "route must be a strict subdomain of subdomain.domain"⟩ := by
    decide +kernel
  cases hrefused.symm.trans hissued

end LfpPipe.DefaultDocuments
