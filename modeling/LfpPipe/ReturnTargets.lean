import LfpPipe.SessionRoles
import LfpPipe.UrlReferences

/-!
# Where a browser goes after its login

The page that a login returns to is the target of the request that started it,
kept in the private flow cookie and sent back in the location of the finished
login. It is compared here with what a browser makes of that location.
-/

namespace LfpPipe.ReturnTargets

open RustText Fallible SharedConfig ClientIdentity HttpMessages ClientAuthorizer UrlReferences
  SessionRoles

variable {Key : Type}

/-- The path and query of a request target. -/
def requestTarget (uri : Uri) : String := uri.pathAndQuery.getD "/"

/-- A request target of visible characters, as a parsed address has it. -/
def Visible (uri : Uri) : Prop := ∀ c ∈ (requestTarget uri).toList, 32 < c.toNat

/-- A page of the origin that a login may return to. -/
structure LocalTarget (target : String) : Prop where
  /-- It begins with a slash. -/
  rooted : target.toList[0]? = some '/'
  /-- It is short. -/
  bounded : target.utf8ByteSize ≤ 1024
  /-- No other slash follows, in either direction. -/
  single : ∀ c, target.toList[1]? = some c → c ≠ '/' ∧ c ≠ '\\'
  /-- A browser resolves it to the origin. -/
  stays : StaysOnOrigin target

/-- A login whose return target is local, in its cookie and in the location of
every finished login that sends this cookie. -/
structure LocalReturn (ext : Externals Key) (oidc : OidcAuthorizer Key)
    (created : PrivateCookie Key) : Prop where
  /-- The flow in the cookie has a local target. -/
  stored : ∀ flow, ext.decodeFlow created.plaintext = .ok flow → LocalTarget flow.returnTo
  /-- A finished login is sent to a local target. -/
  sent : ∀ (world : World Key) (uri : Uri) (headers : HeaderMap) (response : AuthResponse)
    (session : PrivateCookie Key), requestCookie headers oidc.flowCookie = some created.value →
    oidc.callbackInner ext world uri headers = .ok (response, session) →
      ∃ value target, response.headers.getAll "location" = [value] ∧
        fromUtf8 value = some target ∧ LocalTarget target

/-- The flow that a login remembers. -/
def startedFlow (world : World Key) (uri : Uri) : OidcFlow :=
  ⟨world.freshState, world.freshNonce, world.freshVerifier, safeReturnTo uri,
    saturatingAdd world.now (10 * 60)⟩

/-- A text begins with one character followed by another. -/
theorem startsWith_pair_iff {s : String} {first second : Char} :
    startsWith s (String.ofList [first, second]) = true ↔
      s.toList[0]? = some first ∧ s.toList[1]? = some second := by
  rw [startsWith, List.isPrefixOf_iff_prefix, String.toList_ofList]
  constructor
  · rintro ⟨rest, hrest⟩
    rw [← hrest]
    exact ⟨rfl, rfl⟩
  · rintro ⟨hfirst, hsecond⟩
    cases hs : s.toList with
    | nil =>
      rw [hs] at hfirst
      cases hfirst
    | cons one chars =>
      rw [hs] at hfirst hsecond
      cases hfirst
      cases chars with
      | nil => cases hsecond
      | cons two rest =>
        cases hsecond
        exact ⟨rest, rfl⟩

/-- A text begins with a slash. -/
theorem startsWith_slash_iff {s : String} :
    startsWith s "/" = true ↔ s.toList[0]? = some '/' := by
  rw [startsWith, List.isPrefixOf_iff_prefix]
  constructor
  · rintro ⟨rest, hrest⟩
    rw [← hrest]
    rfl
  · intro hfirst
    cases hs : s.toList with
    | nil =>
      rw [hs] at hfirst
      cases hfirst
    | cons first rest =>
      rw [hs] at hfirst
      cases hfirst
      exact ⟨rest, rfl⟩

/-- The root is a local target. -/
theorem localTarget_root : LocalTarget "/" where
  rooted := rfl
  bounded := by decide
  single c hc := by cases hc
  stays := by
    rw [StaysOnOrigin]
    decide +kernel

/-- The target of a visible request is a local return target, unless a backslash
follows its slash and it is short enough to be kept. -/
theorem localTarget_safeReturnTo_iff {uri : Uri} (hvisible : Visible uri) :
    LocalTarget (safeReturnTo uri) ↔
      ¬ (startsWith (requestTarget uri) "/\\" = true ∧
        (requestTarget uri).utf8ByteSize ≤ 1024) := by
  have hdouble : startsWith (requestTarget uri) "//" = true ↔
      (requestTarget uri).toList[0]? = some '/' ∧ (requestTarget uri).toList[1]? = some '/' :=
    startsWith_pair_iff
  have hback : startsWith (requestTarget uri) "/\\" = true ↔
      (requestTarget uri).toList[0]? = some '/' ∧ (requestTarget uri).toList[1]? = some '\\' :=
    startsWith_pair_iff
  have heq : safeReturnTo uri =
      if startsWith (requestTarget uri) "/" && !startsWith (requestTarget uri) "//" &&
        (requestTarget uri).utf8ByteSize ≤ 1024 then requestTarget uri else "/" := rfl
  rw [heq]
  split
  · rename_i hkept
    simp only [Bool.and_eq_true, Bool.not_eq_true', decide_eq_true_eq] at hkept
    obtain ⟨⟨hslash, hsingle⟩, hshort⟩ := hkept
    have hrooted := startsWith_slash_iff.mp hslash
    have hclean : ∀ c ∈ (requestTarget uri).toList, isDropped c = false := by
      intro c hc
      have hlarge := hvisible c hc
      rw [← Bool.not_eq_true]
      intro hdropped
      simp only [isDropped, Bool.or_eq_true, beq_iff_eq] at hdropped
      rcases hdropped with (rfl | rfl) | rfl
      · exact absurd hlarge (by decide)
      · exact absurd hlarge (by decide)
      · exact absurd hlarge (by decide)
    constructor
    · rintro hlocal ⟨hbackslash, -⟩
      exact (hlocal.single '\\' (hback.mp hbackslash).2).2 rfl
    · intro hplain
      have hsecond : ∀ c, (requestTarget uri).toList[1]? = some c → c ≠ '/' ∧ c ≠ '\\' := by
        intro c hc
        constructor
        · rintro rfl
          rw [hdouble.mpr ⟨hrooted, hc⟩] at hsingle
          cases hsingle
        · rintro rfl
          exact hplain ⟨hback.mpr ⟨hrooted, hc⟩, hshort⟩
      exact ⟨hrooted, hshort, hsecond, (staysOnOrigin_iff hclean hrooted).mpr hsecond⟩
  · rename_i hdropped
    refine iff_of_true localTarget_root ?_
    rintro ⟨hbackslash, hshort⟩
    obtain ⟨hrooted, hsecond⟩ := hback.mp hbackslash
    have hslash := startsWith_slash_iff.mpr hrooted
    have hsingle : startsWith (requestTarget uri) "//" = false := by
      rw [← Bool.not_eq_true, hdouble]
      rintro ⟨-, hother⟩
      rw [hsecond] at hother
      exact absurd hother (by decide)
    refine hdropped ?_
    rw [hslash, hsingle, decide_eq_true hshort]
    rfl

/-- Cookies leave the other headers as they are. -/
theorem appendCookies_getAll {headers result : HeaderMap} {cookies : List String} {name : String}
    (h : appendCookies headers cookies = .ok result) (hname : name ≠ "set-cookie") :
    result.getAll name = headers.getAll name := by
  induction cookies generalizing headers with
  | nil =>
    cases h
    rfl
  | cons cookie rest ih =>
    simp only [appendCookies, bind_eq_ok] at h
    obtain ⟨value, -, hrest⟩ := h
    rw [ih hrest]
    exact if_neg hname

/-- A redirect has one location, whose text is the target. -/
theorem redirectResponse_location {status : ℕ} {location : String} {cookies : List String}
    {response : AuthResponse} (h : redirectResponse status location cookies = .ok response) :
    ∃ value, response.headers.getAll "location" = [value] ∧ fromUtf8 value = some location := by
  simp only [redirectResponse, bind_eq_ok, orMissing_eq_ok, Except.ok.injEq] at h
  obtain ⟨value, hvalue, headers, hcookies, rfl⟩ := h
  refine ⟨value, ?_, fromUtf8_of_fromStr hvalue⟩
  rw [appendCookies_getAll hcookies (by decide)]
  rfl

/-- A login that answers keeps its flow in its cookie. -/
theorem loginInner_created {ext : Externals Key} {world : World Key} {oidc : OidcAuthorizer Key}
    {uri : Uri} {response : AuthResponse} {created : PrivateCookie Key}
    (h : oidc.loginInner ext world uri = .ok (response, created)) :
    created.plaintext = ext.encodeFlow (startedFlow world uri) ∧
      created.value = ext.encrypt oidc.cookieKey oidc.flowCookie created.plaintext
        world.freshCookie := by
  simp only [OidcAuthorizer.loginInner, OidcAuthorizer.encryptCookie, bind_eq_ok, Except.ok.injEq,
    Prod.mk.injEq, Prod.exists] at h
  obtain ⟨_, -, _, _, ⟨_, -, -, rfl⟩, _, -, -, rfl⟩ := h
  exact ⟨rfl, rfl⟩

/-- A finished login goes where the flow in its cookie says. -/
theorem callbackInner_location {ext : Externals Key} {world : World Key}
    {oidc : OidcAuthorizer Key} {uri : Uri} {headers : HeaderMap} {response : AuthResponse}
    {session : PrivateCookie Key} {raw plaintext : String} {flow : OidcFlow}
    (hcookie : requestCookie headers oidc.flowCookie = some raw)
    (hdecrypt : ext.decrypt oidc.cookieKey oidc.flowCookie raw = some plaintext)
    (hdecode : ext.decodeFlow plaintext = .ok flow)
    (h : oidc.callbackInner ext world uri headers = .ok (response, session)) :
    ∃ value, response.headers.getAll "location" = [value] ∧
      fromUtf8 value = some flow.returnTo := by
  have hread : oidc.decryptCookie ext ext.decodeFlow headers oidc.flowCookie = .ok (some flow) := by
    rw [OidcAuthorizer.decryptCookie, hcookie]
    dsimp only
    rw [hdecrypt]
    dsimp only
    rw [hdecode]
    rfl
  simp only [OidcAuthorizer.callbackInner, hread, bind_eq_ok, Except.ok.injEq, orMissing_eq_ok,
    Prod.mk.injEq, Prod.exists] at h
  obtain ⟨_, rfl, _, hflow, _, -, _, -, _, -, _, -, _, -, _, -, _, -, _, -, _, -, _, _, -, _,
    hredirect, rfl, -⟩ := h
  cases hflow
  exact redirectResponse_location hredirect

/-- A login returns to a local target exactly when no backslash follows the slash
of the request target, or the target is too long to be kept. -/
theorem login_returns_locally_iff {ext : Externals Key} {world : World Key}
    {oidc : OidcAuthorizer Key} {uri : Uri} {response : AuthResponse}
    {created : PrivateCookie Key}
    (hlogin : oidc.loginInner ext world uri = .ok (response, created))
    (hvisible : Visible uri)
    (hdecode : ext.decodeFlow (ext.encodeFlow (startedFlow world uri)) =
      .ok (startedFlow world uri))
    (hdecrypt : ∀ plaintext fresh, ext.decrypt oidc.cookieKey oidc.flowCookie
      (ext.encrypt oidc.cookieKey oidc.flowCookie plaintext fresh) = some plaintext) :
    LocalReturn ext oidc created ↔
      ¬ (startsWith (requestTarget uri) "/\\" = true ∧
        (requestTarget uri).utf8ByteSize ≤ 1024) := by
  obtain ⟨hplaintext, hvalue⟩ := loginInner_created hlogin
  have hflow : ext.decodeFlow created.plaintext = .ok (startedFlow world uri) := by
    rw [hplaintext, hdecode]
  rw [← localTarget_safeReturnTo_iff hvisible]
  constructor
  · intro hreturn
    exact hreturn.stored _ hflow
  · intro hlocal
    constructor
    · intro flow hother
      rw [hflow] at hother
      cases hother
      exact hlocal
    · intro later callbackUri headers answer session hcookie hcallback
      have hopened : ext.decrypt oidc.cookieKey oidc.flowCookie created.value =
          some created.plaintext := by
        rw [hvalue, hdecrypt]
      obtain ⟨value, hlocation, htext⟩ :=
        callbackInner_location hcookie hopened hflow hcallback
      exact ⟨value, safeReturnTo uri, hlocation, htext, hlocal⟩

/-- A login state as one line of text. -/
def flowText (flow : OidcFlow) : String :=
  flow.state ++ " " ++ flow.nonce ++ " " ++ flow.pkceVerifier ++ " " ++ flow.returnTo ++ " " ++
    toString flow.expiresUnix

/-- A request for a page of the route. -/
def dashboard : Uri := ⟨"/dashboard", some "tab=jobs"⟩

/-- A request whose target names another host to a browser. -/
def backslashed : Uri := ⟨"/\\attacker.example/path", none⟩

/-- The provider answers for one user. -/
def loginWorld : World Unit := providerWorld plainClaims

/-- Externals that read one login state back. -/
def flowExternals (flow : OidcFlow) : Externals Unit :=
  { sampleExternals with
    encodeFlow := flowText
    decodeFlow := fun text =>
      if text = flowText flow then .ok flow else .error ["decode encrypted OIDC cookie"] }

/-- A login of the docs route. -/
def docsLogin : OidcAuthorizer Unit :=
  ⟨openPolicy, "docs.example", none, (), "__Host-lfp_flow_a1", "__Host-lfp_session_a1"⟩

/-- A login for a page of the route. -/
def dashboardExternals : Externals Unit := flowExternals (startedFlow loginWorld dashboard)

/-- A login for the other target. -/
def backslashedExternals : Externals Unit := flowExternals (startedFlow loginWorld backslashed)

/-- The login state is read back. -/
theorem flowExternals_decodes (flow : OidcFlow) :
    (flowExternals flow).decodeFlow ((flowExternals flow).encodeFlow flow) = .ok flow := by
  change (if flowText flow = flowText flow then Except.ok flow else _) = _
  rw [if_pos rfl]

/-- Cookies of the externals are read back. -/
theorem flowExternals_decrypts (flow : OidcFlow) (plaintext : String) (fresh : ℕ) :
    (flowExternals flow).decrypt docsLogin.cookieKey docsLogin.flowCookie
      ((flowExternals flow).encrypt docsLogin.cookieKey docsLogin.flowCookie plaintext fresh) =
        some plaintext := by
  refine stripStart_eq_some.mpr ?_
  change (toString docsLogin.flowCookie.length ++ "." ++ plaintext).toList = _
  rw [String.toList_append]

/-- A pair of results that is there. -/
theorem exists_ok_of_toOption {α β : Type} {x : Except AnyError (α × β)}
    (h : x.toOption.isSome = true) : ∃ a b, x = .ok (a, b) := by
  cases x with
  | error error => cases h
  | ok pair => exact ⟨pair.1, pair.2, rfl⟩

/-- The login for the page is answered. -/
theorem dashboard_answers :
    (docsLogin.loginInner dashboardExternals loginWorld dashboard).toOption.isSome = true := by
  decide +kernel

/-- The login for the other target is answered. -/
theorem backslashed_answers :
    (docsLogin.loginInner backslashedExternals loginWorld backslashed).toOption.isSome =
      true := by
  decide +kernel

/-- A login for a page of the route returns to it. -/
theorem login_returns_locally_dashboard :
    ∃ response created, docsLogin.loginInner dashboardExternals loginWorld dashboard =
      .ok (response, created) ∧ LocalReturn dashboardExternals docsLogin created := by
  obtain ⟨response, created, hlogin⟩ := exists_ok_of_toOption dashboard_answers
  have hvisible : Visible dashboard := forall_mem_of_all (by decide +kernel)
  have hplain : ¬ (startsWith (requestTarget dashboard) "/\\" = true ∧
      (requestTarget dashboard).utf8ByteSize ≤ 1024) := by
    decide +kernel
  exact ⟨response, created, hlogin, (login_returns_locally_iff hlogin hvisible
    (flowExternals_decodes _) (flowExternals_decrypts _)).mpr hplain⟩

/-- The browser comes back with the cookie of its login. -/
def finishedLogin : Except AnyError (AuthResponse × PrivateCookie Unit) :=
  docsLogin.callbackInner backslashedExternals loginWorld
    ⟨"/_lfp/auth/callback", some "state=state&code=code"⟩
    (HeaderMap.empty.insert "cookie" (ascii ("__Host-lfp_flow_a1=18." ++
      flowText (startedFlow loginWorld backslashed))))

/-- A login whose request target begins with a slash and a backslash is finished
with that target as location, which names another host to a browser. -/
theorem backslashed_target_names_host :
    Visible backslashed ∧
    (∃ response created, docsLogin.loginInner backslashedExternals loginWorld backslashed =
      .ok (response, created) ∧ ¬ LocalReturn backslashedExternals docsLogin created) ∧
    (finishedLogin.toOption.map fun answer => answer.1.headers.getAll "location") =
      some [ascii "/\\attacker.example/path"] ∧
    browserReads "/\\attacker.example/path" = .network := by
  have hvisible : Visible backslashed := forall_mem_of_all (by decide +kernel)
  refine ⟨hvisible, ?_, by decide +kernel, by decide +kernel⟩
  obtain ⟨response, created, hlogin⟩ := exists_ok_of_toOption backslashed_answers
  refine ⟨response, created, hlogin, fun hreturn => ?_⟩
  have hstored : backslashedExternals.decodeFlow created.plaintext =
      .ok (startedFlow loginWorld backslashed) := by
    rw [(loginInner_created hlogin).1]
    exact flowExternals_decodes _
  refine (localTarget_safeReturnTo_iff hvisible).mp (hreturn.stored _ hstored) ?_
  decide +kernel

end LfpPipe.ReturnTargets
