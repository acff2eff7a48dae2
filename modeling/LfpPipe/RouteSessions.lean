import LfpPipe.AuthorizationCodes
import LfpPipe.SessionRoles

/-!
# Whose sessions a route accepts

The browser sign-in of a route, over runs of visits of any number of browsers,
some of them in the hands of an attacker. Private cookies cannot be made up: a
browser shows cookies that were set in it or, when it is dishonest, in
another dishonest one. A visit may carry any query, so that an attacker can send a
browser to the callback with a code of its own. The identity provider answers a
code as it has promised to.
-/

namespace LfpPipe.RouteSessions

open RustText Fallible SharedConfig ClientIdentity HttpMessages ClientAuthorizer ClientSession
open ClientProxy SessionRoles TransitionRuns AuthorizationCodes

variable {Key : Type}

/-- What the cryptography and the serializer promise: what can be read back is
what was written. -/
structure Lawful (ext : Externals Key) : Prop where
  /-- A cookie decrypts to what was encrypted under the same key and name. -/
  decrypt_encrypt : ∀ key name plaintext random found,
    ext.decrypt key name (ext.encrypt key name plaintext random) = some found → found = plaintext
  /-- A login state is read back with its proof key. -/
  decodeFlow_encodeFlow : ∀ flow found, ext.decodeFlow (ext.encodeFlow flow) = .ok found →
    found.pkceVerifier = flow.pkceVerifier
  /-- An identity is read back with its subject. -/
  decodeIdentity_encodeIdentity : ∀ identity found,
    ext.decodeIdentity (ext.encodeIdentity identity) = .ok found → found.subject = identity.subject

/-- A user of an identity provider. -/
structure User where
  /-- Address of the provider. -/
  issuer : String
  /-- Subject that the provider knows the user by. -/
  subject : String
  deriving DecidableEq, Repr

/-- A code that an identity provider has handed out. -/
abbrev Grant := AuthorizationCodes.Grant ℕ String String User

/-- The cookies that were set, the sign-ins that were begun and the codes that
were handed out. -/
structure State (Key : Type) where
  /-- Private cookies with their browsers. -/
  cookies : List (ℕ × PrivateCookie Key)
  /-- Proof keys with the browsers that began a sign-in with them. -/
  begun : List (ℕ × String)
  /-- Codes. -/
  grants : List Grant

/-- Nothing has happened. -/
def State.initial : State Key := ⟨[], [], []⟩

/-- A visit, or a user who signs in at an identity provider. -/
inductive Event (Key : Type) where
  /-- A browser visits the route. -/
  | visit (browser : ℕ) (visit : Visit Key)
  /-- A user signs in, and the browser is sent back with a code. -/
  | signedIn (grant : Grant)

/-- A cookie that remembers a sign-in. -/
def isFlow (cookie : PrivateCookie Key) : Bool :=
  match cookie.origin with
  | .flow => true
  | .session _ _ => false

/-- Answer a visit: the cookies that it creates are set, and a cookie that
remembers a sign-in has the proof key of the visit. -/
def step (ext : Externals Key) (backends : List (BackendRuntime Key)) (s : State Key) :
    Event Key → Option (State Key)
  | .visit browser visit =>
    let created := (visit.handled ext backends).created
    some { s with
      cookies := created.map (browser, ·) ++ s.cookies
      begun := (created.filter isFlow).map (fun _ => (browser, visit.exchange.world.freshVerifier))
        ++ s.begun }
  | .signedIn grant => some { s with grants := grant :: s.grants }

section

variable (honest : ℕ → Prop) (challengeOf : String → String) (ext : Externals Key)
  (backends : List (BackendRuntime Key))

/-- A private cookie that a browser shows was set in it, or shared with it. -/
def Shown (s : State Key) (browser : ℕ) (headers : HeaderMap) : Prop :=
  ∀ key name value plaintext, requestCookie headers name = some value →
    ext.decrypt key name value = some plaintext →
      ∃ owner cookie, (owner, cookie) ∈ s.cookies ∧ cookie.key = key ∧ cookie.name = name ∧
        cookie.value = value ∧ Shares honest owner browser

/-- What an identity provider promises about the claims that it answers: the
code was handed out by it, for the challenge of the proof key, and the claims
name the user who signed in. A code that was handed to an honest browser is shown
by this browser only. -/
def Redeemed (s : State Key) (browser : ℕ) (visit : Visit Key) : Prop :=
  ∀ authorizer oidc, LoadedOidc backends authorizer oidc → ∀ query code flow claims,
    visit.exchange.request.uri.query = some query → queryParam ext query "code" = some code →
      visit.exchange.world.exchangeCode oidc code flow = .ok claims →
        ∃ grant ∈ s.grants, grant.code = code ∧
          grant.challenge = challengeOf flow.pkceVerifier ∧
          grant.user.issuer = oidc.config.issuer ∧
          (claims.get "sub").bind Value.asStr = some grant.user.subject ∧
          (honest grant.agent → grant.agent = browser)

/-- What holds of an event from outside. Two things stay confidential: the link of an
honest browser's sign-in, so that only this browser sends a request with its challenge,
and the code that an honest browser was handed. -/
def Environment (s : State Key) : Event Key → Prop
  | .visit browser visit =>
    Shown honest ext s browser visit.exchange.request.headers ∧
      Redeemed honest challengeOf ext backends s browser visit ∧
      (honest browser → ∀ grant ∈ s.grants,
        grant.challenge ≠ challengeOf visit.exchange.world.freshVerifier)
  | .signedIn grant =>
    ∀ owner verifier, (owner, verifier) ∈ s.begun → challengeOf verifier = grant.challenge →
      honest owner → owner = grant.agent

end

variable {honest : ℕ → Prop} {challengeOf : String → String} {ext : Externals Key}
  {backends : List (BackendRuntime Key)}

/-- How a visit makes a private cookie. -/
inductive Made (ext : Externals Key) (visit : Visit Key) (oidc : OidcAuthorizer Key)
    (cookie : PrivateCookie Key) : Prop where
  /-- A sign-in begins, with the proof key of the visit. -/
  | flow (login : OidcFlow) (random : ℕ) (hverifier : login.pkceVerifier =
      visit.exchange.world.freshVerifier)
    (hcookie : cookie = ⟨oidc.cookieKey, oidc.flowCookie, ext.encodeFlow login,
      ext.encrypt oidc.cookieKey oidc.flowCookie (ext.encodeFlow login) random, .flow⟩)
  /-- A sign-in is finished, for a login state that the request shows and with the code
  of the query. -/
  | session (login : OidcFlow) (query code : String) (claims : Value)
    (identity : AuthenticatedIdentity) (random : ℕ)
    (hlogin : oidc.decryptCookie ext ext.decodeFlow visit.exchange.request.headers
      oidc.flowCookie = .ok (some login))
    (hquery : visit.exchange.request.uri.query = some query)
    (hcode : queryParam ext query "code" = some code)
    (hclaims : visit.exchange.world.exchangeCode oidc code login = .ok claims)
    (hsubject : (claims.get "sub").bind Value.asStr = some identity.subject)
    (hcookie : cookie = ⟨oidc.cookieKey, oidc.sessionCookie, ext.encodeIdentity identity,
      ext.encrypt oidc.cookieKey oidc.sessionCookie (ext.encodeIdentity identity) random,
      .session oidc.config claims⟩)

/-- How a cookie is encrypted. -/
theorem encryptCookie_eq_ok {world : World Key} {oidc : OidcAuthorizer Key}
    {name plaintext text : String} {maxAge : ℕ} {origin : Origin} {cookie : PrivateCookie Key}
    (h : oidc.encryptCookie ext world name plaintext maxAge origin = .ok (text, cookie)) :
    cookie = ⟨oidc.cookieKey, name, plaintext,
      ext.encrypt oidc.cookieKey name plaintext world.freshCookie, origin⟩ := by
  simp only [OidcAuthorizer.encryptCookie, bind_eq_ok, Except.ok.injEq, Prod.mk.injEq] at h
  obtain ⟨_, -, -, rfl⟩ := h
  rfl

/-- At most one cookie is made, and one of a kind. -/
def MakesAtMostOne (created : List (PrivateCookie Key)) (made : PrivateCookie Key → Prop) : Prop :=
  created = [] ∨ ∃ cookie, created = [cookie] ∧ made cookie

/-- It is also of a wider kind. -/
theorem MakesAtMostOne.imp {created : List (PrivateCookie Key)}
    {made wider : PrivateCookie Key → Prop} (h : MakesAtMostOne created made)
    (himp : ∀ cookie, made cookie → wider cookie) :
    MakesAtMostOne created wider := by
  rcases h with hnone | ⟨cookie, hone, hmade⟩
  · exact .inl hnone
  · exact .inr ⟨cookie, hone, himp cookie hmade⟩

/-- A sign-in that begins makes its cookie, or none when it fails. -/
theorem login_made (ext : Externals Key) (visit : Visit Key) (oidc : OidcAuthorizer Key) :
    MakesAtMostOne (oidc.login ext visit.exchange.world visit.exchange.request.uri).created
      (Made ext visit oidc) := by
  unfold OidcAuthorizer.login
  cases hl : oidc.loginInner ext visit.exchange.world visit.exchange.request.uri with
  | error error => exact .inl rfl
  | ok started =>
    obtain ⟨response, created⟩ := started
    refine .inr ⟨created, rfl, ?_⟩
    simp only [OidcAuthorizer.loginInner, bind_eq_ok, Except.ok.injEq, Prod.mk.injEq,
      Prod.exists] at hl
    obtain ⟨_, -, _, cookie, hencrypt, _, -, -, rfl⟩ := hl
    exact .flow _ _ rfl (encryptCookie_eq_ok hencrypt)

/-- The subject of an identity is the one of its claims. -/
theorem identityFromClaims_subject {claims : Value} {rolesClaim : String}
    {identity : AuthenticatedIdentity} (h : identityFromClaims claims rolesClaim = .ok identity) :
    (claims.get "sub").bind Value.asStr = some identity.subject := by
  simp only [identityFromClaims, bind_eq_ok, orMissing_eq_ok, Except.ok.injEq] at h
  obtain ⟨subject, hsubject, _, -, _, -, rfl⟩ := h
  exact hsubject

/-- A callback makes the cookie of its session, or none when it is rejected. -/
theorem callback_made (ext : Externals Key) (visit : Visit Key) (oidc : OidcAuthorizer Key) :
    MakesAtMostOne (oidc.callback ext visit.exchange.world visit.exchange.request.method
      visit.exchange.request.uri visit.exchange.request.headers).created
        (Made ext visit oidc) := by
  unfold OidcAuthorizer.callback
  split
  · exact .inl rfl
  · cases hc : oidc.callbackInner ext visit.exchange.world visit.exchange.request.uri
        visit.exchange.request.headers with
    | error error => exact .inl rfl
    | ok finished =>
      obtain ⟨response, created⟩ := finished
      refine .inr ⟨created, rfl, ?_⟩
      simp only [OidcAuthorizer.callbackInner, bind_eq_ok, orMissing_eq_ok, Except.ok.injEq,
        Prod.mk.injEq, Prod.exists] at hc
      obtain ⟨found, hfound, login, rfl, _, -, query, hquery, _, -, _, -, _, -, code, hcode, claims,
        hclaims, _, -, identity, hidentity, _, cookie, hencrypt, _, -, -, rfl⟩ := hc
      have hsubject := identityFromClaims_subject hidentity
      exact .session login query code claims
        { identity with
          expiresUnix := saturatingAdd visit.exchange.world.now oidc.config.oidcSessionTtlSeconds }
        _ hfound hquery hcode hclaims hsubject (encryptCookie_eq_ok hencrypt)

/-- How a visit makes a private cookie under a policy. -/
def MadeBy (ext : Externals Key) (visit : Visit Key) (authorizer : Authorizer Key)
    (cookie : PrivateCookie Key) : Prop :=
  ∃ oidc, authorizer.oidc = some oidc ∧ Made ext visit oidc cookie

/-- Credentials make at most the cookie of a sign-in that begins. -/
theorem authorizeCredentials_made (ext : Externals Key) (visit : Visit Key)
    (authorizer : Authorizer Key) :
    MakesAtMostOne (authorizer.authorizeCredentials ext visit.exchange.world
      visit.exchange.request.uri visit.exchange.request.headers).created
        (MadeBy ext visit authorizer) := by
  unfold Authorizer.authorizeCredentials
  split
  · split
    · exact .inl rfl
    · split
      · exact .inl rfl
      · exact .inl rfl
      · exact .inl rfl
  · split
    · exact .inl rfl
    · next oidc ho =>
      have hlogin : MakesAtMostOne (oidc.login ext visit.exchange.world
          visit.exchange.request.uri).created (MadeBy ext visit authorizer) :=
        (login_made ext visit oidc).imp fun cookie hmade => ⟨oidc, ho, hmade⟩
      split
      · exact .inl rfl
      · exact hlogin
      · exact hlogin

/-- So does a policy, or the cookie of a session at its callback. -/
theorem authorize_made (ext : Externals Key) (visit : Visit Key) (authorizer : Authorizer Key) :
    MakesAtMostOne (authorizer.authorize ext visit.exchange.world visit.exchange.request.method
      visit.exchange.request.uri visit.exchange.request.headers).created
        (MadeBy ext visit authorizer) := by
  have hcredentials := authorizeCredentials_made ext visit authorizer
  unfold Authorizer.authorize
  cases ho : authorizer.oidc with
  | none => exact hcredentials
  | some oidc =>
    dsimp only
    split
    · exact (callback_made ext visit oidc).imp fun cookie hmade => ⟨oidc, ho, hmade⟩
    · split
      · exact .inl rfl
      · exact hcredentials

/-- How a visit makes a private cookie under a loaded policy. -/
def MadeLoaded (ext : Externals Key) (backends : List (BackendRuntime Key)) (visit : Visit Key)
    (cookie : PrivateCookie Key) : Prop :=
  ∃ authorizer oidc, LoadedOidc backends authorizer oidc ∧ Made ext visit oidc cookie

/-- What the policy of a backend makes is made under a loaded policy. -/
theorem MadeBy.loaded {visit : Visit Key} {backend : BackendRuntime Key}
    {authorizer : Authorizer Key} {cookie : PrivateCookie Key}
    (h : MadeBy ext visit authorizer cookie) (hm : backend ∈ backends)
    (ha : backend.authorization = some authorizer) : MadeLoaded ext backends visit cookie := by
  obtain ⟨oidc, ho, hmade⟩ := h
  exact ⟨authorizer, oidc, ⟨backend, hm, ha, ho⟩, hmade⟩

/-- A visit makes at most one private cookie, under a loaded policy. -/
theorem handled_made (ext : Externals Key) (backends : List (BackendRuntime Key))
    (visit : Visit Key) :
    MakesAtMostOne (visit.handled ext backends).created (MadeLoaded ext backends visit) := by
  unfold Visit.handled handleRequestInner
  cases he : endpointAuthorizer backends visit.exchange.request.uri.path with
  | some authorizer =>
    obtain ⟨backend, hm, ha⟩ := List.mem_filterMap.mp (List.mem_of_find?_eq_some he)
    have hmade := (authorize_made ext visit authorizer).imp fun cookie hmade =>
      hmade.loaded hm ha
    dsimp only
    split
    · exact hmade
    · exact hmade
  | none =>
    dsimp only
    cases hs : selectRuntimeForPath backends (some visit.hostname)
        visit.exchange.request.uri.path with
    | none => exact .inl rfl
    | some backend =>
      dsimp only
      cases ha : backend.authorization with
      | none => exact .inl rfl
      | some authorizer =>
        have hmade := (authorize_made ext visit authorizer).imp fun cookie hmade =>
          hmade.loaded (mem_of_selectRuntimeForPath hs) ha
        dsimp only
        split
        · exact hmade
        · exact hmade

/-- What a cookie that was set in a browser is. -/
inductive Genuine (ext : Externals Key) (backends : List (BackendRuntime Key)) (s : State Key)
    (ledger : Ledger ℕ String String User) (browser : ℕ) (cookie : PrivateCookie Key) : Prop where
  /-- It remembers a sign-in that the browser has begun. -/
  | flow (authorizer : Authorizer Key) (oidc : OidcAuthorizer Key)
    (hloaded : LoadedOidc backends authorizer oidc) (login : OidcFlow) (random : ℕ)
    (hcookie : cookie = ⟨oidc.cookieKey, oidc.flowCookie, ext.encodeFlow login,
      ext.encrypt oidc.cookieKey oidc.flowCookie (ext.encodeFlow login) random, .flow⟩)
    (hbegun : (browser, login.pkceVerifier) ∈ s.begun)
  /-- It is the session of a user, which was opened in the browser. -/
  | session (authorizer : Authorizer Key) (oidc : OidcAuthorizer Key)
    (hloaded : LoadedOidc backends authorizer oidc) (identity : AuthenticatedIdentity)
    (claims : Value) (random : ℕ) (grant : Grant)
    (hcookie : cookie = ⟨oidc.cookieKey, oidc.sessionCookie, ext.encodeIdentity identity,
      ext.encrypt oidc.cookieKey oidc.sessionCookie (ext.encodeIdentity identity) random,
      .session oidc.config claims⟩)
    (hopened : (browser, grant) ∈ ledger.sessions)
    (huser : grant.user = ⟨oidc.config.issuer, identity.subject⟩)

/-- The cookies and codes of a state tell the story of a ledger. -/
structure Tells (challengeOf : String → String) (ext : Externals Key)
    (backends : List (BackendRuntime Key)) (s : State Key)
    (ledger : Ledger ℕ String String User) : Prop where
  /-- The sign-ins that were begun. -/
  begun : ledger.begun = s.begun.map fun login => (login.1, challengeOf login.2)
  /-- The codes that were handed out. -/
  grants : ledger.grants = s.grants
  /-- The cookies that were set. -/
  cookies : ∀ browser cookie, (browser, cookie) ∈ s.cookies →
    Genuine ext backends s ledger browser cookie

/-- What is genuine stays so when more happens. -/
theorem Genuine.later {s next : State Key} {ledger after : Ledger ℕ String String User}
    {browser : ℕ} {cookie : PrivateCookie Key} (h : Genuine ext backends s ledger browser cookie)
    (hbegun : s.begun ⊆ next.begun) (hsessions : ledger.sessions ⊆ after.sessions) :
    Genuine ext backends next after browser cookie := by
  cases h with
  | flow authorizer oidc hloaded login random hcookie hm =>
    exact .flow authorizer oidc hloaded login random hcookie (hbegun hm)
  | session authorizer oidc hloaded identity claims random grant hcookie hopened huser =>
    exact .session authorizer oidc hloaded identity claims random grant hcookie
      (hsessions hopened) huser

/-- The cookies of loaded policies tell sign-ins and sessions apart. -/
def Separated (backends : List (BackendRuntime Key)) : Prop :=
  ∀ authorizer oidc, LoadedOidc backends authorizer oidc → WellLoaded authorizer oidc

/-- The flow cookie of one policy is not the session cookie of another one. -/
theorem Separated.ne (h : Separated backends) {authorizer other : Authorizer Key}
    {oidc otherOidc : OidcAuthorizer Key} (hl : LoadedOidc backends authorizer oidc)
    (ho : LoadedOidc backends other otherOidc) : oidc.flowCookie ≠ otherOidc.sessionCookie := by
  obtain ⟨left, hleft⟩ := (h authorizer oidc hl).flowCookie
  obtain ⟨right, hright⟩ := (h other otherOidc ho).sessionCookie
  rw [hleft, hright]
  exact flow_ne_session left right

/-- A login state that a request shows is one of a sign-in that was begun by a
browser that shares with it. -/
theorem shown_login (hlawful : Lawful ext) (hseparated : Separated backends) {s : State Key}
    {ledger : Ledger ℕ String String User} (h : Tells challengeOf ext backends s ledger)
    {browser : ℕ} {headers : HeaderMap} (hshown : Shown honest ext s browser headers)
    {authorizer : Authorizer Key} {oidc : OidcAuthorizer Key}
    (hl : LoadedOidc backends authorizer oidc) {login : OidcFlow}
    (hlogin : oidc.decryptCookie ext ext.decodeFlow headers oidc.flowCookie = .ok (some login)) :
    ∃ owner, (owner, login.pkceVerifier) ∈ s.begun ∧ Shares honest owner browser := by
  unfold OidcAuthorizer.decryptCookie at hlogin
  split at hlogin
  · cases hlogin
  · next raw hraw =>
    split at hlogin
    · cases hlogin
    · next plaintext hplain =>
      obtain ⟨owner, cookie, hm, hkey, hname, hvalue, hshares⟩ :=
        hshown _ _ _ _ hraw hplain
      cases h.cookies owner cookie hm with
      | flow creator creatorOidc hcreator began random hcookie hbegun =>
        subst hcookie
        dsimp only at hkey hname hvalue
        rw [← hvalue, ← hkey, ← hname] at hplain
        rw [hlawful.decrypt_encrypt _ _ _ _ _ hplain] at hlogin
        obtain ⟨found, hfound, hsame⟩ := bind_eq_ok.mp hlogin
        cases hsame
        refine ⟨owner, ?_, hshares⟩
        rw [hlawful.decodeFlow_encodeFlow began login hfound]
        exact hbegun
      | session creator creatorOidc hcreator identity claims random grant hcookie hopened huser =>
        subst hcookie
        exact absurd hname.symm (hseparated.ne hl hcreator)

/-- The route follows the rules of the exchange with every event. -/
theorem step_follows (hlawful : Lawful ext) (hseparated : Separated backends) {s next : State Key}
    {event : Event Key} {ledger : Ledger ℕ String String User}
    (h : Tells challengeOf ext backends s ledger)
    (henv : Environment honest challengeOf ext backends s event)
    (hstep : step ext backends s event = some next) :
    ∃ after, Follows honest ledger after ∧ Tells challengeOf ext backends next after := by
  cases event with
  | signedIn grant =>
    rw [step] at hstep
    cases hstep
    refine ⟨ledger.record (.grant grant), .inr ⟨_, .grant ?_, rfl⟩, h.begun, ?_, ?_⟩
    · intro owner hbegun hhonest
      rw [h.begun] at hbegun
      obtain ⟨⟨beginner, verifier⟩, hm, hpair⟩ := List.mem_map.mp hbegun
      obtain ⟨rfl, hchallenge⟩ := Prod.mk.inj hpair
      exact henv beginner verifier hm hchallenge hhonest
    · change _ :: ledger.grants = _
      rw [h.grants]
    · intro browser cookie hm
      exact (h.cookies browser cookie hm).later (List.Subset.refl _) (List.Subset.refl _)
  | visit browser visit =>
    rw [step] at hstep
    cases hstep
    obtain ⟨hshown, hredeemed, hfresh⟩ := henv
    rcases handled_made ext backends visit with hnone | ⟨made, hone, authorizer, oidc, hl, hmade⟩
    · refine ⟨ledger, .inl rfl, ?_⟩
      rw [hnone]
      exact h
    · rw [hone]
      cases hmade with
      | flow login random hverifier hcookie =>
        have hflow : [made].filter isFlow = [made] := by
          rw [hcookie]
          rfl
        rw [hflow]
        refine ⟨ledger.record (.begin browser (challengeOf visit.exchange.world.freshVerifier)),
          .inr ⟨_, .begin ?_, rfl⟩, ?_, h.grants, ?_⟩
        · intro hhonest grant hg
          rw [h.grants] at hg
          exact hfresh hhonest grant hg
        · change _ :: ledger.begun = _
          rw [h.begun]
          rfl
        · intro holder cookie hm
          rcases List.mem_cons.mp hm with hnew | hold
          · obtain ⟨rfl, rfl⟩ := Prod.mk.inj hnew
            refine .flow authorizer oidc hl login random hcookie ?_
            rw [hverifier]
            exact List.mem_cons_self
          · exact (h.cookies holder cookie hold).later (List.subset_cons_self _ _)
              (List.Subset.refl _)
      | session login query code claims identity random hlogin hquery hcode hclaims hsubject
          hcookie =>
        have hflow : [made].filter isFlow = [] := by
          rw [hcookie]
          rfl
        rw [hflow]
        obtain ⟨grant, hgrant, -, hchallenge, hissuer, huser, hholder⟩ :=
          hredeemed authorizer oidc hl query code login claims hquery hcode hclaims
        obtain ⟨owner, hbegan, hshares⟩ := shown_login hlawful hseparated h hshown hl hlogin
        have hbegun : (owner, grant.challenge) ∈ ledger.begun := by
          rw [hchallenge, h.begun]
          exact List.mem_map.mpr ⟨(owner, login.pkceVerifier), hbegan, rfl⟩
        refine ⟨ledger.record (.finish browser grant),
          .inr ⟨_, .finish (h.grants ▸ hgrant) hbegun hshares hholder, rfl⟩, h.begun, h.grants, ?_⟩
        intro holder cookie hm
        rcases List.mem_cons.mp hm with hnew | hold
        · obtain ⟨rfl, rfl⟩ := Prod.mk.inj hnew
          refine .session authorizer oidc hl identity claims random grant hcookie
            List.mem_cons_self ?_
          rw [hsubject] at huser
          rw [← hissuer, Option.some.inj huser]
        · exact (h.cookies holder cookie hold).later (List.Subset.refl _)
            (List.subset_cons_self _ _)

/-- A request that is allowed through a session shows a cookie that decrypts to
the identity it is allowed with. -/
theorem allow_session_identity {world : World Key} {authorizer : Authorizer Key} {method : String}
    {uri : Uri} {headers : HeaderMap} {identity : Option AuthenticatedIdentity}
    (h : (authorizer.authorize ext world method uri headers).result = .allow .session identity) :
    ∃ oidc raw plaintext found, authorizer.oidc = some oidc ∧
      requestCookie headers oidc.sessionCookie = some raw ∧
      ext.decrypt oidc.cookieKey oidc.sessionCookie raw = some plaintext ∧
      ext.decodeIdentity plaintext = .ok found ∧ identity = some found ∧
      world.now < found.expiresUnix := by
  have hcredentials := authorizeCredentials_of_allow h
  unfold Authorizer.authorizeCredentials at hcredentials
  split at hcredentials
  · split at hcredentials
    · cases hcredentials
    · split at hcredentials <;> cases hcredentials
  · split at hcredentials
    · cases hcredentials
    · next oidc ho =>
      split at hcredentials
      · next found hsession =>
        cases hcredentials
        simp only [OidcAuthorizer.session, bind_eq_ok] at hsession
        obtain ⟨decoded, hdecoded, hlive⟩ := hsession
        cases decoded with
        | none => cases hlive
        | some session =>
          dsimp only at hlive
          split at hlive
          · cases hlive
          · next hnow =>
            cases hlive
            unfold OidcAuthorizer.decryptCookie at hdecoded
            split at hdecoded
            · cases hdecoded
            · next raw hraw =>
              split at hdecoded
              · cases hdecoded
              · next plaintext hplain =>
                obtain ⟨value, hvalue, hsame⟩ := bind_eq_ok.mp hdecoded
                cases hsame
                exact ⟨oidc, raw, plaintext, found, ho, hraw, hplain, hvalue, rfl, by omega⟩
      · cases hcredentials
      · cases hcredentials

/-- What holds in every state of a run: it tells of a sound ledger. -/
def Authentic (honest : ℕ → Prop) (challengeOf : String → String) (ext : Externals Key)
    (backends : List (BackendRuntime Key)) (s : State Key) : Prop :=
  ∃ ledger, Sound honest ledger ∧ Tells challengeOf ext backends s ledger

/-- In every run of visits of any number of browsers to a started route, with
any visit that an attacker makes up, a request that is allowed through a
session cookie is allowed as a user who has signed in from the browser that
makes the request, at the issuer of a policy with the same session cookie and
in a sign-in that this browser has begun; or all the browsers concerned are
dishonest. -/
theorem route_sessions_are_authentic (hlawful : Lawful ext) {env : LoadEnv Key}
    {config : ClientConfig}
    {app : AppState Key} (hstart : processMessages ext env config = .ok app)
    {events : List (Event Key)} {s : State Key}
    (henv : Guarded (step ext app.backends) (Environment honest challengeOf ext app.backends)
      .initial events)
    (hrun : run (step ext app.backends) .initial events = some s) {browser : ℕ} {visit : Visit Key}
    (hshown : Shown honest ext s browser visit.exchange.request.headers)
    {authorizer : Authorizer Key}
    (hpolicy : ∃ backend ∈ app.backends, backend.authorization = some authorizer)
    {identity : Option AuthenticatedIdentity}
    (hallow : (authorizer.authorize ext visit.exchange.world visit.exchange.request.method
      visit.exchange.request.uri visit.exchange.request.headers).result =
        .allow .session identity) :
    ∃ found oidc minter minterOidc, identity = some found ∧
      visit.exchange.world.now < found.expiresUnix ∧ authorizer.oidc = some oidc ∧
      LoadedOidc app.backends minter minterOidc ∧ minterOidc.cookieKey = oidc.cookieKey ∧
      minterOidc.sessionCookie = oidc.sessionCookie ∧
      ∃ grant ∈ s.grants, grant.user = ⟨minterOidc.config.issuer, found.subject⟩ ∧
        Shares honest grant.agent browser ∧
        ∃ owner verifier, (owner, verifier) ∈ s.begun ∧ Shares honest owner browser ∧
          grant.challenge = challengeOf verifier := by
  have hseparated : Separated app.backends := by
    rintro authorizer oidc ⟨backend, hm, ha, ho⟩
    obtain ⟨-, -, hbackends⟩ := processMessages_backends hstart
    obtain ⟨rule, -, -, -, hself⟩ := exists_mem_of_forall₂ hbackends hm
    obtain ⟨acme, -, hload⟩ := hself authorizer ha
    exact wellLoaded_of_load hload ho
  have hauthentic : Authentic honest challengeOf ext app.backends s := by
    refine run_invariant_guarded ?_ ⟨.empty, sound_empty honest, rfl, rfl, ?_⟩ henv hrun
    · rintro state event next ⟨ledger, hsound, htells⟩ hevent hnext
      obtain ⟨after, hfollows, htold⟩ := step_follows hlawful hseparated htells hevent hnext
      exact ⟨after, hsound.follows hfollows, htold⟩
    · intro holder cookie hm
      cases hm
  obtain ⟨ledger, hsound, htells⟩ := hauthentic
  obtain ⟨backend, hm, ha⟩ := hpolicy
  obtain ⟨oidc, raw, plaintext, found, ho, hraw, hplain, hdecoded, rfl, hlive⟩ :=
    allow_session_identity hallow
  have hl : LoadedOidc app.backends authorizer oidc := ⟨backend, hm, ha, ho⟩
  obtain ⟨holder, cookie, hcookie, hkey, hname, hvalue, hshares⟩ := hshown _ _ _ _ hraw hplain
  cases htells.cookies holder cookie hcookie with
  | flow creator creatorOidc hcreator began random hmade hbegun =>
    subst hmade
    exact absurd hname (hseparated.ne hcreator hl)
  | session creator creatorOidc hcreator session claims random grant hmade hopened huser =>
    subst hmade
    dsimp only at hkey hname hvalue
    rw [← hvalue, ← hkey, ← hname] at hplain
    rw [hlawful.decrypt_encrypt _ _ _ _ _ hplain] at hdecoded
    rw [← hlawful.decodeIdentity_encodeIdentity session found hdecoded] at huser
    obtain ⟨hgrant, hreceiver, owner, howner, hbegun⟩ := hsound.sessions holder grant hopened
    rw [htells.begun] at hbegun
    obtain ⟨⟨beginner, verifier⟩, hbegan, hpair⟩ := List.mem_map.mp hbegun
    obtain ⟨rfl, hchallenge⟩ := Prod.mk.inj hpair
    exact ⟨found, oidc, creator, creatorOidc, rfl, hlive, ho, hcreator, hkey, hname, grant,
      htells.grants ▸ hgrant, huser, hreceiver.trans hshares, beginner, verifier, hbegan,
      howner.trans hshares, hchallenge.symm⟩

/-- Externals that remember a login state by its proof key. -/
def routeExternals : Externals Unit :=
  { sampleExternals with
    encodeFlow flow := flow.pkceVerifier
    decodeFlow text := .ok ⟨"state", "nonce", text, "/", 600⟩ }

/-- They read back what they write. -/
theorem routeExternals_lawful : Lawful routeExternals where
  decrypt_encrypt key name plaintext random found h := by
    have hstrip : stripStart (toString name.length ++ "." ++ plaintext)
        (toString name.length ++ ".") = some found := h
    rw [stripStart_eq_some, String.toList_append] at hstrip
    exact (String.toList_inj.mp (List.append_cancel_left hstrip)).symm
  decodeFlow_encodeFlow flow found h := by
    cases h
    rfl
  decodeIdentity_encodeIdentity identity found h := by
    cases h
    rfl

/-- The challenges of two proof keys. -/
def routeChallenge (verifier : String) : String :=
  if verifier == "verifier" then "iMnq5o6zALKXGivsnlom_0F5_WYda32GHkxlV7mq7hQ"
  else "FJO3t0PE8HluwP2_-7vIsnVmjUEqcMhWDRpwAQOBz60"

/-- A provider that answers one code for one proof key. -/
def routeWorld (fresh : String) : World Unit :=
  { providerWorld plainClaims with
    freshVerifier := fresh
    exchangeCode := fun _ code flow =>
      if code == "code" && flow.pkceVerifier == "verifier" then .ok plainClaims
      else .error ["invalid_grant"] }

/-- A browser request with one cookie header. -/
def routeVisit (fresh : String) (uri : Uri) (cookie : String) : Visit Unit :=
  ⟨⟨routeWorld fresh, ⟨"GET", uri, (HeaderMap.empty.insert "host"
    (ascii "docs.example")).insert "cookie" (ascii cookie)⟩⟩, "docs.example", none, "https"⟩

/-- The code that the user gets. -/
def routeGrant : Grant := ⟨0, "code", routeChallenge "verifier", ⟨"https://login.example", "alice"⟩⟩

/-- The browser opens the hostname. -/
def openVisit : Visit Unit := routeVisit "verifier" ⟨"/", none⟩ ""

/-- The browser returns. -/
def returnVisit : Visit Unit :=
  routeVisit "verifier-2" ⟨"/_lfp/auth/callback", some "state=state&code=code"⟩
    "__Host-lfp_flow_a1=18.verifier"

/-- The browser comes with its session. -/
def sessionVisit : Visit Unit :=
  routeVisit "verifier-3" ⟨"/", none⟩ "__Host-lfp_session_a1=21.alice"

/-- The cookie of the sign-in. -/
def flowPrivate : PrivateCookie Unit :=
  ⟨(), "__Host-lfp_flow_a1", "verifier", "18.verifier", .flow⟩

/-- The state before the callback. -/
def routeBegun : State Unit := ⟨[(0, flowPrivate)], [(0, "verifier")], [routeGrant]⟩

/-- The cookies of the callback. -/
def returnCookies : List (PrivateCookie Unit) :=
  (returnVisit.handled routeExternals twoBackends).created

/-- The state after it. -/
def routeState : State Unit :=
  { routeBegun with
    cookies := returnCookies.map (0, ·) ++ [(0, flowPrivate)]
    begun := (returnCookies.filter isFlow).map (fun _ => (0, "verifier-2")) ++ [(0, "verifier")] }

/-- The cookies of a request with one cookie header of one cookie. -/
theorem requestCookie_single {fresh cookie name value own text : String} {uri : Uri}
    (hraw : toStr (ascii cookie) = some cookie) (hsplit : split ';' cookie = [cookie])
    (hpair : splitOnce '=' (trim cookie) = some (own, text))
    (h : requestCookie (routeVisit fresh uri cookie).exchange.request.headers name = some value) :
    name = own ∧ value = text := by
  have hpairs : (((routeVisit fresh uri cookie).exchange.request.headers.getAll "cookie").filterMap
      toStr).flatMap (split ';') = [cookie] := by
    change ([ascii cookie].filterMap toStr).flatMap (split ';') = _
    rw [List.filterMap_cons_some hraw, List.filterMap_nil, List.flatMap_cons, List.flatMap_nil,
      hsplit]
    rfl
  rw [requestCookie, hpairs, List.findSome?_cons, hpair] at h
  dsimp only at h
  split at h
  · next hfound =>
    split at hfound
    · next hname =>
      cases hfound
      cases h
      exact ⟨hname.symm, rfl⟩
    · cases hfound
  · cases h

/-- Only the reader's own code is redeemed. -/
theorem route_redeemed {s : State Unit} {fresh cookie : String} {uri : Uri}
    (h : routeGrant ∈ s.grants ∨ uri.query = none) :
    Redeemed (fun browser => browser = 0) routeChallenge routeExternals twoBackends s 0
      (routeVisit fresh uri cookie) := by
  rintro authorizer oidc ⟨backend, hm, ha, ho⟩ query code flow claims hquery - hclaims
  rcases h with hgrant | hnone
  · have hissuer : oidc.config.issuer = "https://login.example" := by
      simp only [twoBackends, List.mem_cons, List.not_mem_nil, or_false] at hm
      rcases hm with rfl | rfl
      · cases ha
        cases ho
        rfl
      · cases ha
        cases ho
        rfl
    change (if code == "code" && flow.pkceVerifier == "verifier" then .ok plainClaims
      else .error ["invalid_grant"]) = Except.ok claims at hclaims
    split at hclaims
    · next hcheck =>
      cases hclaims
      rw [Bool.and_eq_true, beq_iff_eq, beq_iff_eq] at hcheck
      refine ⟨routeGrant, hgrant, hcheck.1.symm, ?_, hissuer.symm, rfl, fun _ => rfl⟩
      rw [hcheck.2]
      rfl
    · cases hclaims
  · change uri.query = some query at hquery
    rw [hnone] at hquery
    cases hquery

/-- A cookie that the reader shows was set in the reader's browser. -/
theorem route_shown {s : State Unit} {fresh cookie own text : String} {uri : Uri}
    (hraw : toStr (ascii cookie) = some cookie) (hsplit : split ';' cookie = [cookie])
    (hpair : splitOnce '=' (trim cookie) = some (own, text))
    (hset : (s.cookies.any fun set => set.1 == 0 && (set.2.name == own && set.2.value == text)) =
      true) :
    Shown (fun browser => browser = 0) routeExternals s 0
      (routeVisit fresh uri cookie).exchange.request.headers := by
  intro key name value plaintext hcookie _
  obtain ⟨rfl, rfl⟩ := requestCookie_single hraw hsplit hpair hcookie
  obtain ⟨⟨owner, set⟩, hm, hmatch⟩ := List.any_eq_true.mp hset
  rw [Bool.and_eq_true, Bool.and_eq_true, beq_iff_eq, beq_iff_eq, beq_iff_eq] at hmatch
  obtain ⟨rfl, hname, hvalue⟩ := hmatch
  exact ⟨0, set, hm, rfl, hname, hvalue, .refl 0⟩

/-- The reader opens the hostname, signs in and returns. -/
theorem route_run : ∃ events,
    run (step routeExternals twoBackends) .initial events = some routeState ∧
      Guarded (step routeExternals twoBackends)
        (Environment (fun browser => browser = 0) routeChallenge routeExternals twoBackends)
        .initial events := by
  have hfirst : step routeExternals twoBackends .initial (.visit 0 openVisit) =
      some ⟨[(0, flowPrivate)], [(0, "verifier")], []⟩ := by
    rfl
  have hsecond : step routeExternals twoBackends ⟨[(0, flowPrivate)], [(0, "verifier")], []⟩
      (.signedIn routeGrant) = some routeBegun := by
    rfl
  have hthird : step routeExternals twoBackends routeBegun (.visit 0 returnVisit) =
      some routeState := by
    rfl
  have hempty : ∀ name, requestCookie openVisit.exchange.request.headers name = none := by
    intro name
    rfl
  refine ⟨[.visit 0 openVisit, .signedIn routeGrant, .visit 0 returnVisit], ?_, ?_⟩
  · rw [run, hfirst, Option.bind_some, run, hsecond, Option.bind_some, run, hthird,
      Option.bind_some, run]
  · refine .cons ⟨?_, route_redeemed (.inr rfl), ?_⟩ hfirst (.cons ?_ hsecond
      (.cons ⟨?_, route_redeemed (.inl List.mem_cons_self), ?_⟩ hthird trivial))
    · intro key name value plaintext hcookie
      rw [hempty] at hcookie
      cases hcookie
    · intro _ grant hg
      cases hg
    · rintro owner verifier hm - -
      rw [(Prod.mk.inj (List.mem_singleton.mp hm)).1]
      rfl
    · exact route_shown (toStr_ascii (by decide)) rfl rfl (by decide +kernel)
    · intro _ grant hg
      rw [List.mem_singleton.mp hg]
      decide

/-- A user who has signed in is let in with the session. -/
theorem route_sessions_are_authentic_reader :
    ∃ grant ∈ routeState.grants, grant.user.subject = "alice" ∧
      Shares (fun browser => browser = 0) grant.agent 0 := by
  have hstart : processMessages routeExternals sampleEnv twoPolicies = .ok twoPoliciesState := by
    rfl
  have hallow : ((loadedPolicy adminPolicy).authorize routeExternals sessionVisit.exchange.world
      "GET" ⟨"/", none⟩ sessionVisit.exchange.request.headers).result =
        .allow .session (some ⟨"alice", "alice", none, none, [], 28800⟩) := by
    rfl
  have hshown : Shown (fun browser => browser = 0) routeExternals routeState 0
      sessionVisit.exchange.request.headers :=
    route_shown (toStr_ascii (by decide)) rfl rfl (by decide +kernel)
  obtain ⟨events, hrun, henv⟩ := route_run
  obtain ⟨found, oidc, minter, minterOidc, hfound, -, -, -, -, -, grant, hgrant, huser, hshares,
      -⟩ :=
    @route_sessions_are_authentic Unit (fun browser => browser = 0) routeChallenge routeExternals
      routeExternals_lawful sampleEnv twoPolicies twoPoliciesState hstart events routeState henv
      hrun 0 sessionVisit hshown (loadedPolicy adminPolicy)
      ⟨adminBackend, List.mem_cons_of_mem _ List.mem_cons_self, rfl⟩
      (some ⟨"alice", "alice", none, none, [], 28800⟩) hallow
  cases hfound
  refine ⟨grant, hgrant, ?_, hshares⟩
  rw [huser]

end LfpPipe.RouteSessions
