import LfpPipe.AuthorizationCodes
import LfpPipe.JsonValues
import LfpPipe.SignInFlows

/-!
# Whose sessions the console opens

Translated from `callback`, `requireSession`, `entitlementClaims`,
`stringClaim` and `firstNonEmpty` of the HTTP API. Any number of browsers
sign in at the same time, each with several flows; some browsers are in the
hands of an attacker, which may choose every part of every request. A signed
cookie cannot be made up, so a browser shows cookies that were issued to it or,
when it is dishonest, to another dishonest one. The identity provider and its
token verifier are parameters; logging out only clears the cookie of a
browser, which may show an old one at any time anyway.
-/

namespace LfpPipe.ConsoleSessions

open GoText TunnelTickets SignInFlows JsonValues TransitionRuns AuthorizationCodes

/-- The first text that is not empty. -/
def firstNonEmpty : List String → String
  | [] => ""
  | value :: values => if value != "" then value else firstNonEmpty values

/-- The text of a claim; empty when there is none. -/
def stringClaim (claims : Fields) (name : String) : String := Json.textOr (claims.lookup name)

/-- An entitlement that is listed as an object. -/
structure NamedEntitlement where
  /-- Its name. -/
  name : String := ""
  /-- Its hostname. -/
  hostname : String := ""
  deriving DecidableEq, Repr

/-- The representative of a character among those that differ in case only, as
far as one of them is a letter of a field name. -/
def foldRune (c : Char) : Char :=
  if c == '\u017f' then 'S' else if c == '\u212a' then 'K' else c.toUpper

/-- Field names match in any case. -/
def foldName (name : String) : List Char := name.toList.map foldRune

/-- Decode a text; null leaves it as it is. -/
def decodeText (before : String) : Json → Option String
  | .null => some before
  | .string value => some value
  | _ => none

/-- Decode one field of an entitlement; unknown fields are ignored. -/
def decodeField (entitlement : NamedEntitlement) (field : String × Json) :
    Option NamedEntitlement :=
  if foldName field.1 == foldName "name" then
    (decodeText entitlement.name field.2).map fun name => { entitlement with name := name }
  else if foldName field.1 == foldName "hostname" then
    (decodeText entitlement.hostname field.2).map fun hostname =>
      { entitlement with hostname := hostname }
  else some entitlement

/-- Decode an entitlement, field by field in the order of the document. -/
def decodeEntitlement : Json → Option NamedEntitlement
  | .null => some {}
  | .object fields => fields.foldlM decodeField {}
  | _ => none

/-- Decode a list of texts. -/
def decodeNames : Json → Option (List String)
  | .null => some []
  | .array items => items.mapM (decodeText "")
  | _ => none

/-- Decode a list of entitlements. -/
def decodeEntitlements : Json → Option (List NamedEntitlement)
  | .null => some []
  | .array items => items.mapM decodeEntitlement
  | _ => none

/-- The entitlements under one claim, as texts or as objects. -/
def claimedEntitlements (raw : Json) : Option (List String) :=
  (decodeNames raw).or ((decodeEntitlements raw).map fun objects =>
    objects.map fun object => firstNonEmpty [object.hostname, object.name])

/-- The entitlements of an identity. -/
def entitlementClaims (claims : Fields) : List String :=
  (["lfp_entitlements", "entitlements"].findSome? fun key =>
    (claims.lookup key).bind claimedEntitlements).getD []

/-- A verified identity token. -/
structure IdToken where
  /-- Its claims, unless they are no object. -/
  claims : Except String Fields
  /-- Its end. -/
  expiry : ℤ

/-- The session of an identity. -/
def sessionOf (claims : Fields) (expiry : ℤ) : BrowserSession where
  subject := stringClaim claims "sub"
  name := firstNonEmpty [stringClaim claims "name", stringClaim claims "preferred_username"]
  email := stringClaim claims "email"
  entitlements := entitlementClaims claims
  expiresUnix := unix expiry
  username := stringClaim claims "preferred_username"

/-- A session cookie. -/
structure SessionCookie where
  /-- Unix time of its encoding. -/
  issued : ℤ
  /-- Its content. -/
  value : BrowserSession
  /-- Seconds that the browser keeps it. -/
  maxAge : ℤ
  deriving DecidableEq, Repr

/-- What the codec makes of a session cookie. -/
def readSession (cookie : Option SessionCookie) (now : ℤ) : Except String BrowserSession :=
  match cookie with
  | none => .error "http: named cookie not present"
  | some stored =>
    if stored.issued < unix now - cookieMaxAge then .error "securecookie: expired timestamp"
    else .ok stored.value

/-- The time that a session cookie is kept, at most twelve hours. -/
def sessionAge (expiry now : ℤ) : ℤ := (min (expiry - now) (cookieMaxAge * second)).tdiv second

/-- Answer of the callback. -/
inductive CallbackResponse where
  | redirect (target : String)
  | refused (error : HttpError)
  deriving DecidableEq, Repr

/-- A callback with everything that it reads. -/
structure CallbackVisit where
  /-- The flow cookie that is shown. -/
  flowCookie : Option StoredCookie
  /-- The session cookie that is shown. -/
  sessionCookie : Option SessionCookie
  /-- State parameter, clock and outcome of encoding the flow cookie. -/
  request : CallbackRequest
  /-- The code parameter. -/
  code : String
  /-- Answer of the token endpoint: the identity token, if it has one. -/
  exchanged : Except String (Option String)
  /-- When the session cookie is encoded. -/
  opened : ℤ
  /-- Whether it can be encoded. -/
  encodes : Bool

/-- What a callback leaves behind. -/
structure CallbackResult where
  /-- The flow cookie afterwards. -/
  flowCookie : Option StoredCookie
  /-- The session cookie that was set. -/
  sessionCookie : Option SessionCookie
  /-- The answer. -/
  response : CallbackResponse

section

variable (parse : UrlParser) (verify : String → Except String IdToken)

/-- The session for the answer of the token endpoint, with its end. -/
def openSession (exchanged : Except String (Option String)) :
    Except HttpError (BrowserSession × ℤ) :=
  match exchanged with
  | .error _ => .error ⟨401, "Authentik did not accept the sign-in response."⟩
  | .ok none => .error ⟨401, "Authentik did not return an ID token."⟩
  | .ok (some raw) =>
    match verify raw with
    | .error _ => .error ⟨401, "Authentik returned an invalid ID token."⟩
    | .ok token =>
      match token.claims with
      | .error _ => .error internalError
      | .ok claims =>
        let session := sessionOf claims token.expiry
        if session.subject == "" then
          .error ⟨401, "Authentik token is missing a subject."⟩
        else .ok (session, token.expiry)

/-- Complete a sign-in: take the flow out of its cookie, exchange the code with
the proof key of the flow and open the session. -/
def completeSignIn (visit : CallbackVisit) : CallbackResult :=
  match (readOIDCFlows visit.flowCookie visit.request.readings.checked).bind fun flows =>
      consumeOIDCFlow parse flows visit.request.state visit.request.readings.now with
  | none =>
    match requireSession visit.request.readings.later
        ⟨"", readSession visit.sessionCookie visit.request.readings.later⟩ with
    | .ok _ => ⟨visit.flowCookie, none, .redirect "/"⟩
    | .error _ => ⟨visit.flowCookie, none,
        .refused ⟨400, "The sign-in request expired. Please try again."⟩⟩
  | some (flow, remaining) =>
    if !remaining.isEmpty && !visit.request.encodes then
      ⟨visit.flowCookie, none, .refused internalError⟩
    else
      let flowCookie := if remaining.isEmpty then none
        else some ⟨unix visit.request.readings.encoded, .flows remaining⟩
      match openSession verify visit.exchanged with
      | .error error => ⟨flowCookie, none, .refused error⟩
      | .ok (session, expiry) =>
        if !visit.encodes then ⟨flowCookie, none, .refused internalError⟩
        else ⟨flowCookie, some ⟨unix visit.opened, session, sessionAge expiry visit.opened⟩,
          .redirect (SignInFlows.safeReturnTo parse flow.returnTo)⟩

end

/-- A code that the identity provider has handed out. -/
abbrev Grant := AuthorizationCodes.Grant ℕ String String String

/-- A session cookie in the browser that it was set in. -/
structure SessionRecord where
  /-- The browser. -/
  browser : ℕ
  /-- The cookie. -/
  cookie : SessionCookie
  deriving DecidableEq, Repr

/-- The cookies that were ever set, the sign-ins that were begun and the codes
that were handed out. -/
structure State where
  /-- Flow cookies with their browsers. -/
  flowCookies : List (ℕ × StoredCookie)
  /-- Session cookies. -/
  sessions : List SessionRecord
  /-- Flows with the browsers that began them. -/
  logins : List (ℕ × OidcFlow)
  /-- Codes. -/
  grants : List Grant
  deriving DecidableEq

/-- Nothing has happened. -/
def State.initial : State := ⟨[], [], [], []⟩

/-- A request, or a user who signs in at the identity provider. -/
inductive Event where
  /-- A browser begins a sign-in, showing a flow cookie. -/
  | login (browser : ℕ) (flowCookie : Option StoredCookie) (request : LoginRequest)
  /-- A user signs in, and the browser is sent back with a code. -/
  | signedIn (grant : Grant)
  /-- A browser completes a sign-in. -/
  | callback (browser : ℕ) (visit : CallbackVisit)

/-- Answer one request. -/
def step (parse : UrlParser) (verify : String → Except String IdToken) (s : State) :
    Event → Option State
  | .login browser flowCookie request =>
    let (cookie, started) := login parse flowCookie request
    some { s with
      flowCookies := cookie.toList.map (browser, ·) ++ s.flowCookies
      logins := if started then (browser, request.flow parse) :: s.logins else s.logins }
  | .signedIn grant => some { s with grants := grant :: s.grants }
  | .callback browser visit =>
    let result := completeSignIn parse verify visit
    some { s with
      flowCookies := result.flowCookie.toList.map (browser, ·) ++ s.flowCookies
      sessions := result.sessionCookie.toList.map (SessionRecord.mk browser ·) ++ s.sessions }

section

variable (honest : ℕ → Prop) (challengeOf : String → String) (parse : UrlParser)
  (verify : String → Except String IdToken)

/-- A flow cookie that a browser shows was issued to it, or shared with it. -/
def Shown (s : State) (browser : ℕ) (flowCookie : Option StoredCookie) : Prop :=
  ∀ stored, flowCookie = some stored →
    ∃ owner, (owner, stored) ∈ s.flowCookies ∧ Shares honest owner browser

/-- What the identity provider promises about an identity token: it was asked
for with a code that it has handed out, with the proof key of its challenge,
and the token names the user who signed in. A code that was handed to an honest
browser is shown by this browser only. -/
def Redeemed (s : State) (browser : ℕ) (code verifier : String) (claims : Fields) : Prop :=
  ∃ grant ∈ s.grants, grant.code = code ∧ grant.challenge = challengeOf verifier ∧
    stringClaim claims "sub" = grant.user ∧ (honest grant.agent → grant.agent = browser)

/-- What holds of an event from outside. Two things stay confidential: the link of an
honest browser's sign-in, so that only this browser sends a request with its challenge,
and the code that an honest browser was handed. -/
def Environment (s : State) : Event → Prop
  | .login browser flowCookie request =>
    Shown honest s browser flowCookie ∧
      (honest browser → ∀ grant ∈ s.grants, grant.challenge ≠ challengeOf request.verifier.text)
  | .signedIn grant =>
    ∀ owner flow, (owner, flow) ∈ s.logins → challengeOf flow.verifier = grant.challenge →
      honest owner → owner = grant.agent
  | .callback browser visit =>
    Shown honest s browser visit.flowCookie ∧
      ∀ consumption, (callback parse visit.flowCookie visit.request).2 = some consumption →
        ∀ raw token claims, visit.exchanged = .ok (some raw) → verify raw = .ok token →
          token.claims = .ok claims →
            Redeemed honest challengeOf s browser visit.code consumption.verifier claims

end

variable {honest : ℕ → Prop} {challengeOf : String → String} {parse : UrlParser}
  {verify : String → Except String IdToken}

/-- An active flow is one of the list, up to its return target. -/
theorem mem_activeOIDCFlows {flows : List OidcFlow} {now : ℤ} {flow : OidcFlow}
    (h : flow ∈ activeOIDCFlows parse flows now) :
    ∃ original ∈ flows, original.verifier = flow.verifier := by
  rw [activeOIDCFlows, lastFlows_eq_rtake] at h
  obtain ⟨original, hm, hkept⟩ := List.mem_filterMap.mp (List.mem_of_mem_drop h)
  split at hkept
  · cases hkept
  · cases hkept
    exact ⟨original, hm, rfl⟩

/-- What is taken out of a list was in it, and so was what remains. -/
theorem takeFlow_subset {state : String} {flows remaining : List OidcFlow} {flow : OidcFlow}
    (h : takeFlow state flows = some (flow, remaining)) : flow ∈ flows ∧ remaining ⊆ flows := by
  induction flows generalizing remaining with
  | nil => cases h
  | cons first rest ih =>
    rw [takeFlow] at h
    split at h
    · cases h
      exact ⟨List.mem_cons_self, List.subset_cons_self _ _⟩
    · obtain ⟨⟨found, kept⟩, htaken, hpair⟩ := Option.map_eq_some_iff.mp h
      cases hpair
      obtain ⟨hm, hkept⟩ := ih htaken
      exact ⟨List.mem_cons_of_mem _ hm, List.cons_subset_cons _ hkept⟩

/-- The flows that are read are those of the cookie. -/
theorem readOIDCFlows_subset {cookie : Option StoredCookie} {checked : ℤ} {flows : List OidcFlow}
    (h : readOIDCFlows cookie checked = some flows) : flows ⊆ storedFlows cookie := by
  cases cookie with
  | none => cases h
  | some stored =>
    obtain ⟨issued, value⟩ := stored
    rw [readOIDCFlows] at h
    dsimp only at h
    split at h
    · cases h
    · cases value with
      | flows own =>
        cases h
        exact List.Subset.refl _
      | legacy flow =>
        dsimp only at h
        split at h
        · cases h
        · cases h
          exact List.Subset.refl _

/-- A flow that is consumed comes from the cookie, and so do those that remain. -/
theorem consumed_from_cookie {cookie : Option StoredCookie} {checked now : ℤ} {state : String}
    {flow : OidcFlow} {remaining : List OidcFlow}
    (h : (readOIDCFlows cookie checked).bind (fun flows =>
      consumeOIDCFlow parse flows state now) = some (flow, remaining)) :
    ∀ kept ∈ flow :: remaining, ∃ original ∈ storedFlows cookie,
      original.verifier = kept.verifier := by
  obtain ⟨flows, hread, htake⟩ := Option.bind_eq_some_iff.mp h
  obtain ⟨hm, hsubset⟩ := takeFlow_subset htake
  intro kept hkept
  have hactive : kept ∈ activeOIDCFlows parse flows now := by
    rcases List.mem_cons.mp hkept with rfl | hlater
    · exact hm
    · exact hsubset hlater
  obtain ⟨original, horiginal, hverifier⟩ := mem_activeOIDCFlows hactive
  exact ⟨original, readOIDCFlows_subset hread horiginal, hverifier⟩

/-- After a sign-in was begun, the flows in the cookie are the old ones and the
one that was begun. -/
theorem login_flows {cookie after : Option StoredCookie} {request : LoginRequest} {started : Bool}
    (h : login parse cookie request = (after, started)) {flow : OidcFlow}
    (hm : flow ∈ storedFlows after) :
    (∃ original ∈ storedFlows cookie, original.verifier = flow.verifier) ∨
      (started = true ∧ flow = request.flow parse) := by
  rw [login] at h
  split at h
  · cases h
    change flow ∈ lastFlows _ at hm
    rw [lastFlows_eq_rtake] at hm
    rcases List.mem_append.mp (List.mem_of_mem_drop hm) with hold | hnew
    · obtain ⟨original, horiginal, hverifier⟩ := mem_activeOIDCFlows hold
      cases hread : readOIDCFlows cookie request.readings.checked with
      | none =>
        rw [hread] at horiginal
        cases horiginal
      | some flows =>
        rw [hread] at horiginal
        exact .inl ⟨original, readOIDCFlows_subset hread horiginal, hverifier⟩
    · exact .inr ⟨rfl, List.mem_singleton.mp hnew⟩
  · cases h
    exact .inl ⟨flow, hm, rfl⟩

/-- What a callback does when it opens a session. -/
theorem openSession_eq_ok {exchanged : Except String (Option String)} {session : BrowserSession}
    {expiry : ℤ} (h : openSession verify exchanged = .ok (session, expiry)) :
    ∃ raw token claims, exchanged = .ok (some raw) ∧ verify raw = .ok token ∧
      token.claims = .ok claims ∧ session = sessionOf claims expiry ∧ session.subject ≠ "" := by
  unfold openSession at h
  split at h
  · cases h
  · cases h
  · next raw =>
    split at h
    · cases h
    · next token htoken =>
      split at h
      · cases h
      · next claims hclaims =>
        dsimp only at h
        split at h
        · cases h
        · next hsubject =>
          cases h
          rw [beq_iff_eq] at hsubject
          exact ⟨raw, token, claims, rfl, htoken, hclaims, rfl, hsubject⟩

/-- What a callback leaves behind, as far as cookies are concerned: the flows of
the cookie that was shown, and a session only for a flow of it that was
consumed, with the identity that the token endpoint has answered. -/
structure Completed (parse : UrlParser) (verify : String → Except String IdToken)
    (visit : CallbackVisit) (result : CallbackResult) : Prop where
  /-- No flow is added. -/
  flows : ∀ flow ∈ storedFlows result.flowCookie, ∃ original ∈ storedFlows visit.flowCookie,
    original.verifier = flow.verifier
  /-- Why a session was opened. -/
  session : ∀ cookie, result.sessionCookie = some cookie → ∃ consumption raw token claims,
    (callback parse visit.flowCookie visit.request).2 = some consumption ∧
      (∃ original ∈ storedFlows visit.flowCookie, original.verifier = consumption.verifier) ∧
      visit.exchanged = .ok (some raw) ∧ verify raw = .ok token ∧ token.claims = .ok claims ∧
      cookie.value.subject = stringClaim claims "sub"

/-- A callback in which nothing happens to the cookies. -/
theorem completed_of_unchanged {visit : CallbackVisit} {response : CallbackResponse} :
    Completed parse verify visit ⟨visit.flowCookie, none, response⟩ where
  flows flow hm := ⟨flow, hm, rfl⟩
  session cookie hc := by cases hc

/-- Every callback is of this kind. -/
theorem completed_completeSignIn (parse : UrlParser) (verify : String → Except String IdToken)
    (visit : CallbackVisit) :
    Completed parse verify visit (completeSignIn parse verify visit) := by
  unfold completeSignIn
  cases hconsume : (readOIDCFlows visit.flowCookie visit.request.readings.checked).bind fun flows =>
      consumeOIDCFlow parse flows visit.request.state visit.request.readings.now with
  | none =>
    dsimp only
    split
    · exact completed_of_unchanged
    · exact completed_of_unchanged
  | some consumed =>
    obtain ⟨flow, remaining⟩ := consumed
    have hfrom := consumed_from_cookie hconsume
    dsimp only
    split
    · exact completed_of_unchanged
    · next hencodes =>
      have hkept : ∀ other ∈ storedFlows (if remaining.isEmpty then none
          else some ⟨unix visit.request.readings.encoded, .flows remaining⟩),
          ∃ original ∈ storedFlows visit.flowCookie, original.verifier = other.verifier := by
        intro other hm
        split at hm
        · cases hm
        · exact hfrom other (List.mem_cons_of_mem _ hm)
      have hconsumption : (callback parse visit.flowCookie visit.request).2 =
          some ⟨visit.request.state, flow.verifier,
            SignInFlows.safeReturnTo parse flow.returnTo⟩ := by
        rw [callback, hconsume]
        dsimp only
        split
        · rfl
        · next hremaining =>
          split
          · rfl
          · next hrefused =>
            rw [Bool.not_eq_true] at hremaining hrefused
            rw [hremaining, hrefused] at hencodes
            exact absurd rfl hencodes
      split
      · exact ⟨hkept, fun cookie hc => by cases hc⟩
      · next session expiry hopen =>
        split
        · exact ⟨hkept, fun cookie hc => by cases hc⟩
        · refine ⟨hkept, ?_⟩
          intro cookie hc
          cases hc
          obtain ⟨raw, token, claims, hexchanged, htoken, hclaims, hsession, -⟩ :=
            openSession_eq_ok hopen
          refine ⟨_, raw, token, claims, hconsumption, hfrom flow List.mem_cons_self, hexchanged,
            htoken, hclaims, ?_⟩
          rw [hsession]
          rfl

/-- Every flow in a cookie was begun by a browser that shares with the one the
cookie was issued to. -/
def Provenance (honest : ℕ → Prop) (s : State) : Prop :=
  ∀ browser stored, (browser, stored) ∈ s.flowCookies → ∀ flow ∈ storedFlows (some stored),
    ∃ owner began, (owner, began) ∈ s.logins ∧ began.verifier = flow.verifier ∧
      Shares honest owner browser

/-- The flows of a cookie that a browser shows are its own, or shared with it. -/
theorem Provenance.shown {s : State} (h : Provenance honest s) {browser : ℕ}
    {flowCookie : Option StoredCookie} (hshown : Shown honest s browser flowCookie)
    {flow : OidcFlow} (hm : flow ∈ storedFlows flowCookie) :
    ∃ owner began, (owner, began) ∈ s.logins ∧ began.verifier = flow.verifier ∧
      Shares honest owner browser := by
  cases flowCookie with
  | none => cases hm
  | some stored =>
    obtain ⟨holder, hissued, hholder⟩ := hshown stored rfl
    obtain ⟨owner, began, hbegan, hverifier, howner⟩ := h holder stored hissued flow hm
    exact ⟨owner, began, hbegan, hverifier, howner.trans hholder⟩

/-- The cookies and codes of a state tell the story of a ledger. -/
structure Tells (challengeOf : String → String) (s : State)
    (ledger : Ledger ℕ String String String) : Prop where
  /-- The flows that were begun. -/
  begun : ledger.begun = s.logins.map fun login => (login.1, challengeOf login.2.verifier)
  /-- The codes that were handed out. -/
  grants : ledger.grants = s.grants
  /-- The session cookies that were set. -/
  sessions : ∀ record ∈ s.sessions, ∃ grant, (record.browser, grant) ∈ ledger.sessions ∧
    grant.user = record.cookie.value.subject

/-- A flow that was begun is in the ledger with its challenge. -/
theorem Tells.mem_begun {s : State} {ledger : Ledger ℕ String String String}
    (h : Tells challengeOf s ledger) {owner : ℕ} {began : OidcFlow}
    (hm : (owner, began) ∈ s.logins) : (owner, challengeOf began.verifier) ∈ ledger.begun := by
  rw [h.begun]
  exact List.mem_map.mpr ⟨(owner, began), hm, rfl⟩

/-- The console follows the rules of the exchange with every event. -/
theorem step_follows {s next : State} {event : Event} {ledger : Ledger ℕ String String String}
    (hprovenance : Provenance honest s) (h : Tells challengeOf s ledger)
    (henv : Environment honest challengeOf parse verify s event)
    (hstep : step parse verify s event = some next) :
    ∃ after, Follows honest ledger after ∧ Tells challengeOf next after := by
  cases event with
  | login browser flowCookie request =>
    cases hlogin : login parse flowCookie request with
    | mk cookie started =>
      rw [step, hlogin] at hstep
      cases hstep
      cases started with
      | false => exact ⟨ledger, .inl rfl, h.begun, h.grants, h.sessions⟩
      | true =>
        refine ⟨ledger.record (.begin browser (challengeOf request.verifier.text)),
          .inr ⟨_, .begin ?_, rfl⟩, ?_, h.grants, h.sessions⟩
        · intro hhonest grant hg
          rw [h.grants] at hg
          exact henv.2 hhonest grant hg
        · change _ :: ledger.begun = _
          rw [h.begun]
          rfl
  | signedIn grant =>
    rw [step] at hstep
    cases hstep
    refine ⟨ledger.record (.grant grant), .inr ⟨_, .grant ?_, rfl⟩, h.begun, ?_, h.sessions⟩
    · intro owner hbegun hhonest
      rw [h.begun] at hbegun
      obtain ⟨⟨beginner, flow⟩, hm, hpair⟩ := List.mem_map.mp hbegun
      obtain ⟨rfl, hchallenge⟩ := Prod.mk.inj hpair
      exact henv beginner flow hm hchallenge hhonest
    · change _ :: ledger.grants = _
      rw [h.grants]
  | callback browser visit =>
    rw [step] at hstep
    cases hstep
    have hcompleted := completed_completeSignIn parse verify visit
    cases hset : (completeSignIn parse verify visit).sessionCookie with
    | none => exact ⟨ledger, .inl rfl, h.begun, h.grants, h.sessions⟩
    | some cookie =>
      obtain ⟨consumption, raw, token, claims, hconsumption, ⟨flow, hflow, hverifier⟩, hexchanged,
        htoken, hclaims, hsubject⟩ := hcompleted.session cookie hset
      obtain ⟨grant, hgrant, -, hchallenge, huser, hcode⟩ :=
        henv.2 consumption hconsumption raw token claims hexchanged htoken hclaims
      obtain ⟨owner, began, hbegan, hsame, hshares⟩ := hprovenance.shown henv.1 hflow
      have hbegun : (owner, grant.challenge) ∈ ledger.begun := by
        rw [hchallenge, ← hverifier, ← hsame]
        exact h.mem_begun hbegan
      refine ⟨ledger.record (.finish browser grant),
        .inr ⟨_, .finish (h.grants ▸ hgrant) hbegun hshares hcode, rfl⟩, h.begun, h.grants, ?_⟩
      intro record hr
      rcases List.mem_cons.mp hr with rfl | hold
      · exact ⟨grant, List.mem_cons_self, (hsubject.trans huser).symm⟩
      · obtain ⟨earlier, hm, hearlier⟩ := h.sessions record hold
        exact ⟨earlier, List.mem_cons_of_mem _ hm, hearlier⟩

/-- A cookie that is issued keeps the provenance of its flows. -/
theorem provenance_of_flows {s next : State} {browser : ℕ} {cookie : Option StoredCookie}
    (h : Provenance honest s) (hlogins : s.logins ⊆ next.logins)
    (hcookies : next.flowCookies = cookie.toList.map (browser, ·) ++ s.flowCookies)
    (hflows : ∀ flow ∈ storedFlows cookie, ∃ owner began, (owner, began) ∈ next.logins ∧
      began.verifier = flow.verifier ∧ Shares honest owner browser) : Provenance honest next := by
  intro holder stored hm flow hf
  rw [hcookies] at hm
  rcases List.mem_append.mp hm with hnew | hold
  · obtain ⟨issued, hissued, hpair⟩ := List.mem_map.mp hnew
    obtain ⟨rfl, rfl⟩ := Prod.mk.inj hpair
    rw [Option.mem_toList.mp hissued] at hflows
    exact hflows flow hf
  · obtain ⟨owner, began, hbegan, hverifier, hshares⟩ := h holder stored hold flow hf
    exact ⟨owner, began, hlogins hbegan, hverifier, hshares⟩

/-- Every event keeps the provenance. -/
theorem step_provenance {s next : State} {event : Event} (h : Provenance honest s)
    (henv : Environment honest challengeOf parse verify s event)
    (hstep : step parse verify s event = some next) : Provenance honest next := by
  cases event with
  | login browser flowCookie request =>
    cases hlogin : login parse flowCookie request with
    | mk cookie started =>
      rw [step, hlogin] at hstep
      cases hstep
      have hgrows : s.logins ⊆
          if started then (browser, request.flow parse) :: s.logins else s.logins := by
        split
        · exact List.subset_cons_self _ _
        · exact List.Subset.refl _
      refine provenance_of_flows h hgrows rfl ?_
      intro flow hm
      rcases login_flows hlogin hm with ⟨original, horiginal, hverifier⟩ | ⟨hstarted, rfl⟩
      · obtain ⟨owner, began, hbegan, hsame, hshares⟩ := h.shown henv.1 horiginal
        exact ⟨owner, began, hgrows hbegan, hsame.trans hverifier, hshares⟩
      · refine ⟨browser, request.flow parse, ?_, rfl, .refl browser⟩
        change _ ∈ if started then _ else _
        rw [if_pos hstarted]
        exact List.mem_cons_self
  | signedIn grant =>
    rw [step] at hstep
    cases hstep
    exact h
  | callback browser visit =>
    rw [step] at hstep
    cases hstep
    refine provenance_of_flows h (List.Subset.refl _) rfl ?_
    intro flow hm
    obtain ⟨original, horiginal, hverifier⟩ :=
      (completed_completeSignIn parse verify visit).flows flow hm
    obtain ⟨owner, began, hbegan, hsame, hshares⟩ := h.shown henv.1 horiginal
    exact ⟨owner, began, hbegan, hsame.trans hverifier, hshares⟩

/-- What holds in every state of a run. -/
structure Authentic (honest : ℕ → Prop) (challengeOf : String → String) (s : State) : Prop where
  /-- Flows have their provenance. -/
  provenance : Provenance honest s
  /-- The ledger that the state tells of is sound. -/
  ledger : ∃ ledger, Sound honest ledger ∧ Tells challengeOf s ledger

/-- A session that is accepted comes from the cookie, before its end and within
twelve hours of its encoding. -/
theorem requireSession_readSession {cookie : SessionCookie} {authorization : String} {now : ℤ}
    {session : BrowserSession}
    (h : requireSession now ⟨authorization, readSession (some cookie) now⟩ = .ok session) :
    session = cookie.value ∧ session.subject ≠ "" ∧ unix now < session.expiresUnix ∧
      unix now ≤ cookie.issued + cookieMaxAge := by
  rw [requireSession] at h
  dsimp only at h
  split at h
  · cases h
  · next found hread =>
    rw [readSession] at hread
    split at hread
    · cases hread
    · next hfresh =>
      cases hread
      split at h
      · cases h
      · next hcheck =>
        cases h
        rw [Bool.or_eq_true, not_or, beq_iff_eq, decide_eq_true_eq] at hcheck
        exact ⟨rfl, hcheck.1, by omega, by omega⟩

/-- In every run of sign-ins of any number of browsers, with any callback that
an attacker makes up, a session that the console accepts from a browser is one
of a user who has signed in at the identity provider from this very browser, in
a sign-in that the browser itself has begun; or all the browsers concerned are
dishonest. -/
theorem sessions_are_authentic {events : List Event} {s : State}
    (henv : Guarded (step parse verify) (Environment honest challengeOf parse verify) .initial
      events)
    (hrun : run (step parse verify) .initial events = some s) {record : SessionRecord}
    (hr : record ∈ s.sessions) {authorization : String} {now : ℤ} {session : BrowserSession}
    (haccepted : requireSession now ⟨authorization, readSession (some record.cookie) now⟩ =
      .ok session) :
    unix now < session.expiresUnix ∧ unix now ≤ record.cookie.issued + cookieMaxAge ∧
      ∃ grant ∈ s.grants, grant.user = session.subject ∧
        Shares honest grant.agent record.browser ∧
        ∃ owner flow, (owner, flow) ∈ s.logins ∧ Shares honest owner record.browser ∧
          grant.challenge = challengeOf flow.verifier := by
  have hauthentic : Authentic honest challengeOf s := by
    refine run_invariant_guarded ?_ ⟨?_, .empty, sound_empty honest, rfl, rfl, ?_⟩ henv hrun
    · rintro state event next ⟨hprovenance, ledger, hsound, htells⟩ hevent hnext
      obtain ⟨after, hfollows, htold⟩ := step_follows hprovenance htells hevent hnext
      exact ⟨step_provenance hprovenance hevent hnext, after, hsound.follows hfollows, htold⟩
    · intro browser stored hm
      cases hm
    · intro first hm
      cases hm
  obtain ⟨-, ledger, hsound, htells⟩ := hauthentic
  obtain ⟨hvalue, -, hend, hfresh⟩ := requireSession_readSession haccepted
  obtain ⟨grant, hm, huser⟩ := htells.sessions record hr
  obtain ⟨hgrant, hshares, owner, howner, hbegun⟩ := hsound.sessions record.browser grant hm
  rw [htells.begun] at hbegun
  obtain ⟨⟨beginner, flow⟩, hlogin, hpair⟩ := List.mem_map.mp hbegun
  obtain ⟨rfl, hchallenge⟩ := Prod.mk.inj hpair
  refine ⟨hend, hfresh, grant, htells.grants ▸ hgrant, ?_, hshares, beginner, flow, hlogin, howner,
    hchallenge.symm⟩
  rw [huser, hvalue]

/-- The challenges of two proof keys. -/
def sampleChallenge (verifier : String) : String :=
  if verifier == "verifier-1" then "xTYRBLTDt1gS3-rw_3FBVafZ0iNg9bZYBbG8fRPvkEs"
  else "FJO3t0PE8HluwP2_-7vIsnVmjUEqcMhWDRpwAQOBz60"

/-- The identity token of a user. -/
def sampleVerify (raw : String) : Except String IdToken :=
  if raw == "alice-token" then
    .ok ⟨.ok [("sub", .string "alice"), ("lfp_entitlements",
      .array [.object [("name", .string "team"), ("hostname", .string "a.example")]])],
      3600 * second⟩
  else .error "oidc: malformed jwt"

/-- The code that the user gets. -/
def sampleGrant : Grant := ⟨0, "code-1", sampleChallenge "verifier-1", "alice"⟩

/-- The state parameter for the user's browser. -/
theorem sampleState_ne : "state-1" ≠ "" := by decide

/-- The proof key for the user's browser. -/
theorem sampleVerifier_ne : "verifier-1" ≠ "" := by decide

/-- The flow that the user's browser begins. -/
def sampleLogin : LoginRequest :=
  ⟨⟨"state-1", sampleState_ne⟩, ⟨"verifier-1", sampleVerifier_ne⟩, "/routes", standing 0, true⟩

/-- The state parameter for another browser. -/
theorem otherState_ne : "state-2" ≠ "" := by decide

/-- The proof key for another browser. -/
theorem otherVerifier_ne : "verifier-2" ≠ "" := by decide

/-- The flow of another browser. -/
def otherLogin : LoginRequest :=
  ⟨⟨"state-2", otherState_ne⟩, ⟨"verifier-2", otherVerifier_ne⟩, "/", standing 30, true⟩

/-- The callback of the user's browser. -/
def sampleVisit : CallbackVisit where
  flowCookie := some ⟨0, .flows [⟨"state-1", "verifier-1", "/routes", 600⟩]⟩
  sessionCookie := none
  request := ⟨"state-1", standing 60, true⟩
  code := "code-1"
  exchanged := .ok (some "alice-token")
  opened := 60 * second
  encodes := true

/-- The session of the user. -/
def sampleRecord : SessionRecord :=
  ⟨0, ⟨60, ⟨"alice", "", "", ["a.example"], 3600, ""⟩, 3540⟩⟩

/-- A state with both sign-ins. -/
def sampleBegun : State where
  flowCookies := [(1, ⟨30, .flows [⟨"state-2", "verifier-2", "/", 630⟩]⟩),
    (0, ⟨0, .flows [⟨"state-1", "verifier-1", "/routes", 600⟩]⟩)]
  sessions := []
  logins := [(1, ⟨"state-2", "verifier-2", "/", 630⟩),
    (0, ⟨"state-1", "verifier-1", "/routes", 600⟩)]
  grants := []

/-- The state before the callback. -/
def sampleSignedIn : State := { sampleBegun with grants := [sampleGrant] }

/-- The state after the callback. -/
def sampleState : State := { sampleSignedIn with sessions := [sampleRecord] }

/-- Two browsers begin a sign-in, a user signs in from one of them, and this
one opens the session. -/
def sampleEvents : List Event :=
  [.login 0 none sampleLogin, .login 1 none otherLogin, .signedIn sampleGrant,
    .callback 0 sampleVisit]

/-- The session of the user is accepted half an hour later. -/
theorem sessions_are_authentic_alice :
    ∃ grant ∈ sampleState.grants, grant.user = "alice" ∧
      Shares (fun browser => browser = 0) grant.agent sampleRecord.browser := by
  have hfirst : step pathParser sampleVerify .initial (.login 0 none sampleLogin) =
      some { sampleBegun with
        flowCookies := [(0, ⟨0, .flows [⟨"state-1", "verifier-1", "/routes", 600⟩]⟩)]
        logins := [(0, ⟨"state-1", "verifier-1", "/routes", 600⟩)] } := by
    decide +kernel
  have hsecond : step pathParser sampleVerify { sampleBegun with
      flowCookies := [(0, ⟨0, .flows [⟨"state-1", "verifier-1", "/routes", 600⟩]⟩)]
      logins := [(0, ⟨"state-1", "verifier-1", "/routes", 600⟩)] } (.login 1 none otherLogin) =
      some sampleBegun := by
    decide +kernel
  have hthird : step pathParser sampleVerify sampleBegun (.signedIn sampleGrant) =
      some sampleSignedIn := by
    rfl
  have hfourth : step pathParser sampleVerify sampleSignedIn (.callback 0 sampleVisit) =
      some sampleState := by
    decide +kernel
  have hconsumed : (callback pathParser sampleVisit.flowCookie sampleVisit.request).2 =
      some ⟨"state-1", "verifier-1", "/routes"⟩ := by
    decide +kernel
  have henv : Guarded (step pathParser sampleVerify)
      (Environment (fun browser => browser = 0) sampleChallenge pathParser sampleVerify) .initial
      sampleEvents := by
    refine .cons ⟨?_, ?_⟩ hfirst (.cons ⟨?_, ?_⟩ hsecond (.cons ?_ hthird
      (.cons ⟨?_, ?_⟩ hfourth trivial)))
    · intro stored hs
      cases hs
    · intro _ grant hg
      cases hg
    · intro stored hs
      cases hs
    · intro _ grant hg
      cases hg
    · rintro owner flow - - rfl
      rfl
    · intro stored hs
      cases hs
      exact ⟨0, by decide, .refl 0⟩
    · intro consumption hc raw token claims hexchanged htoken hclaims
      rw [hconsumed] at hc
      cases hc
      cases hexchanged
      cases htoken
      cases hclaims
      exact ⟨sampleGrant, List.mem_cons_self, rfl, rfl, rfl, fun _ => rfl⟩
  have hrun : run (step pathParser sampleVerify) .initial sampleEvents = some sampleState := by
    rw [sampleEvents, run, hfirst, Option.bind_some, run, hsecond, Option.bind_some, run, hthird,
      Option.bind_some, run, hfourth, Option.bind_some, run]
  have haccepted : requireSession (1800 * second)
      ⟨"", readSession (some sampleRecord.cookie) (1800 * second)⟩ =
        .ok sampleRecord.cookie.value := by
    decide +kernel
  obtain ⟨-, -, grant, hgrant, huser, hshares, -⟩ :=
    sessions_are_authentic henv hrun List.mem_cons_self haccepted
  exact ⟨grant, hgrant, huser, hshares⟩

end LfpPipe.ConsoleSessions
