import LfpPipe.TunnelTickets
import LfpPipe.RecentEntries
import LfpPipe.TransitionRuns

/-!
# Concurrent sign-in flows of one browser

Translated from `login`, `callback`, `readOIDCFlows`, `activeOIDCFlows`,
`consumeOIDCFlow` and `safeReturnTo` of the HTTP API. The flows that a browser
has started are kept in one signed cookie; a sign-in adds a flow and a callback
takes one out. The URL parser is a parameter. Encoding a cookie may fail, and a
cookie of the codec is not read after twelve hours.
-/

namespace LfpPipe.SignInFlows

open RustText GoText TunnelTickets TransitionRuns RecentEntries

/-- Time in which a flow must be completed. -/
def oidcFlowLifetime : ℤ := 600 * second

/-- Flows that a browser may have open. -/
def maxOIDCFlows : ℕ := 4

/-- Longest accepted return target, in bytes. -/
def maxReturnToLength : ℕ := 512

/-- Age in seconds after which the codec refuses a cookie. -/
def cookieMaxAge : ℤ := 12 * 3600

/-- One started sign-in. -/
structure OidcFlow where
  /-- State parameter of the authorization request. -/
  state : String
  /-- Proof key of the code exchange. -/
  verifier : String
  /-- Where to go after the sign-in. -/
  returnTo : String
  /-- Last Unix second in which the flow is accepted. -/
  expires : ℤ
  deriving DecidableEq, Repr

/-- The parts of a parsed URL that are looked at. -/
structure ParsedURL where
  /-- The URL has a scheme. -/
  absolute : Bool
  /-- Host. -/
  host : String
  /-- Decoded path. -/
  path : String

/-- The URL parser; nothing for a text that is no URL. -/
abbrev UrlParser := String → Option ParsedURL

/-- What a flow cookie decodes to: a list of flows, or a single one as earlier
versions wrote it. -/
inductive FlowCookie where
  | flows (flows : List OidcFlow)
  | legacy (flow : OidcFlow)
  deriving DecidableEq, Repr

/-- The flow cookie of a browser. -/
structure StoredCookie where
  /-- Unix time of its encoding. -/
  issued : ℤ
  /-- Its content. -/
  value : FlowCookie
  deriving DecidableEq, Repr

/-- A generated random text, which is never empty. -/
structure Generated where
  /-- The text. -/
  text : String
  /-- It is not empty. -/
  nonempty : text ≠ ""

/-- The clock while a request is handled, in nanoseconds. -/
structure Readings where
  /-- When the cookie is decoded. -/
  checked : ℤ
  /-- When the flows are checked. -/
  now : ℤ
  /-- When a new flow starts. -/
  later : ℤ
  /-- When the cookie is encoded. -/
  encoded : ℤ
  /-- The clock does not go back. -/
  checked_le : checked ≤ now
  /-- Neither does it afterwards. -/
  now_le : now ≤ later
  /-- Nor at the end. -/
  later_le : later ≤ encoded

section

variable (parse : UrlParser)

/-- A parsed return target that leads to another place. -/
def unsafeTarget (parsed : ParsedURL) : Bool :=
  parsed.absolute || parsed.host != "" || !hasPrefix parsed.path "/" ||
    hasPrefix parsed.path "//" || parsed.path == "/api" || hasPrefix parsed.path "/api/"

/-- A path on this site, or else its root. -/
def safeReturnTo (raw : String) : String :=
  let candidate := trimSpace raw
  if candidate == "" || maxReturnToLength < candidate.utf8ByteSize || !hasPrefix candidate "/" ||
      hasPrefix candidate "//" || candidate.toList.contains '\\' then "/"
  else
    match parse candidate with
    | none => "/"
    | some parsed => if unsafeTarget parsed then "/" else candidate

/-- The latest flows of a list that has too many. -/
def lastFlows (flows : List OidcFlow) : List OidcFlow :=
  if maxOIDCFlows < flows.length then flows.drop (flows.length - maxOIDCFlows) else flows

/-- The complete flows that have not expired, with safe return targets. -/
def activeOIDCFlows (flows : List OidcFlow) (now : ℤ) : List OidcFlow :=
  lastFlows (flows.filterMap fun flow =>
    if flow.state == "" || flow.verifier == "" || flow.expires < unix now then none
    else some { flow with returnTo := safeReturnTo parse flow.returnTo })

/-- Take the first flow with a state out of a list. -/
def takeFlow (state : String) : List OidcFlow → Option (OidcFlow × List OidcFlow)
  | [] => none
  | flow :: rest =>
    if state == flow.state then some (flow, rest)
    else (takeFlow state rest).map fun (found, remaining) => (found, flow :: remaining)

/-- Take the active flow with a state; the others remain. -/
def consumeOIDCFlow (flows : List OidcFlow) (state : String) (now : ℤ) :
    Option (OidcFlow × List OidcFlow) :=
  takeFlow state (activeOIDCFlows parse flows now)

/-- The flows of the cookie that a browser sends. -/
def readOIDCFlows (cookie : Option StoredCookie) (checked : ℤ) : Option (List OidcFlow) :=
  match cookie with
  | none => none
  | some stored =>
    if stored.issued < unix checked - cookieMaxAge then none
    else
      match stored.value with
      | .flows flows => some flows
      | .legacy flow => if flow.state == "" then none else some [flow]

/-- A request to start a sign-in. -/
structure LoginRequest where
  /-- Generated state parameter. -/
  state : Generated
  /-- Generated proof key. -/
  verifier : Generated
  /-- The return target asked for. -/
  returnTo : String
  /-- The clock. -/
  readings : Readings
  /-- Whether the cookie can be encoded. -/
  encodes : Bool

/-- A redirect back from the identity provider. -/
structure CallbackRequest where
  /-- The state parameter of the redirect. -/
  state : String
  /-- The clock. -/
  readings : Readings
  /-- Whether the cookie can be encoded. -/
  encodes : Bool

/-- What a callback that consumes a flow works with. -/
structure Consumption where
  /-- The state parameter of the redirect. -/
  state : String
  /-- The proof key sent in the code exchange. -/
  verifier : String
  /-- Where the browser is sent after the sign-in. -/
  returnTo : String
  deriving DecidableEq, Repr

/-- The flow that a sign-in starts. -/
def LoginRequest.flow (request : LoginRequest) : OidcFlow where
  state := request.state.text
  verifier := request.verifier.text
  returnTo := safeReturnTo parse request.returnTo
  expires := unix (request.readings.later + oidcFlowLifetime)

/-- Start a sign-in: the cookie afterwards, and whether the browser was sent to
the identity provider. -/
def login (cookie : Option StoredCookie) (request : LoginRequest) : Option StoredCookie × Bool :=
  let flows := activeOIDCFlows parse ((readOIDCFlows cookie request.readings.checked).getD [])
    request.readings.now
  let started := lastFlows (flows ++ [request.flow parse])
  if request.encodes then (some ⟨unix request.readings.encoded, .flows started⟩, true)
  else (cookie, false)

/-- Complete a sign-in: the cookie afterwards, and the flow that was consumed. -/
def callback (cookie : Option StoredCookie) (request : CallbackRequest) :
    Option StoredCookie × Option Consumption :=
  match (readOIDCFlows cookie request.readings.checked).bind fun flows =>
    consumeOIDCFlow parse flows request.state request.readings.now with
  | none => (cookie, none)
  | some (flow, remaining) =>
    let consumption : Consumption :=
      ⟨request.state, flow.verifier, safeReturnTo parse flow.returnTo⟩
    if remaining.isEmpty then (none, some consumption)
    else if request.encodes then
      (some ⟨unix request.readings.encoded, .flows remaining⟩, some consumption)
    else (cookie, none)

end

/-- The flows in a cookie. -/
def storedFlows : Option StoredCookie → List OidcFlow
  | none => []
  | some ⟨_, .flows flows⟩ => flows
  | some ⟨_, .legacy flow⟩ => [flow]

/-- A browser with what happened so far. -/
structure Browsing where
  /-- The latest flow cookie. -/
  cookie : Option StoredCookie
  /-- The flows of the successful sign-in requests, oldest first. -/
  logins : List OidcFlow
  /-- What the callbacks have consumed, oldest first. -/
  consumed : List Consumption
  /-- The last reading of the clock. -/
  clock : ℤ
  deriving DecidableEq, Repr

/-- A request of the browser. -/
inductive Event where
  | login (request : LoginRequest)
  | callback (request : CallbackRequest)

/-- The clock of a request. -/
def Event.readings : Event → Readings
  | .login request => request.readings
  | .callback request => request.readings

/-- The state parameter that a request generates. -/
def Event.generated : Event → Option String
  | .login request => some request.state.text
  | .callback _ => none

/-- Answer one request of the browser, which sends its latest cookie. -/
def handle (parse : UrlParser) (browsing : Browsing) : Event → Browsing
  | .login request =>
    let (cookie, started) := login parse browsing.cookie request
    { browsing with
      cookie := cookie
      logins := browsing.logins ++ if started then [request.flow parse] else []
      clock := request.readings.encoded }
  | .callback request =>
    let (cookie, consumption) := callback parse browsing.cookie request
    { browsing with
      cookie := cookie
      consumed := browsing.consumed ++ consumption.toList
      clock := request.readings.encoded }

/-- Answering as a transition that is always possible. -/
def step (parse : UrlParser) (browsing : Browsing) (event : Event) : Option Browsing :=
  some (handle parse browsing event)

/-- A browser without flow cookie. -/
def opened (clock : ℤ) : Browsing := ⟨none, [], [], clock⟩

/-- Requests that are handled one after another. -/
def InOrder : ℤ → List Event → Prop
  | _, [] => True
  | clock, event :: rest =>
    clock ≤ event.readings.checked ∧ InOrder event.readings.encoded rest

variable {parse : UrlParser}

/-- The root is a safe return target. -/
theorem safeReturnTo_root : safeReturnTo parse "/" = "/" := by
  have hguard : (trimSpace "/" == "" || maxReturnToLength < (trimSpace "/").utf8ByteSize ||
      !hasPrefix (trimSpace "/") "/" || hasPrefix (trimSpace "/") "//" ||
      (trimSpace "/").toList.contains '\\') = false := by
    decide +kernel
  have htrim : trimSpace "/" = "/" := by decide +kernel
  unfold safeReturnTo
  dsimp only
  rw [hguard, if_neg Bool.false_ne_true, htrim]
  split
  · rfl
  · split
    · rfl
    · rfl

/-- A safe return target is one already. -/
theorem safeReturnTo_safeReturnTo (raw : String) :
    safeReturnTo parse (safeReturnTo parse raw) = safeReturnTo parse raw := by
  have hcases : safeReturnTo parse raw = "/" ∨
      (safeReturnTo parse raw = trimSpace raw ∧
        safeReturnTo parse (trimSpace raw) = safeReturnTo parse raw) := by
    have hagain : safeReturnTo parse (trimSpace raw) = safeReturnTo parse raw := by
      unfold safeReturnTo
      rw [trimSpace_trimSpace]
    by_cases hroot : safeReturnTo parse raw = "/"
    · exact .inl hroot
    · refine .inr ⟨?_, hagain⟩
      unfold safeReturnTo at hroot ⊢
      dsimp only at hroot ⊢
      split
      · rename_i hrefused
        rw [if_pos hrefused] at hroot
        exact absurd rfl hroot
      · rename_i hkept
        rw [if_neg hkept] at hroot
        split
        · rename_i hparse
          rw [hparse] at hroot
          exact absurd rfl hroot
        · rename_i parsed hparse
          rw [hparse] at hroot
          dsimp only at hroot
          split
          · rename_i hunsafe
            rw [if_pos hunsafe] at hroot
            exact absurd rfl hroot
          · rfl
  rcases hcases with hroot | ⟨hsame, hagain⟩
  · rw [hroot, safeReturnTo_root]
  · rw [hsame, hagain, hsame]

/-- Later instants have later Unix times. -/
theorem unix_le_unix {earlier later : ℤ} (h : earlier ≤ later) : unix earlier ≤ unix later :=
  Int.ediv_le_ediv (by decide) h

/-- A flow lasts six hundred seconds. -/
theorem unix_add_lifetime (time : ℤ) : unix (time + oidcFlowLifetime) = unix time + 600 := by
  have hsecond : second ≠ 0 := by decide
  rw [unix, unix, oidcFlowLifetime, Int.add_mul_ediv_right time 600 hsecond]

/-- The latest flows are the last entries. -/
theorem lastFlows_eq_rtake (flows : List OidcFlow) :
    lastFlows flows = flows.rtake maxOIDCFlows := by
  rw [lastFlows]
  split
  · rfl
  · rename_i hshort
    rw [rtake_of_length_le (by omega)]

/-- A flow as it is stored: complete, and with a safe return target. -/
structure Sound (parse : UrlParser) (flow : OidcFlow) : Prop where
  /-- It has a state parameter. -/
  state : flow.state ≠ ""
  /-- It has a proof key. -/
  verifier : flow.verifier ≠ ""
  /-- Its return target is safe. -/
  returnTo : safeReturnTo parse flow.returnTo = flow.returnTo

/-- A new flow is sound. -/
theorem sound_flow (request : LoginRequest) : Sound parse (request.flow parse) where
  state := request.state.nonempty
  verifier := request.verifier.nonempty
  returnTo := by
    dsimp only [LoginRequest.flow]
    rw [safeReturnTo_safeReturnTo]

/-- The flow has not expired. -/
def unexpired (now : ℤ) (flow : OidcFlow) : Bool := decide (unix now ≤ flow.expires)

/-- Of sound flows, those are active that have not expired. -/
theorem activeOIDCFlows_of_sound {flows : List OidcFlow} (hsound : ∀ flow ∈ flows, Sound parse flow)
    (hfew : flows.length ≤ maxOIDCFlows) (now : ℤ) :
    activeOIDCFlows parse flows now = flows.filter (unexpired now) := by
  have hkeep : flows.filterMap (fun flow =>
      if flow.state == "" || flow.verifier == "" || flow.expires < unix now then none
      else some { flow with returnTo := safeReturnTo parse flow.returnTo }) =
      flows.filter (unexpired now) := by
    clear hfew
    induction flows with
    | nil => rfl
    | cons flow flows ih =>
      have hflow := hsound flow List.mem_cons_self
      have hrest := ih fun later hm => hsound later (List.mem_cons_of_mem flow hm)
      have hstate : (flow.state == "") = false := beq_eq_false_iff_ne.mpr hflow.state
      have hverifier : (flow.verifier == "") = false := beq_eq_false_iff_ne.mpr hflow.verifier
      rw [List.filterMap_cons, List.filter_cons, hstate, hverifier, hflow.returnTo, hrest,
        Bool.false_or, Bool.false_or, unexpired]
      by_cases hexpired : flow.expires < unix now
      · have hlate : ¬ unix now ≤ flow.expires := by omega
        rw [decide_eq_true hexpired, if_pos rfl, decide_eq_false hlate, if_neg Bool.false_ne_true]
      · have hearly : unix now ≤ flow.expires := by omega
        rw [decide_eq_false hexpired, if_neg Bool.false_ne_true, decide_eq_true hearly, if_pos rfl]
  rw [activeOIDCFlows, hkeep, lastFlows_eq_rtake]
  refine rtake_of_length_le ?_
  have hle := List.length_filter_le (unexpired now) flows
  omega

/-- What is taken out has the state, and the others stay in order. -/
theorem takeFlow_eq_some {state : String} {flows remaining : List OidcFlow} {flow : OidcFlow}
    (hdistinct : (flows.map OidcFlow.state).Nodup)
    (h : takeFlow state flows = some (flow, remaining)) :
    flow ∈ flows ∧ flow.state = state ∧
      remaining = flows.filter fun other => other.state != state := by
  induction flows generalizing remaining with
  | nil => cases h
  | cons first rest ih =>
    rw [List.map_cons, List.nodup_cons] at hdistinct
    obtain ⟨hnew, hrest⟩ := hdistinct
    rw [takeFlow] at h
    split at h
    · rename_i hsame
      cases h
      have hstate : state = flow.state := beq_iff_eq.mp hsame
      refine ⟨List.mem_cons_self, hstate.symm, ?_⟩
      rw [List.filter_cons, hstate, bne_self_eq_false, if_neg Bool.false_ne_true]
      refine (List.filter_eq_self.mpr ?_).symm
      intro other hm
      rw [bne_iff_ne]
      intro hother
      exact hnew (List.mem_map.mpr ⟨other, hm, hother⟩)
    · rename_i hother
      obtain ⟨⟨found, kept⟩, htaken, hpair⟩ := Option.map_eq_some_iff.mp h
      cases hpair
      obtain ⟨hm, hstate, hkept⟩ := ih hrest htaken
      refine ⟨List.mem_cons_of_mem first hm, hstate, ?_⟩
      have hne : (first.state != state) = true := by
        rw [bne_iff_ne]
        intro hfirst
        rw [hfirst, beq_self_eq_true] at hother
        exact hother rfl
      rw [List.filter_cons, if_pos hne, hkept]

/-- The state parameters that were consumed. -/
def Browsing.consumedStates (browsing : Browsing) : List String :=
  browsing.consumed.map Consumption.state

/-- A flow that can still be completed: neither expired nor consumed. -/
def Browsing.Completable (browsing : Browsing) (now : ℤ) (flow : OidcFlow) : Prop :=
  unix now ≤ flow.expires ∧ flow.state ∉ browsing.consumedStates

/-- What holds whenever a request has been answered. -/
structure Kept (parse : UrlParser) (browsing : Browsing) : Prop where
  /-- The flows started have different states. -/
  distinct : (browsing.logins.map OidcFlow.state).Nodup
  /-- They are sound and expire at most ten minutes from now. -/
  sound : ∀ flow ∈ browsing.logins,
    Sound parse flow ∧ flow.expires ≤ unix browsing.clock + 600
  /-- The cookie is a window over them that keeps what can be completed. -/
  window : Window maxOIDCFlows browsing.logins (storedFlows browsing.cookie)
    (browsing.Completable browsing.clock)
  /-- No stored flow was consumed. -/
  unconsumed : ∀ flow ∈ storedFlows browsing.cookie, flow.state ∉ browsing.consumedStates
  /-- The cookie is a list of flows that expire ten minutes after its encoding. -/
  shape : ∀ stored, browsing.cookie = some stored →
    ∃ flows, stored.value = .flows flows ∧ ∀ flow ∈ flows, flow.expires ≤ stored.issued + 600
  /-- Different callbacks consumed different states. -/
  once : browsing.consumedStates.Nodup
  /-- Each with the proof key and the return target of its own flow. -/
  own : ∀ consumption ∈ browsing.consumed, ∃ flow ∈ browsing.logins,
    consumption = ⟨flow.state, flow.verifier, flow.returnTo⟩

/-- It holds of a browser without flow cookie. -/
theorem kept_opened (clock : ℤ) : Kept parse (opened clock) where
  distinct := List.nodup_nil
  sound := by
    intro flow hm
    cases hm
  window := window_nil maxOIDCFlows _
  unconsumed := by
    intro flow hm
    cases hm
  shape := by
    intro stored h
    cases h
  once := List.nodup_nil
  own := by
    intro consumption hm
    cases hm

/-- The flows that a request finds active are the stored ones that have not
expired. -/
theorem Kept.active {browsing : Browsing} (h : Kept parse browsing) {readings : Readings} :
    activeOIDCFlows parse ((readOIDCFlows browsing.cookie readings.checked).getD []) readings.now =
      (storedFlows browsing.cookie).filter (unexpired readings.now) := by
  have hsound : ∀ flow ∈ storedFlows browsing.cookie, Sound parse flow := by
    intro flow hm
    exact (h.sound flow (h.window.ordered.subset hm)).1
  have hactive := activeOIDCFlows_of_sound hsound h.window.bounded readings.now
  cases hcookie : browsing.cookie with
  | none => rfl
  | some stored =>
    rw [hcookie] at hactive
    obtain ⟨issued, value⟩ := stored
    obtain ⟨flows, hvalue, hexpires⟩ := h.shape _ hcookie
    cases hvalue
    rw [readOIDCFlows]
    dsimp only
    by_cases hold : issued < unix readings.checked - cookieMaxAge
    · rw [if_pos hold]
      refine (List.filter_eq_nil_iff.mpr ?_).symm
      intro flow hm
      have hlimit := hexpires flow hm
      have htime := unix_le_unix readings.checked_le
      have hage : cookieMaxAge = 43200 := rfl
      dsimp only at hlimit
      rw [unexpired, decide_eq_true_eq]
      omega
    · rw [if_neg hold]
      exact hactive

/-- Taking a flow out of the cookie is taking it out of the active flows. -/
theorem consume_eq_takeFlow (cookie : Option StoredCookie) (checked now : ℤ) (state : String) :
    ((readOIDCFlows cookie checked).bind fun flows => consumeOIDCFlow parse flows state now) =
      takeFlow state (activeOIDCFlows parse ((readOIDCFlows cookie checked).getD []) now) := by
  cases readOIDCFlows cookie checked with
  | none => rfl
  | some flows => rfl

/-- A callback that consumes a flow takes exactly that one out of the active
flows, and works with its proof key and return target. -/
theorem Kept.callback_consumes {browsing : Browsing} (h : Kept parse browsing)
    {request : CallbackRequest} {cookie : Option StoredCookie} {consumption : Consumption}
    (hc : callback parse browsing.cookie request = (cookie, some consumption)) :
    (∃ flow ∈ storedFlows browsing.cookie, flow.state = request.state ∧
      unix request.readings.now ≤ flow.expires ∧
      consumption = ⟨flow.state, flow.verifier, flow.returnTo⟩) ∧
    storedFlows cookie = (storedFlows browsing.cookie).filter (fun flow =>
      flow.state != request.state && unexpired request.readings.now flow) ∧
    ∀ stored, cookie = some stored → stored = ⟨unix request.readings.encoded,
      .flows (storedFlows cookie)⟩ := by
  rw [callback, consume_eq_takeFlow, h.active] at hc
  split at hc
  · cases hc
  · rename_i flow remaining htaken
    have hdistinct : (((storedFlows browsing.cookie).filter
        (unexpired request.readings.now)).map OidcFlow.state).Nodup := by
      have hsub := (List.filter_sublist (l := storedFlows browsing.cookie)
        (p := unexpired request.readings.now)).trans h.window.ordered
      exact (hsub.map OidcFlow.state).nodup h.distinct
    obtain ⟨hm, hstate, hremaining⟩ := takeFlow_eq_some hdistinct htaken
    obtain ⟨hstored, hlive⟩ := List.mem_filter.mp hm
    rw [List.filter_filter] at hremaining
    have hsafe := (h.sound flow (h.window.ordered.subset hstored)).1.returnTo
    have hflow : ∃ taken ∈ storedFlows browsing.cookie, taken.state = request.state ∧
        unix request.readings.now ≤ taken.expires ∧
        (⟨request.state, flow.verifier, safeReturnTo parse flow.returnTo⟩ : Consumption) =
          ⟨taken.state, taken.verifier, taken.returnTo⟩ := by
      refine ⟨flow, hstored, hstate, of_decide_eq_true hlive, ?_⟩
      rw [hsafe, hstate]
    dsimp only at hc
    split at hc
    · rename_i hempty
      cases hc
      rw [← hremaining]
      refine ⟨hflow, (List.isEmpty_iff.mp hempty).symm, ?_⟩
      intro stored hstored
      cases hstored
    · split at hc
      · cases hc
        refine ⟨hflow, hremaining, ?_⟩
        intro stored hstored
        cases hstored
        rfl
      · cases hc

/-- A callback that consumes nothing leaves the cookie as it is. -/
theorem callback_unchanged {cookie after : Option StoredCookie} {request : CallbackRequest}
    (h : callback parse cookie request = (after, none)) : after = cookie := by
  rw [callback] at h
  split at h
  · cases h
    rfl
  · dsimp only at h
    split at h
    · cases h
    · split at h
      · cases h
      · cases h
        rfl

/-- Time passes. -/
theorem Kept.later {browsing : Browsing} (h : Kept parse browsing) {clock : ℤ}
    (hclock : browsing.clock ≤ clock) : Kept parse { browsing with clock := clock } where
  distinct := h.distinct
  sound := by
    intro flow hm
    obtain ⟨hsound, hlimit⟩ := h.sound flow hm
    have htime := unix_le_unix hclock
    refine ⟨hsound, ?_⟩
    dsimp only
    omega
  window := by
    refine h.window.mono ?_
    intro flow hwanted
    have htime := unix_le_unix hclock
    have hlive : unix clock ≤ flow.expires := hwanted.1
    exact ⟨by omega, hwanted.2⟩
  unconsumed := h.unconsumed
  shape := h.shape
  once := h.once
  own := h.own

/-- A successful sign-in request adds its flow. -/
theorem Kept.add {browsing : Browsing} (h : Kept parse browsing) {request : LoginRequest}
    (hclock : browsing.clock ≤ request.readings.checked)
    (hfresh : request.state.text ∉ browsing.logins.map OidcFlow.state) :
    Kept parse { browsing with
      cookie := some ⟨unix request.readings.encoded, .flows (lastFlows
        ((storedFlows browsing.cookie).filter (unexpired request.readings.now) ++
          [request.flow parse]))⟩
      logins := browsing.logins ++ [request.flow parse]
      clock := request.readings.encoded } := by
  have hchecked := request.readings.checked_le
  have hnow := request.readings.now_le
  have hlater := request.readings.later_le
  have htime := unix_le_unix (show browsing.clock ≤ request.readings.encoded by omega)
  have hstart := unix_le_unix hlater
  have hexpires : (request.flow parse).expires = unix request.readings.later + 600 :=
    unix_add_lifetime request.readings.later
  have hdistinct : ((browsing.logins ++ [request.flow parse]).map OidcFlow.state).Nodup := by
    rw [List.map_append, List.nodup_append]
    refine ⟨h.distinct, List.nodup_singleton _, ?_⟩
    intro state hold other hnew hsame
    rw [List.map_cons, List.map_nil, List.mem_singleton] at hnew
    rw [hsame, hnew] at hold
    exact hfresh hold
  have hsound : ∀ flow ∈ browsing.logins ++ [request.flow parse],
      Sound parse flow ∧ flow.expires ≤ unix request.readings.encoded + 600 := by
    intro flow hm
    rcases List.mem_append.mp hm with hold | hnew
    · obtain ⟨hgood, hlimit⟩ := h.sound flow hold
      exact ⟨hgood, by omega⟩
    · rw [List.mem_singleton.mp hnew]
      exact ⟨sound_flow request, by omega⟩
  have hwindow : Window maxOIDCFlows (browsing.logins ++ [request.flow parse])
      (lastFlows ((storedFlows browsing.cookie).filter (unexpired request.readings.now) ++
        [request.flow parse])) (browsing.Completable request.readings.encoded) := by
    rw [lastFlows_eq_rtake]
    have hearlier := (h.later (show browsing.clock ≤ request.readings.encoded by omega)).window
    refine (hearlier.filter ?_).push (hdistinct.of_map OidcFlow.state)
    intro flow hwanted
    have hlive : unix request.readings.encoded ≤ flow.expires := hwanted.1
    have hpassed := unix_le_unix (show request.readings.now ≤ request.readings.encoded by omega)
    exact decide_eq_true (by omega)
  have hnotused : (request.flow parse).state ∉ browsing.consumedStates := by
    intro hused
    obtain ⟨consumption, hm, hstate⟩ := List.mem_map.mp hused
    obtain ⟨flow, hflow, rfl⟩ := h.own consumption hm
    exact hfresh (List.mem_map.mpr ⟨flow, hflow, hstate⟩)
  refine ⟨hdistinct, hsound, hwindow, ?_, ?_, h.once, ?_⟩
  · intro flow hm
    have hkept : flow ∈ (storedFlows browsing.cookie).filter (unexpired request.readings.now) ++
        [request.flow parse] := by
      have hlast : flow ∈ lastFlows ((storedFlows browsing.cookie).filter
          (unexpired request.readings.now) ++ [request.flow parse]) := hm
      rw [lastFlows_eq_rtake] at hlast
      exact (rtake_sublist _ _).subset hlast
    rcases List.mem_append.mp hkept with hold | hnew
    · exact h.unconsumed flow (List.mem_filter.mp hold).1
    · rw [List.mem_singleton.mp hnew]
      exact hnotused
  · intro stored hstored
    cases hstored
    refine ⟨_, rfl, ?_⟩
    intro flow hm
    exact (hsound flow (hwindow.ordered.subset hm)).2
  · intro consumption hm
    obtain ⟨flow, hflow, hsame⟩ := h.own consumption hm
    exact ⟨flow, List.mem_append_left _ hflow, hsame⟩

/-- A callback that consumes a flow takes it out. -/
theorem Kept.consume {browsing : Browsing} (h : Kept parse browsing) {request : CallbackRequest}
    (hclock : browsing.clock ≤ request.readings.checked) {cookie : Option StoredCookie}
    {consumption : Consumption}
    (hc : callback parse browsing.cookie request = (cookie, some consumption)) :
    Kept parse { browsing with
      cookie := cookie
      consumed := browsing.consumed ++ [consumption]
      clock := request.readings.encoded } := by
  obtain ⟨⟨consumed, hstored, hstate, -, rfl⟩, hcookie, hshape⟩ := h.callback_consumes hc
  have hchecked := request.readings.checked_le
  have hnow := request.readings.now_le
  have hlater := request.readings.later_le
  have hclockle : browsing.clock ≤ request.readings.encoded := by omega
  have hpassed := unix_le_unix (show request.readings.now ≤ request.readings.encoded by omega)
  have hthen := h.later hclockle
  have hstates : ∀ state, state ∈ (browsing.consumed ++
      [(⟨consumed.state, consumed.verifier, consumed.returnTo⟩ : Consumption)]).map
        Consumption.state ↔ state ∈ browsing.consumedStates ∨ state = request.state := by
    intro state
    rw [List.map_append, List.mem_append, List.map_cons, List.map_nil, List.mem_singleton, hstate]
    rfl
  have hwindow : Window maxOIDCFlows browsing.logins (storedFlows cookie)
      (fun flow => unix request.readings.encoded ≤ flow.expires ∧
        flow.state ∉ (browsing.consumed ++
          [(⟨consumed.state, consumed.verifier, consumed.returnTo⟩ : Consumption)]).map
            Consumption.state) := by
    rw [hcookie]
    refine (hthen.window.mono ?_).filter ?_
    · intro flow hwanted
      exact ⟨hwanted.1, fun hused => hwanted.2 ((hstates flow.state).mpr (.inl hused))⟩
    · intro flow hwanted
      have hother : flow.state ≠ request.state := fun hsame =>
        hwanted.2 ((hstates flow.state).mpr (.inr hsame))
      have hlive := hwanted.1
      rw [Bool.and_eq_true, bne_iff_ne, unexpired, decide_eq_true_eq]
      exact ⟨hother, by omega⟩
  refine ⟨h.distinct, hthen.sound, hwindow, ?_, ?_, ?_, ?_⟩
  · intro flow hm hused
    have hkept : flow ∈ storedFlows cookie := hm
    rw [hcookie] at hkept
    obtain ⟨hold, hcondition⟩ := List.mem_filter.mp hkept
    rw [Bool.and_eq_true, bne_iff_ne] at hcondition
    rcases (hstates flow.state).mp hused with hbefore | hsame
    · exact h.unconsumed flow hold hbefore
    · exact hcondition.1 hsame
  · intro stored hafter
    have hvalue := hshape stored hafter
    refine ⟨storedFlows cookie, by rw [hvalue], ?_⟩
    intro flow hm
    have hlimit := (hthen.sound flow (hwindow.ordered.subset hm)).2
    rw [hvalue]
    exact hlimit
  · have hnew : consumed.state ∉ browsing.consumedStates := h.unconsumed consumed hstored
    have hall : (browsing.consumed ++
        [(⟨consumed.state, consumed.verifier, consumed.returnTo⟩ : Consumption)]).map
          Consumption.state = browsing.consumedStates ++ [consumed.state] := by
      rw [List.map_append]
      rfl
    have honce : (browsing.consumedStates ++ [consumed.state]).Nodup := by
      rw [List.nodup_append]
      refine ⟨h.once, List.nodup_singleton _, ?_⟩
      intro state hold other hlast hsame
      rw [hsame, List.mem_singleton.mp hlast] at hold
      exact hnew hold
    rw [← hall] at honce
    exact honce
  · intro consumption hm
    rcases List.mem_append.mp hm with hold | hlast
    · exact h.own consumption hold
    · rw [List.mem_singleton.mp hlast]
      exact ⟨consumed, h.window.ordered.subset hstored, rfl⟩

/-- A request that comes later than the last one and generates a new state. -/
def Acceptable (browsing : Browsing) (event : Event) : Prop :=
  browsing.clock ≤ event.readings.checked ∧
    ∀ state, event.generated = some state → state ∉ browsing.logins.map OidcFlow.state

/-- Every acceptable request keeps the invariant. -/
theorem Kept.step {browsing next : Browsing} {event : Event} (h : Kept parse browsing)
    (hacceptable : Acceptable browsing event) (hstep : step parse browsing event = some next) :
    Kept parse next := by
  obtain ⟨hclock, hfresh⟩ := hacceptable
  cases hstep
  have hchecked := event.readings.checked_le
  have hnow := event.readings.now_le
  have hlater := event.readings.later_le
  have hpassed : browsing.clock ≤ event.readings.encoded := by omega
  cases event with
  | login request =>
    rw [handle, login, h.active]
    dsimp only
    cases request.encodes with
    | false =>
      rw [if_neg Bool.false_ne_true]
      dsimp only
      rw [if_neg Bool.false_ne_true, List.append_nil]
      exact h.later hpassed
    | true =>
      rw [if_pos rfl]
      exact h.add hclock (hfresh _ rfl)
  | callback request =>
    rw [handle]
    cases hanswer : callback parse browsing.cookie request with
    | mk cookie consumption =>
      dsimp only
      cases consumption with
      | none =>
        rw [callback_unchanged hanswer, Option.toList_none, List.append_nil]
        exact h.later hpassed
      | some consumption => exact h.consume hclock hanswer

/-- Requests in order that generate different states are acceptable when they
come. -/
theorem guarded_of_inOrder {events : List Event} {browsing : Browsing}
    (horder : InOrder browsing.clock events) (hdistinct : (events.filterMap Event.generated).Nodup)
    (hfresh : ∀ state ∈ events.filterMap Event.generated,
      state ∉ browsing.logins.map OidcFlow.state) :
    Guarded (step parse) Acceptable browsing events := by
  induction events generalizing browsing with
  | nil => trivial
  | cons event rest ih =>
    refine ⟨⟨horder.1, ?_⟩, ?_⟩
    · intro state hstate
      refine hfresh state ?_
      rw [List.filterMap_cons, hstate]
      exact List.mem_cons_self
    · intro next hnext
      cases hnext
      have hclock : (handle parse browsing event).clock = event.readings.encoded := by
        cases event with
        | login request => rfl
        | callback request => rfl
      cases event with
      | login request =>
        have hgenerated : (Event.login request :: rest).filterMap Event.generated =
            request.state.text :: rest.filterMap Event.generated := rfl
        rw [hgenerated, List.nodup_cons] at hdistinct
        refine ih (by rw [hclock]; exact horder.2) hdistinct.2 ?_
        intro state hm hused
        have hlogins : state ∈ (browsing.logins ++ [request.flow parse]).map OidcFlow.state := by
          rw [handle] at hused
          dsimp only at hused
          split at hused
          · exact hused
          · rw [List.append_nil] at hused
            rw [List.map_append]
            exact List.mem_append_left _ hused
        rw [List.map_append, List.mem_append, List.map_cons, List.map_nil,
          List.mem_singleton] at hlogins
        rcases hlogins with hold | hnew
        · refine hfresh state ?_ hold
          rw [hgenerated]
          exact List.mem_cons_of_mem _ hm
        · have hsame : state = request.state.text := hnew
          rw [hsame] at hm
          exact hdistinct.1 hm
      | callback request =>
        have hgenerated : (Event.callback request :: rest).filterMap Event.generated =
            rest.filterMap Event.generated := rfl
        rw [hgenerated] at hdistinct hfresh
        exact ih (by rw [hclock]; exact horder.2) hdistinct hfresh

/-- In every run of requests of one browser, one after another and with
different generated states, the cookie has at most four flows, all of them
started by a successful request and not consumed, and among them each of the
last four started flows that is neither expired nor consumed. A state is consumed
once, with the proof key and the return target of its flow, and the other active
flows stay as they are. -/
theorem sign_in_flows_kept {clock : ℤ} {events : List Event} (horder : InOrder clock events)
    (hdistinct : (events.filterMap Event.generated).Nodup) {browsing : Browsing}
    (hrun : run (step parse) (opened clock) events = some browsing) :
    (storedFlows browsing.cookie).length ≤ maxOIDCFlows ∧
    (∀ flow ∈ storedFlows browsing.cookie,
      flow ∈ browsing.logins ∧ flow.state ∉ browsing.consumedStates) ∧
    (∀ now, browsing.clock ≤ now → ∀ flow ∈ browsing.logins.rtake maxOIDCFlows,
      unix now ≤ flow.expires → flow.state ∉ browsing.consumedStates →
        flow ∈ storedFlows browsing.cookie) ∧
    browsing.consumedStates.Nodup ∧
    (∀ consumption ∈ browsing.consumed, ∃ flow ∈ browsing.logins,
      consumption = ⟨flow.state, flow.verifier, flow.returnTo⟩) ∧
    ∀ request : CallbackRequest, ∀ cookie consumption,
      callback parse browsing.cookie request = (cookie, some consumption) →
        (∃ flow ∈ storedFlows browsing.cookie, flow.state = request.state ∧
          unix request.readings.now ≤ flow.expires ∧
          consumption = ⟨flow.state, flow.verifier, flow.returnTo⟩) ∧
        storedFlows cookie = (storedFlows browsing.cookie).filter fun flow =>
          flow.state != request.state && unexpired request.readings.now flow := by
  have hguarded : Guarded (step parse) Acceptable (opened clock) events :=
    guarded_of_inOrder horder hdistinct fun state _ hused => by cases hused
  have hkept : Kept parse browsing := by
    refine run_invariant_guarded ?_ (kept_opened clock) hguarded hrun
    intro state event next hstate hacceptable hnext
    exact hstate.step hacceptable hnext
  refine ⟨hkept.window.bounded, ?_, ?_, hkept.once, hkept.own, ?_⟩
  · intro flow hm
    exact ⟨hkept.window.ordered.subset hm, hkept.unconsumed flow hm⟩
  · intro now hnow flow hlast hlive hunused
    have htime := unix_le_unix hnow
    exact hkept.window.recent flow hlast ⟨by omega, hunused⟩
  · intro request cookie consumption hconsumes
    obtain ⟨htaken, hremaining, -⟩ := hkept.callback_consumes hconsumes
    exact ⟨htaken, hremaining⟩

/-- A parser that takes every text for a path. -/
def pathParser (text : String) : Option ParsedURL := some ⟨false, "", text⟩

/-- A clock that stands still while a request is handled. -/
def standing (time : ℤ) : Readings where
  checked := time * second
  now := time * second
  later := time * second
  encoded := time * second
  checked_le := le_refl _
  now_le := le_refl _
  later_le := le_refl _

/-- Two sign-ins, and the callback of the first. -/
def twoSignIns : List Event :=
  [.login ⟨⟨"state-1", by decide⟩, ⟨"verifier-1", by decide⟩, "/routes", standing 0, true⟩,
    .login ⟨⟨"state-2", by decide⟩, ⟨"verifier-2", by decide⟩, "//other", standing 60, true⟩,
    .callback ⟨"state-1", standing 120, true⟩]

/-- The browser after them. -/
def afterSignIns : Browsing where
  cookie := some ⟨120, .flows [⟨"state-2", "verifier-2", "/", 660⟩]⟩
  logins := [⟨"state-1", "verifier-1", "/routes", 600⟩, ⟨"state-2", "verifier-2", "/", 660⟩]
  consumed := [⟨"state-1", "verifier-1", "/routes"⟩]
  clock := 120 * second

/-- The second flow is still there, also ten minutes after its start. -/
theorem sign_in_flows_kept_second :
    (⟨"state-2", "verifier-2", "/", 660⟩ : OidcFlow) ∈ storedFlows afterSignIns.cookie := by
  have hrun : run (step pathParser) (opened 0) twoSignIns = some afterSignIns := by
    decide +kernel
  have horder : InOrder 0 twoSignIns := by
    refine ⟨?_, ?_, ?_, trivial⟩
    · decide
    · decide
    · decide
  have hdistinct : (twoSignIns.filterMap Event.generated).Nodup := by decide
  have hlast : (⟨"state-2", "verifier-2", "/", 660⟩ : OidcFlow) ∈
      afterSignIns.logins.rtake maxOIDCFlows := by decide
  have hlive : unix (660 * second) ≤ (⟨"state-2", "verifier-2", "/", 660⟩ : OidcFlow).expires := by
    decide
  have hunused : (⟨"state-2", "verifier-2", "/", 660⟩ : OidcFlow).state ∉
      afterSignIns.consumedStates := by decide
  have hkept := (sign_in_flows_kept horder hdistinct hrun).2.2.1
  exact hkept (660 * second) (by decide) _ hlast hlive hunused

end LfpPipe.SignInFlows
