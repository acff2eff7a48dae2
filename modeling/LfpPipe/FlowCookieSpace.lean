import Mathlib.Algebra.GroupWithZero.Nat
import LfpPipe.ConsoleReturns

/-!
# Space for sign-in flows in their cookie

The flow list of a sign-in is serialized, encoded, wrapped with a date and a
signature and encoded again; the codec refuses a text of more than 4096 bytes.
What the codec adds is a parameter. How many bytes the strings of four flows may
have is compared here with what the three limits on flows allow: their number,
the length of their generated texts, and the length of a return target.
-/

namespace LfpPipe.FlowCookieSpace

open RustText GoText TunnelTickets SignInFlows RecentEntries ConsoleReturns

/-- Length of the padded encoding of bytes as text. -/
def base64Length (n : ℕ) : ℕ := 4 * ((n + 2) / 3)

/-- Longest cookie value that the codec writes. -/
def maxLength : ℕ := 4096

/-- Bytes of the stored strings of a flow. -/
def flowBytes (flow : OidcFlow) : ℕ :=
  flow.state.utf8ByteSize + flow.verifier.utf8ByteSize + flow.returnTo.utf8ByteSize

/-- Bytes of the stored strings of a list. -/
def storedBytes (flows : List OidcFlow) : ℕ := (flows.map flowBytes).sum

/-- Sizes of the cookie codec. -/
structure FlowCodec where
  /-- Bytes of a serialized and encrypted flow list. -/
  serialized : List OidcFlow → ℕ
  /-- Bytes of the date, the signature and their separators. -/
  envelope : ℕ
  /-- The stored strings are part of what is serialized. -/
  contains : ∀ flows, storedBytes flows ≤ serialized flows

/-- Length of the cookie value of a flow list. -/
def FlowCodec.encodedLength (codec : FlowCodec) (flows : List OidcFlow) : ℕ :=
  base64Length (codec.envelope + base64Length (codec.serialized flows))

/-- Whether the codec writes the cookie. -/
def FlowCodec.encodes (codec : FlowCodec) (flows : List OidcFlow) : Bool :=
  codec.encodedLength flows ≤ maxLength

/-- A stored flow that is complete and has not expired, with a safe return target. -/
def openFlow (parse : UrlParser) (now : ℤ) (flow : OidcFlow) : Option OidcFlow :=
  if flow.state == "" || flow.verifier == "" || flow.expires < unix now then none
  else some { flow with returnTo := safeReturnTo parse flow.returnTo }

section

variable (parse : UrlParser) (cookie : Option StoredCookie) (request : LoginRequest)

/-- The flow list that a sign-in builds. -/
def startedFlows : List OidcFlow :=
  lastFlows (activeOIDCFlows parse ((readOIDCFlows cookie request.readings.checked).getD [])
    request.readings.now ++ [request.flow parse])

/-- A sign-in whose cookie is written by a codec. -/
def signIn (codec : FlowCodec) : Option StoredCookie × Bool :=
  login parse cookie { request with encodes := codec.encodes (startedFlows parse cookie request) }

/-- The open flows of the cookie. -/
def openFlows : List OidcFlow :=
  ((readOIDCFlows cookie request.readings.checked).getD []).filterMap
    (openFlow parse request.readings.now)

/-- The flows of a sign-in: the last three open ones, and the new one. -/
def keptFlows : List OidcFlow :=
  (openFlows parse cookie request).rtake 3 ++ [request.flow parse]

/-- A sign-in finds space for its flows and answers with the redirect. -/
def SignsIn (codec : FlowCodec) : Prop :=
  codec.encodes (startedFlows parse cookie request) = true ∧
    (signIn parse cookie request codec).2 = true

end

variable {parse : UrlParser} {cookie : Option StoredCookie} {request : LoginRequest}

/-- The last entries of more last entries. -/
theorem rtake_rtake_succ {α : Type*} (entries : List α) (n : ℕ) :
    (entries.rtake (n + 1)).rtake n = entries.rtake n := by
  rw [List.rtake_eq_reverse_take_reverse, List.rtake_eq_reverse_take_reverse,
    List.rtake_eq_reverse_take_reverse, List.reverse_reverse, List.take_take,
    Nat.min_eq_left (Nat.le_succ n)]

/-- The flow list that is built has the last three open flows and the new one. -/
theorem startedFlows_eq (parse : UrlParser) (cookie : Option StoredCookie)
    (request : LoginRequest) :
    startedFlows parse cookie request = keptFlows parse cookie request := by
  have hactive : activeOIDCFlows parse ((readOIDCFlows cookie request.readings.checked).getD [])
      request.readings.now = lastFlows (openFlows parse cookie request) := rfl
  have hfour : maxOIDCFlows = 3 + 1 := rfl
  rw [startedFlows, hactive, lastFlows_eq_rtake, lastFlows_eq_rtake, hfour,
    List.rtake_concat_succ, rtake_rtake_succ, keptFlows]

/-- A sign-in answers with the redirect exactly when its cookie is written. -/
theorem signIn_eq (codec : FlowCodec) :
    (signIn parse cookie request codec).2 = codec.encodes (startedFlows parse cookie request) := by
  have hlogin : signIn parse cookie request codec =
      if codec.encodes (startedFlows parse cookie request) then
        (some ⟨unix request.readings.encoded, .flows (startedFlows parse cookie request)⟩, true)
      else (cookie, false) := rfl
  rw [hlogin]
  cases codec.encodes (startedFlows parse cookie request) with
  | true => rfl
  | false => rfl

/-- The codec writes a list exactly when its first encoding leaves space for the
envelope. -/
theorem encodes_iff (codec : FlowCodec) (flows : List OidcFlow) :
    codec.encodes flows = true ↔
      codec.envelope + base64Length (codec.serialized flows) ≤ 3072 := by
  rw [FlowCodec.encodes, decide_eq_true_eq, FlowCodec.encodedLength, maxLength]
  generalize codec.envelope + base64Length (codec.serialized flows) = inner
  rw [base64Length]
  constructor
  · intro h
    omega
  · intro h
    omega

/-- Stored strings of more than 2304 bytes never fit. -/
theorem not_encodes_of_storedBytes {codec : FlowCodec} {flows : List OidcFlow}
    (h : 2304 < storedBytes flows) : codec.encodes flows = false := by
  have hcontains := codec.contains flows
  rw [← Bool.not_eq_true, encodes_iff, base64Length]
  omega

/-- A sign-in answers with the redirect exactly when the last three open flows of
the cookie and the new one leave space for the envelope. They never do when their
strings have more than 2304 bytes. -/
theorem signsIn_iff (codec : FlowCodec) (parse : UrlParser) (cookie : Option StoredCookie)
    (request : LoginRequest) :
    (SignsIn parse cookie request codec ↔
      codec.envelope + base64Length (codec.serialized (keptFlows parse cookie request)) ≤ 3072) ∧
    (2304 < storedBytes (keptFlows parse cookie request) →
      ¬ SignsIn parse cookie request codec) := by
  have hsigns : SignsIn parse cookie request codec ↔
      codec.encodes (keptFlows parse cookie request) = true := by
    rw [SignsIn, signIn_eq, startedFlows_eq, and_self_iff]
  refine ⟨hsigns.trans (encodes_iff codec _), fun hlarge hsigned => ?_⟩
  have hfails := @not_encodes_of_storedBytes codec _ hlarge
  rw [hsigns.mp hsigned] at hfails
  cases hfails

/-- Bytes of generated texts of 43 characters and of the return targets. -/
theorem storedBytes_of_generated {flows : List OidcFlow}
    (htexts : ∀ flow ∈ flows, flow.state.utf8ByteSize = 43 ∧ flow.verifier.utf8ByteSize = 43) :
    storedBytes flows =
      86 * flows.length + (flows.map fun flow => flow.returnTo.utf8ByteSize).sum := by
  induction flows with
  | nil => rfl
  | cons flow rest ih =>
    obtain ⟨hstate, hverifier⟩ := htexts flow (List.mem_cons_self ..)
    have hrest := ih fun other hm => htexts other (List.mem_cons_of_mem _ hm)
    rw [storedBytes] at hrest ⊢
    rw [List.map_cons, List.sum_cons, List.map_cons, List.sum_cons, List.length_cons, hrest,
      flowBytes, hstate, hverifier]
    omega

/-- Four flows as they are started never fit when their return targets have more
than 1960 bytes together. -/
theorem not_encodes_of_targets {codec : FlowCodec} {flows : List OidcFlow}
    (htexts : ∀ flow ∈ flows, flow.state.utf8ByteSize = 43 ∧ flow.verifier.utf8ByteSize = 43)
    (hfour : flows.length = 4)
    (htargets : 1960 < (flows.map fun flow => flow.returnTo.utf8ByteSize).sum) :
    codec.encodes flows = false := by
  refine not_encodes_of_storedBytes ?_
  rw [storedBytes_of_generated htexts, hfour]
  omega

/-- A text without escapes stands for itself. -/
theorem unescape_of_not_mem {text : List Char} (h : '%' ∉ text) : unescape text = some text := by
  fun_induction unescape text with
  | case1 => rfl
  | case2 high low rest hhigh l hlow ih => exact absurd (List.mem_cons_self ..) h
  | case3 high low rest hescape => exact absurd (List.mem_cons_self ..) h
  | case4 rest hshort => exact absurd (List.mem_cons_self ..) h
  | case5 c rest hshort hplain ih =>
    rw [ih fun hm => h (List.mem_cons_of_mem _ hm)]
    rfl

/-- Nothing is cut off at a character that does not occur. -/
theorem cut_of_not_mem {c : Char} {text : List Char} (h : c ∉ text) : cut c text = (text, []) := by
  have hkept : ∀ other ∈ text, (other != c) = true := by
    intro other hm
    rw [bne_iff_ne]
    exact ne_of_mem_of_not_mem hm h
  rw [cut, List.takeWhile_eq_self_iff.mpr hkept, List.dropWhile_eq_nil_iff.mpr hkept,
    List.drop_nil]

/-- A text of letters behind its slash is its own path. -/
theorem parseRooted_of_plain {text : String}
    (h : ∀ c ∈ text.toList, c ≠ '#' ∧ c ≠ '?' ∧ c ≠ '%' ∧ isControl c = false) :
    parseRooted text = some ⟨false, "", text⟩ := by
  have hfragment : '#' ∉ text.toList := fun hm => (h '#' hm).1 rfl
  have hquery : '?' ∉ text.toList := fun hm => (h '?' hm).2.1 rfl
  have hescape : '%' ∉ text.toList := fun hm => (h '%' hm).2.2.1 rfl
  have hcontrol : text.toList.any isControl = false := by
    rw [List.any_eq_false]
    intro c hm
    rw [(h c hm).2.2.2]
    exact Bool.false_ne_true
  rw [parseRooted, cut_of_not_mem hfragment]
  dsimp only
  rw [hcontrol, if_neg Bool.false_ne_true, cut_of_not_mem hquery, unescape_of_not_mem hescape,
    unescape_of_not_mem List.not_mem_nil]
  dsimp only
  rw [String.ofList_toList]

/-- Letters of a long address. -/
def longLetters : List Char := List.replicate 509 'a'

/-- A page with a long address. -/
def longTarget : String := String.ofList ('/' :: 'a' :: 'a' :: longLetters)

/-- It begins like every page. -/
theorem longTarget_toList : longTarget.toList = '/' :: 'a' :: 'a' :: longLetters :=
  String.toList_ofList

/-- It consists of a slash and letters. -/
theorem mem_longTarget {c : Char} (h : c ∈ longTarget.toList) : c = '/' ∨ c = 'a' := by
  rw [longTarget_toList, List.mem_cons, List.mem_cons, List.mem_cons] at h
  rcases h with hslash | hfirst | hsecond | hletter
  · exact .inl hslash
  · exact .inr hfirst
  · exact .inr hsecond
  · have hletters : longLetters = List.replicate 509 'a' := rfl
    rw [hletters] at hletter
    exact .inr (List.eq_of_mem_replicate hletter)

/-- It has as many bytes as a return target may have. -/
theorem longTarget_size : longTarget.utf8ByteSize = 512 := by decide +kernel

/-- A property of both characters holds of all of them. -/
theorem forall_mem_longTarget {P : Char → Prop} (hslash : P '/') (hletter : P 'a') :
    ∀ c ∈ longTarget.toList, P c := by
  intro c hc
  rcases mem_longTarget hc with rfl | rfl
  · exact hslash
  · exact hletter

/-- The page with the long address is a return target. -/
theorem safeReturnTo_longTarget : safeReturnTo parseRooted longTarget = longTarget := by
  have htrim : trimSpace longTarget = longTarget :=
    trimSpace_of_no_space (forall_mem_longTarget (by decide) (by decide))
  have hparse : parseRooted longTarget = some ⟨false, "", longTarget⟩ :=
    parseRooted_of_plain (forall_mem_longTarget (by decide) (by decide))
  have hrooted : hasPrefix longTarget "/" = true := by
    rw [hasPrefix, longTarget_toList]
    rfl
  have hsingle : hasPrefix longTarget "//" = false := by
    rw [hasPrefix, longTarget_toList]
    rfl
  have hplain : longTarget.toList.contains '\\' = false := by
    rw [← Bool.not_eq_true, List.contains_iff_mem]
    intro hmem
    exact forall_mem_longTarget (P := fun c => c ≠ '\\') (by decide) (by decide) _ hmem rfl
  have hother : ∀ text : String, text.toList[2]? ≠ some 'a' → (longTarget == text) = false := by
    intro text htext
    rw [beq_eq_false_iff_ne]
    rintro rfl
    rw [longTarget_toList] at htext
    exact htext rfl
  have hrefused : refused longTarget = false := by
    rw [refused, hother "" (by decide), hrooted, hsingle, hplain, longTarget_size]
    rfl
  have hbelow : hasPrefix longTarget "/api/" = false := by
    rw [hasPrefix, longTarget_toList]
    rfl
  have hsafe : unsafeTarget ⟨false, "", longTarget⟩ = false := by
    rw [unsafeTarget]
    dsimp only
    rw [hrooted, hsingle, hother "/api" (by decide), hbelow]
    rfl
  rw [safeReturnTo_eq, htrim, hrefused, if_neg Bool.false_ne_true, hparse]
  dsimp only
  rw [hsafe, if_neg Bool.false_ne_true]

/-- A generated text of 43 characters. -/
def generated (c : Char) : String := String.ofList (List.replicate 43 c)

/-- A sign-in that was started on a page. -/
def tab (target : String) (c : Char) : OidcFlow := ⟨generated c, generated c, target, 600⟩

/-- The cookie of a browser with three tabs of the page. -/
def threeTabs (target : String) : StoredCookie :=
  ⟨0, .flows [tab target 'a', tab target 'b', tab target 'c']⟩

/-- A clock that stands still. -/
def still : Readings := ⟨0, 0, 0, 0, le_rfl, le_rfl, le_rfl⟩

/-- A fourth tab of the page. -/
def fourthTab (target : String) : LoginRequest :=
  ⟨⟨generated 'd', by decide⟩, ⟨generated 'd', by decide⟩, target, still, true⟩

/-- The flows of four tabs. -/
def fourTabs (target : String) : List OidcFlow :=
  [tab target 'a', tab target 'b', tab target 'c', tab target 'd']

/-- All four flows of a safe page are kept. -/
theorem startedFlows_fourthTab {target : String} (hsafe : safeReturnTo parse target = target) :
    startedFlows parse (some (threeTabs target)) (fourthTab target) = fourTabs target := by
  have hkept : ∀ c ∈ ['a', 'b', 'c'],
      openFlow parse (fourthTab target).readings.now (tab target c) = some (tab target c) := by
    intro c hc
    have hguard : (generated c == "" || generated c == "" ||
        decide ((600 : ℤ) < unix still.now)) = false := by
      have hempty : (generated c == "") = false :=
        forall_mem_of_all (P := fun c => (generated c == "") = false) (by decide +kernel) c hc
      have hearly : decide ((600 : ℤ) < unix still.now) = false := by decide
      rw [hempty, hearly]
      rfl
    have hopen : openFlow parse (fourthTab target).readings.now (tab target c) =
        if (generated c == "" || generated c == "" || decide ((600 : ℤ) < unix still.now)) = true
        then none else some ⟨generated c, generated c, safeReturnTo parse target, 600⟩ := rfl
    rw [hopen, hguard, if_neg Bool.false_ne_true, hsafe, tab]
  have hflows : (readOIDCFlows (some (threeTabs target)) (fourthTab target).readings.checked).getD
      [] = [tab target 'a', tab target 'b', tab target 'c'] := rfl
  have hopen : openFlows parse (some (threeTabs target)) (fourthTab target) =
      [tab target 'a', tab target 'b', tab target 'c'] := by
    rw [openFlows, hflows, List.filterMap_cons_some (hkept 'a' (by decide)),
      List.filterMap_cons_some (hkept 'b' (by decide)),
      List.filterMap_cons_some (hkept 'c' (by decide)), List.filterMap_nil]
  have hnew : (fourthTab target).flow parse = tab target 'd' := by
    have hflow : (fourthTab target).flow parse =
        ⟨generated 'd', generated 'd', safeReturnTo parse target, 600⟩ := rfl
    rw [hflow, hsafe, tab]
  rw [startedFlows_eq, keptFlows, hopen, hnew]
  rfl

/-- The flows of four tabs are as sign-ins write them. -/
theorem fourTabs_generated {target : String} (hsafe : safeReturnTo parse target = target) :
    ∀ flow ∈ fourTabs target, (flow.state.utf8ByteSize = 43 ∧ flow.verifier.utf8ByteSize = 43) ∧
      safeReturnTo parse flow.returnTo = flow.returnTo := by
  have hsizes : ∀ c ∈ ['a', 'b', 'c', 'd'], (generated c).utf8ByteSize = 43 :=
    forall_mem_of_all (by decide +kernel)
  have htabs : fourTabs target = ['a', 'b', 'c', 'd'].map (tab target) := rfl
  intro flow hm
  rw [htabs, List.mem_map] at hm
  obtain ⟨c, hc, rfl⟩ := hm
  exact ⟨⟨hsizes c hc, hsizes c hc⟩, hsafe⟩

/-- The sign-in of the fourth tab finds no space in the cookie when the page has
a long address. -/
theorem fourthTab_fails {target : String} (hsafe : safeReturnTo parse target = target)
    (hlong : 490 < target.utf8ByteSize) (codec : FlowCodec) :
    (signIn parse (some (threeTabs target)) (fourthTab target) codec).2 = false := by
  rw [signIn_eq, startedFlows_fourthTab hsafe]
  refine not_encodes_of_targets (fun flow hm => (fourTabs_generated hsafe flow hm).1) rfl ?_
  have hsum : ((fourTabs target).map fun flow => flow.returnTo.utf8ByteSize).sum =
      target.utf8ByteSize + (target.utf8ByteSize + (target.utf8ByteSize +
        (target.utf8ByteSize + 0))) := rfl
  omega

/-- A codec that writes type descriptions in front of a list and lengths in front
of every string, and a date and a signature of 44 bytes. -/
def sampleCodec : FlowCodec where
  serialized flows := 200 + 16 * flows.length + storedBytes flows
  envelope := 44
  contains _ := Nat.le_add_left _ _

/-- A sign-in of a browser without flow cookie finds space for the long page. -/
theorem first_long_tab_signs_in :
    SignsIn parseRooted none (fourthTab longTarget) sampleCodec := by
  refine (signsIn_iff sampleCodec parseRooted none (fourthTab longTarget)).1.mpr ?_
  have hflow : (fourthTab longTarget).flow parseRooted =
      ⟨generated 'd', generated 'd', safeReturnTo parseRooted longTarget, 600⟩ := rfl
  have hkept : keptFlows parseRooted none (fourthTab longTarget) = [tab longTarget 'd'] := by
    rw [keptFlows, hflow, safeReturnTo_longTarget]
    rfl
  have hgenerated : (generated 'd').utf8ByteSize = 43 := by decide +kernel
  have hbytes : storedBytes [tab longTarget 'd'] = 43 + 43 + 512 + 0 := by
    rw [storedBytes, List.map_cons, List.map_nil, List.sum_cons, List.sum_nil, flowBytes, tab,
      hgenerated, longTarget_size]
  rw [hkept]
  dsimp only [sampleCodec]
  rw [List.length_singleton, hbytes]
  decide

/-- The sign-in of a fourth tab of the long page fails for every codec. -/
theorem fourth_long_tab_fails :
    (∀ flow ∈ fourTabs longTarget,
      (flow.state.utf8ByteSize = 43 ∧ flow.verifier.utf8ByteSize = 43) ∧
        safeReturnTo parseRooted flow.returnTo = flow.returnTo) ∧
    startedFlows parseRooted (some (threeTabs longTarget)) (fourthTab longTarget) =
      fourTabs longTarget ∧
    ∀ codec, (signIn parseRooted (some (threeTabs longTarget)) (fourthTab longTarget) codec).2 =
      false := by
  have hlong : 490 < longTarget.utf8ByteSize := by
    rw [longTarget_size]
    decide
  exact ⟨fourTabs_generated safeReturnTo_longTarget, startedFlows_fourthTab safeReturnTo_longTarget,
    fourthTab_fails safeReturnTo_longTarget hlong⟩

end LfpPipe.FlowCookieSpace
