import LfpPipe.RawTunnel

/-!
# Direct routes for TLS names

The check of configured direct routes, translated from
`shared/src/config.rs`, and which of them `handle_ingress` takes for a
detected connection. The check compares trimmed hostnames in lower case. The
choice compares hostnames as they are written with the detected name, which
is a TLS server name or the host of a plaintext request.
-/

namespace LfpPipe.SniRoutes

open RustText Fallible SharedConfig ChunkedReads IngressPreface IngressPairing RawTunnel

/-- The hostname of a route as the check compares it. -/
def routeKey (route : SniPassthroughRoute) : String := toAsciiLowercase (trim route.hostname)

/-- Check routes after others with the given keys. -/
def validateRoutes (hostnames : List String) : List SniPassthroughRoute → Except AnyError Unit
  | [] => .ok ()
  | route :: rest => do
    ensure (!(routeKey route).isEmpty) "SNI passthrough hostname cannot be empty"
    ensure (!isBlank route.backendAddr)
      ("SNI passthrough backend_addr cannot be empty for " ++ route.hostname)
    ensure (!hostnames.contains (routeKey route))
      ("duplicate SNI passthrough hostname " ++ route.hostname)
    validateRoutes (routeKey route :: hostnames) rest

/-- Check the direct routes of an ingress. -/
def validateIngressConfig (config : IngressConfig) : Except AnyError Unit :=
  validateRoutes [] config.sniPassthroughRoutes

/-- The direct route that a public connection is forwarded to, if any. -/
def directRoute (config : IngressConfig) (sockets : PublicSide) (socket : ℕ) :
    Option SniPassthroughRoute :=
  match sockets.detection socket with
  | none => none
  | some report =>
    match report.verdict with
    | .error _ => none
    | .ok (hostname, _) => selectSniPassthrough config.sniPassthroughRoutes hostname

/-- Accepted routes have different keys, none of which was there before. -/
theorem validateRoutes_keys {routes : List SniPassthroughRoute} {hostnames : List String}
    {u : Unit} (h : validateRoutes hostnames routes = .ok u) :
    (∀ route ∈ routes, routeKey route ∉ hostnames) ∧ (routes.map routeKey).Nodup := by
  induction routes generalizing hostnames with
  | nil => exact ⟨fun route hr => (nomatch hr), List.nodup_nil⟩
  | cons route rest ih =>
    simp only [validateRoutes, bind_eq_ok, ensure_eq_ok, Bool.not_eq_true',
      List.contains_eq_mem, decide_eq_false_iff_not] at h
    obtain ⟨_, -, _, -, _, hnew, hrest⟩ := h
    obtain ⟨hlater, hnodup⟩ := ih hrest
    constructor
    · intro other hother
      rcases List.mem_cons.mp hother with rfl | hmem
      · exact hnew
      · exact fun hin => hlater other hmem (List.mem_cons_of_mem _ hin)
    · rw [List.map_cons, List.nodup_cons]
      refine ⟨fun hmem => ?_, hnodup⟩
      obtain ⟨other, hother, hkey⟩ := List.mem_map.mp hmem
      refine hlater other hother ?_
      rw [hkey]
      exact List.mem_cons_self ..

/-- Accepted routes with one key are one route. -/
theorem eq_of_routeKey_eq {config : IngressConfig} {u : Unit}
    (h : validateIngressConfig config = .ok u) {route other : SniPassthroughRoute}
    (hroute : route ∈ config.sniPassthroughRoutes) (hother : other ∈ config.sniPassthroughRoutes)
    (hkey : routeKey route = routeKey other) : route = other :=
  List.inj_on_of_nodup_map (validateRoutes_keys h).2 hroute hother hkey

/-- Characters of letters and signs are no white space. -/
theorem isWhitespace_eq_false {c : Char} (hlow : 65 ≤ c.toNat) (hhigh : c.toNat ≤ 122) :
    isWhitespace c = false := by
  simp only [isWhitespace, Bool.or_eq_false_iff, Bool.and_eq_false_iff, decide_eq_false_iff_not,
    beq_eq_false_iff_ne]
  omega

/-- White space has no case. -/
theorem isWhitespace_toLower (c : Char) : isWhitespace c.toLower = isWhitespace c := by
  cases hupper : c.isUpper with
  | false => rw [toLower_of_not_isUpper hupper]
  | true =>
    obtain ⟨hlow, hhigh⟩ := isUpper_iff.mp hupper
    have hsum := toNat_toLower hupper
    rw [isWhitespace_eq_false hlow (by omega)]
    exact isWhitespace_eq_false (by omega) (by omega)

/-- Trimming and lowering commute. -/
theorem trim_toAsciiLowercase (s : String) :
    trim (toAsciiLowercase s) = toAsciiLowercase (trim s) := by
  have hfun : isWhitespace ∘ Char.toLower = isWhitespace := funext isWhitespace_toLower
  rw [trim, trim, toAsciiLowercase, toAsciiLowercase, String.toList_ofList, String.toList_ofList,
    dropEndWhile, dropEndWhile, List.dropWhile_map, hfun, ←List.map_reverse, List.dropWhile_map,
    hfun, List.map_reverse]

/-- The connection is a TLS connection that names the route. -/
def NamedBy (route : SniPassthroughRoute) (detection : Detection) : Prop :=
  detection.2 = true ∧ ∃ name, detection.1 = some name ∧ routeKey route = toAsciiLowercase name

/-- The connection is forwarded to exactly the route that it names, which is
never more than one, and plaintext is not forwarded. -/
structure ExactPassthrough (config : IngressConfig) (sockets : PublicSide) (socket : ℕ)
    (detection : Detection) : Prop where
  /-- A route is taken when it is named, and only then. -/
  exact : ∀ route ∈ config.sniPassthroughRoutes,
    directRoute config sockets socket = some route ↔ NamedBy route detection
  /-- Two named routes are one. -/
  unique : ∀ route ∈ config.sniPassthroughRoutes, ∀ other ∈ config.sniPassthroughRoutes,
    NamedBy route detection → NamedBy other detection → route = other
  /-- Plaintext takes no route. -/
  plaintext : detection.2 = false → directRoute config sockets socket = none

/-- For TLS, a route that is named, with or without trimming, is written
without surrounding white space; for plaintext, the host is no route as
written. -/
def WrittenExactly (config : IngressConfig) (detection : Detection) : Prop :=
  ∀ name, detection.1 = some name → ∀ route ∈ config.sniPassthroughRoutes,
    if detection.2 = true then
      (routeKey route = toAsciiLowercase name ∨ eqIgnoreAsciiCase route.hostname name = true) →
        trim route.hostname = route.hostname
    else eqIgnoreAsciiCase route.hostname name = false

/-- A route is found by its hostname as written. -/
theorem selectSniPassthrough_eq_some {routes : List SniPassthroughRoute} {hostname : Option String}
    {route : SniPassthroughRoute} (h : selectSniPassthrough routes hostname = some route) :
    route ∈ routes ∧ ∃ name, hostname = some name ∧
      toAsciiLowercase route.hostname = toAsciiLowercase name := by
  obtain ⟨name, hname, hfind⟩ := Option.bind_eq_some_iff.mp h
  have hmatches := List.find?_some hfind
  exact ⟨List.mem_of_find?_eq_some hfind, name, hname, beq_iff_eq.mp hmatches⟩

/-- Some route is found when one matches as written. -/
theorem exists_selectSniPassthrough {routes : List SniPassthroughRoute} {name : String}
    {route : SniPassthroughRoute} (hroute : route ∈ routes)
    (hmatches : eqIgnoreAsciiCase route.hostname name = true) :
    ∃ found, selectSniPassthrough routes (some name) = some found := by
  have hfind : (routes.find? fun other => eqIgnoreAsciiCase other.hostname name).isSome = true := by
    rw [List.find?_isSome]
    exact ⟨route, hroute, hmatches⟩
  exact Option.isSome_iff_exists.mp hfind

/-- Routes that are written alike have one key. -/
theorem routeKey_eq_of_written {route other : SniPassthroughRoute}
    (h : toAsciiLowercase route.hostname = toAsciiLowercase other.hostname) :
    routeKey route = routeKey other := by
  rw [routeKey, routeKey, ←trim_toAsciiLowercase, ←trim_toAsciiLowercase, h]

/-- What trimming leaves is a part of the text. -/
theorem trim_isInfix (s : String) : (trim s).toList <:+: s.toList := by
  rw [trim, String.toList_ofList]
  have hend := dropEndWhile_prefix isWhitespace (s.toList.dropWhile isWhitespace)
  exact hend.isInfix.trans (List.dropWhile_suffix _).isInfix

/-- A hostname that keeps its lower case when trimmed is written without
surrounding white space. -/
theorem trim_eq_of_routeKey {route : SniPassthroughRoute}
    (h : routeKey route = toAsciiLowercase route.hostname) :
    trim route.hostname = route.hostname := by
  have hlength : (trim route.hostname).toList.length = route.hostname.toList.length := by
    have hboth := congrArg (fun text => text.toList.length) h
    simpa only [routeKey, toAsciiLowercase, String.toList_ofList, List.length_map] using hboth
  exact String.toList_inj.mp ((trim_isInfix route.hostname).eq_of_length hlength)

/-- In an accepted configuration, a route is taken for the names that it is
written as. -/
theorem selectSniPassthrough_iff {config : IngressConfig} {u : Unit}
    (hvalid : validateIngressConfig config = .ok u) {route : SniPassthroughRoute}
    (hroute : route ∈ config.sniPassthroughRoutes) {name : String} :
    selectSniPassthrough config.sniPassthroughRoutes (some name) = some route ↔
      eqIgnoreAsciiCase route.hostname name = true := by
  constructor
  · intro htaken
    obtain ⟨-, same, hsame, hwritten⟩ := selectSniPassthrough_eq_some htaken
    cases hsame
    exact beq_iff_eq.mpr hwritten
  · intro hmatches
    obtain ⟨found, hfound⟩ := exists_selectSniPassthrough hroute hmatches
    obtain ⟨hmem, same, hsame, hwritten⟩ := selectSniPassthrough_eq_some hfound
    cases hsame
    have halike : toAsciiLowercase found.hostname = toAsciiLowercase route.hostname :=
      hwritten.trans (beq_iff_eq.mp hmatches).symm
    rw [hfound, eq_of_routeKey_eq hvalid hmem hroute (routeKey_eq_of_written halike)]

/-- Being written as a name and having that name agree exactly when each of them
means that there is no surrounding white space. -/
theorem written_iff_named {route : SniPassthroughRoute} {name : String} :
    (eqIgnoreAsciiCase route.hostname name = true ↔ routeKey route = toAsciiLowercase name) ↔
      ((routeKey route = toAsciiLowercase name ∨ eqIgnoreAsciiCase route.hostname name = true) →
        trim route.hostname = route.hostname) := by
  rw [eqIgnoreAsciiCase, beq_iff_eq]
  constructor
  · rintro halike (hkey | hwritten)
    · exact trim_eq_of_routeKey (hkey.trans (halike.mpr hkey).symm)
    · exact trim_eq_of_routeKey ((halike.mp hwritten).trans hwritten.symm)
  · intro htrimmed
    constructor
    · intro hwritten
      rw [routeKey, htrimmed (.inr hwritten), hwritten]
    · intro hkey
      rw [←hkey, routeKey, htrimmed (.inl hkey)]

/-- A route that a TLS connection with a name is for. -/
theorem namedBy_some {route : SniPassthroughRoute} {name : String} :
    NamedBy route (some name, true) ↔ routeKey route = toAsciiLowercase name := by
  constructor
  · rintro ⟨-, same, hsame, hkey⟩
    cases hsame
    exact hkey
  · exact fun hkey => ⟨rfl, name, rfl, hkey⟩

/-- On every stream that is detected, an accepted ingress forwards exactly
the named TLS connections when the names are written exactly, and only then. -/
theorem exactPassthrough_iff {config : IngressConfig} {u : Unit}
    (hvalid : validateIngressConfig config = .ok u) {sockets : PublicSide} {socket : ℕ}
    {report : Report UInt8 (Except String Detection)}
    (hreport : sockets.detection socket = some report) {detection : Detection}
    (hverdict : report.verdict = .ok detection) :
    ExactPassthrough config sockets socket detection ↔ WrittenExactly config detection := by
  have hdirect : directRoute config sockets socket =
      selectSniPassthrough config.sniPassthroughRoutes detection.1 := by
    rw [directRoute, hreport]
    dsimp only
    rw [hverdict]
  have hunique : ∀ route ∈ config.sniPassthroughRoutes, ∀ other ∈ config.sniPassthroughRoutes,
      NamedBy route detection → NamedBy other detection → route = other := by
    rintro route hroute other hother ⟨-, name, hname, hkey⟩ ⟨-, same, hsame, hkey'⟩
    rw [hname] at hsame
    cases hsame
    exact eq_of_routeKey_eq hvalid hroute hother (hkey.trans hkey'.symm)
  obtain ⟨hostname, tls⟩ := detection
  dsimp only at hdirect
  constructor
  · intro h name hname route hroute
    dsimp only at hname ⊢
    subst hname
    cases tls with
    | false =>
      rw [if_neg Bool.false_ne_true, ←Bool.not_eq_true, ←selectSniPassthrough_iff hvalid hroute,
        ←hdirect, h.plaintext rfl]
      exact fun htaken => nomatch htaken
    | true =>
      have hexact := h.exact route hroute
      rw [hdirect, selectSniPassthrough_iff hvalid hroute, namedBy_some] at hexact
      rw [if_pos rfl]
      exact written_iff_named.mp hexact
  · intro h
    have hroutes : ∀ route ∈ config.sniPassthroughRoutes,
        directRoute config sockets socket = some route ↔ NamedBy route (hostname, tls) := by
      intro route hroute
      rw [hdirect]
      cases hostname with
      | none => exact ⟨fun htaken => (nomatch htaken), fun ⟨_, _, hname, _⟩ => nomatch hname⟩
      | some name =>
        have hexact := h name rfl route hroute
        rw [selectSniPassthrough_iff hvalid hroute]
        cases tls with
        | false =>
          rw [if_neg Bool.false_ne_true] at hexact
          rw [hexact]
          exact ⟨fun hmatches => (nomatch hmatches), fun hnamed => nomatch hnamed.1⟩
        | true =>
          rw [if_pos rfl] at hexact
          rw [namedBy_some]
          exact written_iff_named.mpr hexact
    refine ⟨hroutes, hunique, fun hplain => ?_⟩
    dsimp only at hplain
    subst hplain
    by_contra htaken
    obtain ⟨route, hroute⟩ := Option.ne_none_iff_exists'.mp htaken
    obtain ⟨hmem, -⟩ := selectSniPassthrough_eq_some (hdirect.symm.trans hroute)
    exact Bool.false_ne_true ((hroutes route hmem).mp hroute).1

/-- An ingress with one direct route. -/
def natsIngress (hostname : String) : IngressConfig where
  requestSubject := defaultRequestSubject
  domainSubjectRouting := false
  pendingTimeoutMs := 10000
  maxIngressConnections := 0
  maxCallbackHandshakes := 0
  sniPassthroughRoutes := [⟨hostname, "127.0.0.1:4222"⟩]

/-- A public socket that receives a plaintext request at once. -/
def plaintextSocket : PublicSide where
  extractSni _ := .error "no ClientHello"
  stream _ := Stream'.Seq.ofList (ascii "GET / HTTP/1.1\r\nHost: nats.example.com\r\n\r\n")
  delivered _ _ := 512

/-- A public socket that receives a TLS record with a server name. -/
def tlsSocket : PublicSide where
  extractSni _ := .ok (some "NATS.example.com")
  stream _ := Stream'.Seq.ofList [0x16, 3, 1, 0, 0]
  delivered _ _ := 512

/-- The TLS connection is forwarded to the route that it names. -/
theorem exactPassthrough_nats :
    ExactPassthrough (natsIngress "nats.example.com") tlsSocket 0
      (some "NATS.example.com", true) := by
  have hvalid : validateIngressConfig (natsIngress "nats.example.com") = .ok () := rfl
  have hwritten : WrittenExactly (natsIngress "nats.example.com")
      (some "NATS.example.com", true) := by
    intro name _ route hroute
    rw [List.mem_singleton.mp hroute]
    exact fun _ => rfl
  have hdetected : (tlsSocket.detection 0).map (fun report => report.verdict.toOption) =
      some (some (some "NATS.example.com", true)) := by decide +kernel
  obtain ⟨report, hreport, hanswer⟩ := Option.map_eq_some_iff.mp hdetected
  have hverdict : report.verdict = .ok (some "NATS.example.com", true) := by
    generalize report.verdict = verdict at hanswer
    cases verdict with
    | error error => cases hanswer
    | ok detection => exact congrArg Except.ok (Option.some.inj hanswer)
  exact (exactPassthrough_iff hvalid hreport hverdict).mpr hwritten

/-- A plaintext request whose host is the hostname of an accepted route is
forwarded to it, and a TLS connection is not forwarded to the accepted route
that it names when that is written with a space. -/
theorem plaintext_reaches_passthrough :
    (validateIngressConfig (natsIngress "nats.example.com") = .ok () ∧
      (plaintextSocket.detection 0).map (fun report => report.verdict.toOption) =
        some (some (some "nats.example.com", false)) ∧
      directRoute (natsIngress "nats.example.com") plaintextSocket 0 =
        some ⟨"nats.example.com", "127.0.0.1:4222"⟩ ∧
      ¬ ExactPassthrough (natsIngress "nats.example.com") plaintextSocket 0
        (some "nats.example.com", false)) ∧
    validateIngressConfig (natsIngress "nats.example.com ") = .ok () ∧
    (tlsSocket.detection 0).map (fun report => report.verdict.toOption) =
      some (some (some "NATS.example.com", true)) ∧
    directRoute (natsIngress "nats.example.com ") tlsSocket 0 = none ∧
    ¬ ExactPassthrough (natsIngress "nats.example.com ") tlsSocket 0
      (some "NATS.example.com", true) := by
  have htaken : directRoute (natsIngress "nats.example.com") plaintextSocket 0 =
      some ⟨"nats.example.com", "127.0.0.1:4222"⟩ := by decide +kernel
  have hmissed : directRoute (natsIngress "nats.example.com ") tlsSocket 0 = none := by
    decide +kernel
  refine ⟨⟨rfl, by decide +kernel, htaken, fun hexact => ?_⟩, rfl, by decide +kernel, hmissed,
    fun hexact => ?_⟩
  · have hnone := hexact.plaintext rfl
    rw [htaken] at hnone
    cases hnone
  · have hnamed : NamedBy ⟨"nats.example.com ", "127.0.0.1:4222"⟩
        (some "NATS.example.com", true) := ⟨rfl, "NATS.example.com", rfl, by decide +kernel⟩
    have htaken := (hexact.exact _ (List.mem_singleton.mpr rfl)).mpr hnamed
    rw [hmissed] at htaken
    cases htaken

end LfpPipe.SniRoutes
