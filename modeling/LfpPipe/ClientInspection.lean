import LfpPipe.ClientBridge

/-!
# Which terminated HTTP connections are inspected request by request

A policy protects a backend only if its HTTP connections reach the request
proxy. The bridge decides that once, from the fragment that happens to be
there within two seconds. This module states what a valid HTTP/1.1 request
is, byte by byte, and determines exactly for which requests and outcomes of
the wait the connection is served by the proxy.
-/

namespace LfpPipe.ClientInspection

open RustText SharedConfig SharedHttp ConfigExpansion ClientAuthorizer ClientSession ClientBridge

variable {Key : Type}

/-- A byte of a token: letters, digits and some punctuation. -/
def isTchar (b : UInt8) : Bool :=
  (Char.ofNat b.toNat).isAlphanum || (ascii "!#$%&'*+-.^_`|~").contains b

/-- A visible ASCII byte. -/
def isVchar (b : UInt8) : Bool := 33 ≤ b.toNat && b.toNat ≤ 126

/-- A byte of a field value. -/
def isFieldByte (b : UInt8) : Bool := (32 ≤ b.toNat && b.toNat ≠ 127) || b.toNat == 9

/-- The end of a line. -/
def lineEnd : List UInt8 := [13, 10]

/-- A syntactically valid HTTP/1.1 request. -/
structure HttpRequest where
  /-- Method token. -/
  method : List UInt8
  /-- Request target. -/
  target : List UInt8
  /-- Header names in order, each with what follows its colon: the value and the
  white space around it. -/
  headers : List (List UInt8 × List UInt8)
  /-- Everything after the header block. -/
  body : List UInt8
  /-- The method is a token. -/
  methodToken : method ≠ [] ∧ method.all isTchar = true
  /-- The target is visible. -/
  targetVisible : target ≠ [] ∧ target.all isVchar = true
  /-- Header names are tokens and values have no line ends. -/
  headersValid : ∀ header ∈ headers,
    header.1 ≠ [] ∧ header.1.all isTchar = true ∧ header.2.all isFieldByte = true

/-- What follows the request target. -/
def HttpRequest.rest (request : HttpRequest) : List UInt8 :=
  ascii "HTTP/1.1" ++ lineEnd ++
    request.headers.flatMap (fun header => header.1 ++ ascii ":" ++ header.2 ++ lineEnd) ++
    lineEnd ++ request.body

/-- The bytes on the wire. -/
def HttpRequest.encode (request : HttpRequest) : List UInt8 :=
  request.method ++ 32 :: (request.target ++ 32 :: request.rest)

/-- Outcomes of the wait for a stream: a first fragment, or nothing in time. -/
inductive Inspects (stream : List UInt8) : Inspection → Prop where
  /-- Some first bytes are there. -/
  | fragment {bytes : List UInt8} (hne : bytes ≠ []) (h : bytes <+: stream) :
    Inspects stream (.available bytes)
  /-- The wait ends before the first byte. -/
  | timeout : Inspects stream .timedOut

/-- The methods of the table. -/
def knownMethods : List (List UInt8) :=
  [ascii "GET", ascii "POST", ascii "HEAD", ascii "PUT", ascii "PATCH", ascii "DELETE",
    ascii "OPTIONS", ascii "TRACE", ascii "CONNECT"]

/-- The wait found a fragment in time, and the method is in the table or the
fragment is too short to tell it from one that is. -/
def Recognized (request : HttpRequest) (inspection : Inspection) : Prop :=
  ∃ bytes, inspection = .available bytes ∧
    (request.method ∈ knownMethods ∨ ∃ entry ∈ METHODS, bytes <+: entry)

/-- The table is the known methods and the HTTP/2 preface. -/
theorem methods_eq : METHODS = knownMethods.map (· ++ [32]) ++ [ascii "PRI * HTTP/2.0"] := by
  decide

/-- No known method has a space. -/
theorem space_not_mem_knownMethods {method : List UInt8} (h : method ∈ knownMethods) :
    (32 : UInt8) ∉ method := by
  have hall : ∀ method ∈ knownMethods, (32 : UInt8) ∉ method := by decide
  exact hall method h

/-- A space is neither a token byte nor visible. -/
theorem space_not_mem {bytes : List UInt8} {allowed : UInt8 → Bool} (hs : allowed 32 = false)
    (h : bytes.all allowed = true) : (32 : UInt8) ∉ bytes := by
  intro hm
  have hallowed := List.all_eq_true.mp h 32 hm
  rw [hs] at hallowed
  cases hallowed

/-- Texts before the first space agree when one continues the other. -/
theorem eq_of_space {left right : List UInt8} (hl : (32 : UInt8) ∉ left)
    (hr : (32 : UInt8) ∉ right) {x y : List UInt8}
    (h : left ++ 32 :: x <+: right ++ 32 :: y) : left = right ∧ x <+: y := by
  induction left generalizing right with
  | nil =>
    cases right with
    | nil => exact ⟨rfl, (List.cons_prefix_cons.mp h).2⟩
    | cons b right =>
      have hb := (List.cons_prefix_cons.mp h).1
      exact absurd (hb ▸ List.mem_cons_self) hr
  | cons a left ih =>
    cases right with
    | nil =>
      have ha := (List.cons_prefix_cons.mp h).1
      exact absurd (ha ▸ List.mem_cons_self) hl
    | cons b right =>
      obtain ⟨hab, hrest⟩ := List.cons_prefix_cons.mp h
      obtain ⟨heq, hxy⟩ := ih (fun hm => hl (List.mem_cons_of_mem _ hm))
        (fun hm => hr (List.mem_cons_of_mem _ hm)) hrest
      exact ⟨by rw [hab, heq], hxy⟩

/-- A request continues a table entry only through its method. -/
theorem method_known_of_entry {request : HttpRequest} {entry : List UInt8}
    (hm : entry ∈ METHODS) (h : entry <+: request.encode) : request.method ∈ knownMethods := by
  have hmethod : (32 : UInt8) ∉ request.method := space_not_mem (by decide) request.methodToken.2
  have htarget : (32 : UInt8) ∉ request.target := space_not_mem (by decide) request.targetVisible.2
  rw [methods_eq, List.mem_append, List.mem_map, List.mem_singleton] at hm
  rcases hm with ⟨known, hk, rfl⟩ | rfl
  · obtain ⟨heq, -⟩ := eq_of_space (space_not_mem_knownMethods hk) hmethod h
    exact heq ▸ hk
  · have hpreface : ascii "PRI * HTTP/2.0" =
        ascii "PRI" ++ 32 :: (ascii "*" ++ 32 :: ascii "HTTP/2.0") := by
      decide
    rw [hpreface] at h
    obtain ⟨-, htail⟩ := eq_of_space (by decide) hmethod h
    obtain ⟨-, hversion⟩ := eq_of_space (by decide) htarget htail
    have hrest : ascii "HTTP/1.1" <+: request.rest := by
      unfold HttpRequest.rest
      simp only [List.append_assoc]
      exact List.prefix_append _ _
    have hsame := List.prefix_of_prefix_length_le hversion hrest (by decide)
    exact absurd hsame (by decide)

/-- The table accepts a first fragment exactly when it is too short to tell
or the method is known. -/
theorem looksLikeHttpPrefix_fragment {request : HttpRequest} {bytes : List UInt8}
    (h : bytes <+: request.encode) :
    looksLikeHttpPrefix bytes = true ↔
      request.method ∈ knownMethods ∨ ∃ entry ∈ METHODS, bytes <+: entry := by
  rw [looksLikeHttpPrefix_iff]
  constructor
  · rintro ⟨entry, hm, hp | hp⟩
    · exact .inr ⟨entry, hm, hp⟩
    · exact .inl (method_known_of_entry hm (hp.trans h))
  · rintro (hknown | ⟨entry, hm, hp⟩)
    · have hentry : request.method ++ [32] ∈ METHODS := by
        rw [methods_eq]
        exact List.mem_append_left _ (List.mem_map_of_mem hknown)
      have hstart : request.method ++ [32] <+: request.encode := by
        refine ⟨request.target ++ 32 :: request.rest, ?_⟩
        rw [HttpRequest.encode, List.append_assoc]
        rfl
      exact ⟨_, hentry, List.prefix_or_prefix_of_prefix h hstart⟩
    · exact ⟨entry, hm, .inl hp⟩

/-- With a protected fallback the bridge looks at every connection. -/
theorem inspectsRequests_of_policy {backends : List (BackendRuntime Key)}
    {hostname : Option String} {fallback : BackendRuntime Key}
    (hf : fallbackBackend backends hostname = some fallback)
    (hpolicy : fallback.authorization.isSome = true) : inspectsRequests backends = true := by
  have hm := List.mem_of_find?_eq_some hf
  refine List.any_eq_true.mpr ⟨fallback, hm, ?_⟩
  rw [hpolicy, Bool.or_true]

/-- A terminated connection of a protected route is served exactly when its
first fragment is there in time and looks like HTTP. -/
theorem bridgeTls_serve_iff {backends : List (BackendRuntime Key)} {hostname : String}
    {fallback : BackendRuntime Key} (hf : fallbackBackend backends (some hostname) = some fallback)
    (hpolicy : fallback.authorization.isSome = true) {inspection : Inspection}
    {tcpPassthrough : Bool} :
    bridgeTls inspection hostname backends tcpPassthrough = .serve hostname "https" ↔
      ∃ bytes, inspection = .available bytes ∧ bytes ≠ [] ∧ looksLikeHttpPrefix bytes = true := by
  have hinspect : (!tcpPassthrough || inspectsRequests backends) = true := by
    rw [inspectsRequests_of_policy hf hpolicy, Bool.or_true]
  rw [bridgeTls, hf, hinspect]
  cases inspection with
  | failed error => simp [terminatedHttp]
  | timedOut => cases tcpPassthrough <;> simp [terminatedHttp, protocolAllowed]
  | available bytes =>
    cases hl : looksLikeHttpPrefix bytes with
    | false => cases tcpPassthrough <;> simp [terminatedHttp, protocolAllowed, hl]
    | true =>
      by_cases hne : bytes = []
      · cases tcpPassthrough <;> simp [terminatedHttp, protocolAllowed, hne]
      · have hsome : bytes.isEmpty = false := by simpa using hne
        simp [terminatedHttp, protocolAllowed, hl, hsome, hne]

/-- On a route whose fallback has a policy, a terminated HTTP/1.1 request is
handed to the request proxy if and only if a first fragment arrives in time
and the method is in the table or the fragment does not yet show otherwise. -/
theorem terminated_request_served_iff {ext : Externals Key} {env : LoadEnv Key}
    {config : ClientConfig} {state : AppState Key}
    (hstart : processMessages ext env config = .ok state) {runtime : AcmeRuntime Key}
    (hacme : state.acme = some runtime) {fallback : BackendRuntime Key}
    (hf : fallbackBackend state.backends (some runtime.config.domain) = some fallback)
    (hpolicy : fallback.authorization.isSome = true) (request : HttpRequest)
    {inspection : Inspection} (hi : Inspects request.encode inspection) :
    bridgeTls inspection runtime.config.domain runtime.backends runtime.tcpPassthrough =
        .serve runtime.config.domain "https" ↔
      Recognized request inspection := by
  obtain ⟨-, hruntime, -⟩ := processMessages_backends hstart
  rw [hacme] at hruntime
  rw [(startAcme_runtime hruntime).2.1, bridgeTls_serve_iff hf hpolicy]
  unfold Recognized
  cases hi with
  | timeout => simp
  | fragment hne hstarts =>
    rename_i bytes
    simp only [Inspection.available.injEq, exists_eq_left', ne_eq, hne, not_false_eq_true, true_and,
      looksLikeHttpPrefix_fragment hstarts]

/-- A plain request of a known method. -/
def getRequest : HttpRequest where
  method := ascii "GET"
  target := ascii "/"
  headers := [(ascii "Host", ascii " docs.example")]
  body := []
  methodToken := by decide
  targetVisible := by decide
  headersValid := by decide

/-- The equivalence decides about a known method that arrives at once. -/
theorem terminated_request_served_iff_get :
    bridgeTls (.available getRequest.encode) "docs.example" readerBackends true =
        .serve "docs.example" "https" ↔
      Recognized getRequest (.available getRequest.encode) :=
  @terminated_request_served_iff Unit sampleExternals sampleEnv (readerConfig true)
    (readerState true)
    (readerConfig_starts true) (readerRuntime true) rfl _ rfl rfl getRequest _
    (.fragment (by decide) (List.prefix_refl _))

/-- The same request with an extension method. -/
def propfindRequest : HttpRequest where
  method := ascii "PROPFIND"
  target := ascii "/"
  headers := [(ascii "Host", ascii " docs.example")]
  body := []
  methodToken := by decide
  targetVisible := by decide
  headersValid := by decide

/-- On an accepted and started route with a protected fallback and default
passthrough, the complete extension request is copied raw to the backend. -/
theorem propfind_relayed_around_policy :
    parseClientConfigs (.legacy (readerConfig true)) = .ok [readerConfig true] ∧
    processMessages sampleExternals sampleEnv (readerConfig true) = .ok (readerState true) ∧
    readerRule.authorization.isSome = true ∧
    Inspects propfindRequest.encode (.available propfindRequest.encode) ∧
    bridgeTls (.available propfindRequest.encode) "docs.example" readerBackends true =
      .relay "127.0.0.1:8080" :=
  ⟨readerConfig_accepted true, readerConfig_starts true, rfl,
    .fragment (by decide) (List.prefix_refl _), by decide +kernel⟩

end LfpPipe.ClientInspection
