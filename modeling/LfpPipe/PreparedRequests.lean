import LfpPipe.ClientProxy
import LfpPipe.CoupledRuns

/-!
# What a backend is told about the caller

A request is prepared by dropping headers that only the proxy may set, and by
setting them from the verified identity and the connection. Two requests that
differ only in dropped headers stay together through every step, so they reach
the backend as the same request. Afterwards each identity header has at most one
value, and that one was made from the verified identity.
-/

namespace LfpPipe.PreparedRequests

open RustText Fallible CoupledRuns SharedConfig ClientIdentity HttpMessages ClientProxy

/-- Headers that agree on every name but the given ones. -/
def AgreeOutside (names : List String) (first second : HeaderMap) : Prop :=
  ∀ name, name ∉ names → first.getAll name = second.getAll name

/-- Headers that agree on every name are the same. -/
theorem eq_of_agreeOutside_nil {first second : HeaderMap} (h : AgreeOutside [] first second) :
    first = second := by
  have hvalues : first.getAll = second.getAll := by
    funext name
    exact h name List.not_mem_nil
  calc first = ⟨first.getAll⟩ := rfl
    _ = ⟨second.getAll⟩ := by rw [hvalues]
    _ = second := rfl

/-- Replacing a header in both keeps the agreement. -/
theorem AgreeOutside.insert {names : List String} {first second : HeaderMap}
    (h : AgreeOutside names first second) (name : String) (value : HeaderValue) :
    AgreeOutside names (first.insert name value) (second.insert name value) := by
  intro other hother
  rw [HeaderMap.insert, HeaderMap.insert]
  dsimp only
  rw [h other hother]

/-- The values that are left once headers are dropped. -/
theorem getAll_removeAll (headers : HeaderMap) (names : List String) (name : String) :
    (removeAll headers names).getAll name =
      if name ∈ names then [] else headers.getAll name := by
  induction names generalizing headers with
  | nil =>
    rw [if_neg List.not_mem_nil]
    rfl
  | cons dropped rest ih =>
    have hstep : removeAll headers (dropped :: rest) =
        removeAll (headers.remove dropped) rest := rfl
    rw [hstep, ih, HeaderMap.remove]
    dsimp only
    by_cases hrest : name ∈ rest
    · rw [if_pos hrest, if_pos (List.mem_cons_of_mem dropped hrest)]
    · rw [if_neg hrest]
      by_cases hdropped : name = dropped
      · rw [if_pos hdropped, hdropped, if_pos List.mem_cons_self]
      · rw [if_neg hdropped, if_neg (List.not_mem_cons_of_ne_of_not_mem hdropped hrest)]

/-- Dropped headers need not agree. -/
theorem AgreeOutside.removeAll {names more : List String} {first second : HeaderMap}
    (h : AgreeOutside (names ++ more) first second) :
    AgreeOutside more (removeAll first names) (removeAll second names) := by
  intro name hname
  rw [getAll_removeAll, getAll_removeAll]
  by_cases hdropped : name ∈ names
  · rw [if_pos hdropped, if_pos hdropped]
  · rw [if_neg hdropped, if_neg hdropped]
    apply h
    rw [List.mem_append, not_or]
    exact ⟨hdropped, hname⟩

section

variable {names : List String} {first second : HeaderMap}

/-- Setting the same texts keeps the agreement, or fails for both. -/
theorem setHeaders_coupled (h : AgreeOutside names first second)
    (fields : List (String × String)) :
    Coupled (AgreeOutside names) (setHeaders first fields) (setHeaders second fields) := by
  induction fields generalizing first second with
  | nil => exact h
  | cons field rest ih =>
    obtain ⟨name, text⟩ := field
    have hset : Coupled (AgreeOutside names) (setHeader first name text)
        (setHeader second name text) := by
      rw [setHeader, setHeader]
      apply coupled_bind_same
      intro value
      exact h.insert name value
    rw [setHeaders, setHeaders]
    exact hset.bind fun left right hagree => ih hagree

/-- The forwarding headers of a request do not matter to trusted ones. -/
theorem setForwardingHeaders_coupled (h : AgreeOutside FORWARDING_HEADERS first second)
    (clientIp : Option String) (scheme : String) (originalHost : HeaderValue) :
    Coupled (AgreeOutside []) (setForwardingHeaders first clientIp scheme originalHost)
      (setForwardingHeaders second clientIp scheme originalHost) := by
  have hdropped : AgreeOutside [] (removeAll first FORWARDING_HEADERS)
      (removeAll second FORWARDING_HEADERS) := by
    apply AgreeOutside.removeAll
    rw [List.append_nil]
    exact h
  rw [setForwardingHeaders, setForwardingHeaders]
  refine (setHeaders_coupled hdropped _).bind fun left right hagree => ?_
  rw [eq_of_agreeOutside_nil hagree]
  apply coupled_bind_same
  intro proto
  exact fun name _ => rfl

/-- The headers that a rule does not take from the request. -/
def untrustedHeaders (rule : BackendRule) : List String :=
  IDENTITY_HEADERS ++ if rule.proxyHeaders then FORWARDING_HEADERS else []

/-- Headers that agree on what a rule takes from the request end up the same. -/
theorem proxyHeaders_coupled {rule : BackendRule}
    (h : AgreeOutside (if rule.proxyHeaders then FORWARDING_HEADERS else []) first second)
    (clientIp : Option String) (scheme : String) (originalHost : HeaderValue) :
    Coupled (AgreeOutside []) (proxyHeaders rule first clientIp scheme originalHost)
      (proxyHeaders rule second clientIp scheme originalHost) := by
  rw [proxyHeaders, proxyHeaders]
  cases hrule : rule.proxyHeaders with
  | true =>
    rw [hrule, if_pos rfl] at h
    rw [if_pos rfl, if_pos rfl]
    exact setForwardingHeaders_coupled h clientIp scheme originalHost
  | false =>
    rw [hrule, if_neg Bool.false_ne_true] at h
    rw [if_neg Bool.false_ne_true, if_neg Bool.false_ne_true]
    exact h

end

/-- Requests that differ only in the named headers. -/
structure DifferOnlyIn (names : List String) (first second : Request) : Prop where
  /-- The methods agree. -/
  method : first.method = second.method
  /-- The targets agree. -/
  uri : first.uri = second.uri
  /-- All other headers agree. -/
  headers : AgreeOutside names first.headers second.headers

/-- The host is always taken from the request. -/
theorem host_not_mem_untrustedHeaders (rule : BackendRule) : "host" ∉ untrustedHeaders rule := by
  rw [untrustedHeaders]
  cases rule.proxyHeaders with
  | true => decide
  | false => decide

/-- Requests that differ only in untrusted headers are prepared alike. -/
theorem prepareRequest_congr {rule : BackendRule} {first second : Request}
    (h : DifferOnlyIn (untrustedHeaders rule) first second) (clientIp : Option String)
    (scheme : String) (identity : Option AuthenticatedIdentity) :
    prepareRequest first rule clientIp scheme identity =
      prepareRequest second rule clientIp scheme identity := by
  have hhost : first.headers.get "host" = second.headers.get "host" := by
    rw [HeaderMap.get, HeaderMap.get, h.headers "host" (host_not_mem_untrustedHeaders rule)]
  rw [prepareRequest, prepareRequest, hhost, h.method, h.uri]
  apply Coupled.eq
  apply coupled_bind_same
  intro originalHost
  refine (setHeaders_coupled h.headers.removeAll _).bind fun left right hagree => ?_
  apply coupled_bind_same
  intro uri
  refine (proxyHeaders_coupled hagree clientIp scheme originalHost).bind
    fun left right hproxied => ?_
  rw [eq_of_agreeOutside_nil hproxied]
  apply coupled_bind_same
  intro headers
  exact rfl

/-- A text that can be a header value replaces the header. -/
theorem setHeader_eq_ok {headers set : HeaderMap} {name text : String} :
    setHeader headers name text = .ok set ↔
      ∃ value, fromStr text = some value ∧ set = headers.insert name value := by
  rw [setHeader, bind_eq_ok]
  constructor
  · intro h
    obtain ⟨value, hvalue, hset⟩ := h
    cases hset
    exact ⟨value, orMissing_eq_ok.mp hvalue, rfl⟩
  · intro h
    obtain ⟨value, hvalue, hset⟩ := h
    exact ⟨value, orMissing_eq_ok.mpr hvalue, congrArg Except.ok hset.symm⟩

section

variable {headers set : HeaderMap} {fields : List (String × String)}

/-- Other headers are left alone. -/
theorem setHeaders_other (h : setHeaders headers fields = .ok set) {name : String}
    (hname : name ∉ fields.map Prod.fst) : set.getAll name = headers.getAll name := by
  induction fields generalizing headers with
  | nil =>
    cases h
    rfl
  | cons field rest ih =>
    obtain ⟨first, text⟩ := field
    rw [setHeaders, bind_eq_ok] at h
    obtain ⟨next, hnext, hrest⟩ := h
    obtain ⟨value, -, hinsert⟩ := setHeader_eq_ok.mp hnext
    rw [List.map_cons, List.mem_cons, not_or] at hname
    rw [ih hrest hname.2, hinsert, HeaderMap.insert]
    exact if_neg hname.1

/-- A header that is set has one value, which was made from its text. -/
theorem setHeaders_named (h : setHeaders headers fields = .ok set) {name : String}
    (hname : name ∈ fields.map Prod.fst) :
    ∃ text value, (name, text) ∈ fields ∧ fromStr text = some value ∧
      set.getAll name = [value] := by
  induction fields generalizing headers with
  | nil => cases hname
  | cons field rest ih =>
    obtain ⟨first, text⟩ := field
    rw [setHeaders, bind_eq_ok] at h
    obtain ⟨next, hnext, hrest⟩ := h
    by_cases hlater : name ∈ rest.map Prod.fst
    · obtain ⟨later, value, hm, hvalue, hset⟩ := ih hrest hlater
      exact ⟨later, value, List.mem_cons_of_mem (first, text) hm, hvalue, hset⟩
    · obtain ⟨value, hvalue, hinsert⟩ := setHeader_eq_ok.mp hnext
      rw [List.map_cons] at hname
      rcases List.mem_cons.mp hname with hfirst | hrestName
      · refine ⟨text, value, ?_, hvalue, ?_⟩
        · rw [hfirst]
          exact List.mem_cons_self
        · rw [setHeaders_other hrest hlater, hinsert, HeaderMap.insert]
          exact if_pos hfirst
      · exact absurd hrestName hlater

/-- Headers can be set exactly when all their texts may stand in values. -/
theorem succeeds_setHeaders : Succeeds (setHeaders headers fields) ↔
    ∀ field ∈ fields, ∀ c ∈ field.2.toList, HeaderChar c := by
  induction fields generalizing headers with
  | nil => exact iff_of_true (succeeds_ok headers) fun field hm => absurd hm List.not_mem_nil
  | cons field rest ih =>
    obtain ⟨name, text⟩ := field
    rw [setHeaders, succeeds_bind, List.forall_mem_cons]
    constructor
    · intro h
      obtain ⟨next, hnext, hrest⟩ := h
      obtain ⟨value, hvalue, -⟩ := setHeader_eq_ok.mp hnext
      exact ⟨(fromStr_eq_some_iff.mp hvalue).1, ih.mp hrest⟩
    · intro h
      have hvalue : fromStr text = some (utf8 text) := fromStr_eq_some_iff.mpr ⟨h.1, rfl⟩
      exact ⟨_, setHeader_eq_ok.mpr ⟨_, hvalue, rfl⟩, ih.mpr h.2⟩

end

/-- Forwarding headers leave other headers alone. -/
theorem proxyHeaders_other {rule : BackendRule} {headers proxied : HeaderMap}
    {clientIp : Option String} {scheme : String} {originalHost : HeaderValue}
    (h : proxyHeaders rule headers clientIp scheme originalHost = .ok proxied) {name : String}
    (hname : name ∉ FORWARDING_HEADERS) (hencoding : name ≠ "accept-encoding") :
    proxied.getAll name = headers.getAll name := by
  rw [proxyHeaders] at h
  cases hrule : rule.proxyHeaders with
  | false =>
    rw [hrule, if_neg Bool.false_ne_true] at h
    cases h
    rfl
  | true =>
    rw [hrule, if_pos rfl, setForwardingHeaders, bind_eq_ok] at h
    obtain ⟨addressed, haddressed, h⟩ := h
    obtain ⟨proto, -, h⟩ := bind_eq_ok.mp h
    have hfor : name ≠ "x-forwarded-for" := fun heq => hname (heq ▸ by decide)
    have hproto : name ≠ "x-forwarded-proto" := fun heq => hname (heq ▸ by decide)
    have hhost : name ≠ "x-forwarded-host" := fun heq => hname (heq ▸ by decide)
    have hset : addressed.getAll name = headers.getAll name := by
      rw [setHeaders_other haddressed, getAll_removeAll, if_neg hname]
      rw [List.map_map, List.mem_map]
      intro hm
      obtain ⟨value, -, heq⟩ := hm
      exact hfor heq.symm
    have hnamed : ((addressed.insert "x-forwarded-proto" proto).insert "x-forwarded-host"
        originalHost).getAll name = headers.getAll name := by
      rw [HeaderMap.insert, HeaderMap.insert]
      dsimp only
      rw [if_neg hhost, if_neg hproto, hset]
    dsimp only at h
    split at h
    · cases h
      exact hnamed
    · cases h
      rw [HeaderMap.insert]
      dsimp only
      rw [if_neg hencoding, hnamed]

/-- The backend host leaves other headers alone. -/
theorem backendHostHeader_other {rule : BackendRule} {headers hosted : HeaderMap}
    (h : backendHostHeader rule headers = .ok hosted) {name : String} (hname : name ≠ "host") :
    hosted.getAll name = headers.getAll name := by
  rw [backendHostHeader] at h
  cases hrule : rule.backendHost with
  | none =>
    rw [hrule] at h
    cases h
    rfl
  | some host =>
    rw [hrule] at h
    obtain ⟨value, -, h⟩ := bind_eq_ok.mp h
    cases h
    exact if_neg hname

/-- After the identity is set, only headers of the connection change. -/
theorem prepareRequest_other {request prepared : Request} {rule : BackendRule}
    {clientIp : Option String} {scheme : String} {identity : Option AuthenticatedIdentity}
    (h : prepareRequest request rule clientIp scheme identity = .ok prepared) :
    ∃ identified, setHeaders (removeAll request.headers IDENTITY_HEADERS)
        ((identity.map identityHeaders).getD []) = .ok identified ∧
      ∀ name, name ∉ FORWARDING_HEADERS → name ≠ "accept-encoding" → name ≠ "host" →
        prepared.headers.getAll name = identified.getAll name := by
  rw [prepareRequest, bind_eq_ok] at h
  obtain ⟨originalHost, -, h⟩ := h
  obtain ⟨identified, hidentified, h⟩ := bind_eq_ok.mp h
  obtain ⟨uri, -, h⟩ := bind_eq_ok.mp h
  obtain ⟨proxied, hproxied, h⟩ := bind_eq_ok.mp h
  obtain ⟨headers, hheaders, h⟩ := bind_eq_ok.mp h
  cases h
  refine ⟨identified, hidentified, ?_⟩
  intro name hforwarding hencoding hhost
  rw [backendHostHeader_other hheaders hhost, proxyHeaders_other hproxied hforwarding hencoding]

/-- Identity headers are not among the headers of the connection. -/
theorem identityHeader_other {name : String} (h : name ∈ IDENTITY_HEADERS) :
    name ∉ FORWARDING_HEADERS ∧ name ≠ "accept-encoding" ∧ name ≠ "host" := by
  revert name
  decide

/-- An identity sets identity headers only. -/
theorem identityHeaders_listed {identity : AuthenticatedIdentity} {field : String × String}
    (h : field ∈ identityHeaders identity) : field.1 ∈ IDENTITY_HEADERS := by
  have hnames : ∀ name ∈ ["x-forwarded-user", "x-auth-request-user",
      "x-auth-request-preferred-username", "x-authentik-uid", "x-authentik-username",
      "x-authentik-name"], name ∈ IDENTITY_HEADERS := by
    decide
  have hmails : ∀ name ∈ ["x-forwarded-email", "x-auth-request-email", "x-authentik-email"],
      name ∈ IDENTITY_HEADERS := by
    decide
  have hlists : ∀ name ∈ ["x-forwarded-groups", "x-auth-request-groups", "x-authentik-groups"],
      name ∈ IDENTITY_HEADERS := by
    decide
  rw [identityHeaders, List.mem_append, List.mem_append] at h
  rcases h with (hname | hmail) | hgroup
  · exact hnames field.1 (List.mem_map_of_mem (f := Prod.fst) hname)
  · cases hemail : identity.email with
    | none =>
      rw [hemail] at hmail
      cases hmail
    | some email =>
      rw [hemail] at hmail
      exact hmails field.1 (List.mem_map_of_mem (f := Prod.fst) hmail)
  · cases hempty : identity.groups.isEmpty with
    | true =>
      rw [hempty, if_pos rfl] at hgroup
      cases hgroup
    | false =>
      rw [hempty, if_neg Bool.false_ne_true] at hgroup
      exact hlists field.1 (List.mem_map_of_mem (f := Prod.fst) hgroup)

/-- Identity headers that say only what was verified. -/
structure OnlyVerified (identity : Option AuthenticatedIdentity) (headers : HeaderMap) : Prop where
  /-- There is at most one value. -/
  single : ∀ name ∈ IDENTITY_HEADERS, (headers.getAll name).length ≤ 1
  /-- It was made from the identity. -/
  verified : ∀ name ∈ IDENTITY_HEADERS, ∀ value ∈ headers.getAll name, ∃ user text,
    identity = some user ∧ (name, text) ∈ identityHeaders user ∧ fromStr text = some value
  /-- Without an identity there is none. -/
  absent : identity = none → ∀ name ∈ IDENTITY_HEADERS, headers.getAll name = []

/-- Identity headers of a prepared request say only what was verified. -/
theorem onlyVerified_of_prepareRequest {request prepared : Request} {rule : BackendRule}
    {clientIp : Option String} {scheme : String} {identity : Option AuthenticatedIdentity}
    (h : prepareRequest request rule clientIp scheme identity = .ok prepared) :
    OnlyVerified identity prepared.headers := by
  obtain ⟨identified, hidentified, hother⟩ := prepareRequest_other h
  have hvalues : ∀ name ∈ IDENTITY_HEADERS, prepared.headers.getAll name = [] ∨
      ∃ text value, (name, text) ∈ (identity.map identityHeaders).getD [] ∧
        fromStr text = some value ∧ prepared.headers.getAll name = [value] := by
    intro name hname
    obtain ⟨hforwarding, hencoding, hhost⟩ := identityHeader_other hname
    rw [hother name hforwarding hencoding hhost]
    by_cases hset : name ∈ ((identity.map identityHeaders).getD []).map Prod.fst
    · exact .inr (setHeaders_named hidentified hset)
    · refine .inl ?_
      rw [setHeaders_other hidentified hset, getAll_removeAll, if_pos hname]
  refine ⟨?_, ?_, ?_⟩
  · intro name hname
    rcases hvalues name hname with hnone | ⟨text, value, -, -, hone⟩
    · rw [hnone]
      exact Nat.zero_le 1
    · rw [hone]
      exact le_refl 1
  · intro name hname value hm
    rcases hvalues name hname with hnone | ⟨text, only, htext, hvalue, hone⟩
    · rw [hnone] at hm
      cases hm
    · rw [hone, List.mem_singleton] at hm
      cases identity with
      | none => cases htext
      | some user => exact ⟨user, text, rfl, htext, hm ▸ hvalue⟩
  · intro hidentity name hname
    rcases hvalues name hname with hnone | ⟨text, value, htext, -, -⟩
    · exact hnone
    · rw [hidentity] at htext
      cases htext

/-- Requests that differ only in headers the rule does not take from them reach
the backend as the same request, or not at all; and the identity headers of a
prepared request say only what was verified. -/
theorem identity_cannot_be_spoofed :
    (∀ (rule : BackendRule) (clientIp : Option String) (scheme : String)
      (identity : Option AuthenticatedIdentity) (first second : Request),
      DifferOnlyIn (untrustedHeaders rule) first second →
      prepareRequest first rule clientIp scheme identity =
        prepareRequest second rule clientIp scheme identity) ∧
    (∀ (rule : BackendRule) (clientIp : Option String) (scheme : String)
      (identity : Option AuthenticatedIdentity) (request prepared : Request),
      prepareRequest request rule clientIp scheme identity = .ok prepared →
      OnlyVerified identity prepared.headers) := by
  constructor
  · intro rule clientIp scheme identity first second h
    exact prepareRequest_congr h clientIp scheme identity
  · intro rule clientIp scheme identity request prepared h
    exact onlyVerified_of_prepareRequest h

end LfpPipe.PreparedRequests
