import LfpPipe.RustText

/-!
# Minimal HTTP/1 host detection used before transparent forwarding

The method table and the header scan are translated from `shared/src/http.rs`.
A verdict about a beginning is stable: bytes that cannot become a supported
request stay so, and a complete header block fixes the host.
-/

namespace LfpPipe.SharedHttp

open RustText

/-- The supported request beginnings, each with the space after its method,
and the HTTP/2 connection preface. -/
def METHODS : List (List UInt8) :=
  [ascii "GET ", ascii "POST ", ascii "HEAD ", ascii "PUT ", ascii "PATCH ", ascii "DELETE ",
    ascii "OPTIONS ", ascii "TRACE ", ascii "CONNECT ", ascii "PRI * HTTP/2.0"]

/-- The bytes are, or could become, a supported HTTP request beginning. -/
def looksLikeHttpPrefix (payload : List UInt8) : Bool :=
  METHODS.any fun method => payload.isPrefixOf method || method.isPrefixOf payload

/-- The blank line that ends a header block. -/
def headerTerminator : List UInt8 := [13, 10, 13, 10]

/-- Remove a port, or the brackets of an IPv6 literal with everything after. -/
def stripPort (host : String) : String :=
  match host.toList with
  | '[' :: stripped => String.ofList (stripped.takeWhile (· != ']'))
  | chars => String.ofList (chars.takeWhile (· != ':'))

/-- The first header line named host decides; an empty value is no host. -/
def hostHeader : List String → Option String
  | [] => none
  | raw :: rest =>
    let line := trimEndMatches '\r' raw
    match splitOnce ':' line with
    | none => hostHeader rest
    | some (name, value) =>
      if eqIgnoreAsciiCase name "host" then
        let host := trim value
        if host.isEmpty then none else some (stripPort host)
      else hostHeader rest

/-- Extract a host without its port from a complete HTTP header block. -/
def extractHttpHost (payload : List UInt8) : Option String :=
  if !looksLikeHttpPrefix payload then none
  else
    match (position headerTerminator payload).map (· + 4) with
    | none => none
    | some headersEnd =>
      match fromUtf8 (payload.take headersEnd) with
      | none => none
      | some headers => hostHeader ((lines headers).drop 1)

/-- The table accepts exactly the beginnings and the extensions of its entries. -/
theorem looksLikeHttpPrefix_iff {payload : List UInt8} :
    looksLikeHttpPrefix payload = true ↔
      ∃ method ∈ METHODS, payload <+: method ∨ method <+: payload := by
  simp only [looksLikeHttpPrefix, List.any_eq_true, Bool.or_eq_true, List.isPrefixOf_iff_prefix]

/-- Bytes that cannot become a supported request cannot after more bytes. -/
theorem looksLikeHttpPrefix_of_append {payload more : List UInt8}
    (h : looksLikeHttpPrefix (payload ++ more) = true) : looksLikeHttpPrefix payload = true := by
  obtain ⟨method, hm, hp⟩ := looksLikeHttpPrefix_iff.mp h
  have hpay : payload <+: payload ++ more := List.prefix_append payload more
  refine looksLikeHttpPrefix_iff.mpr ⟨method, hm, ?_⟩
  rcases hp with hp | hp
  · exact Or.inl (hpay.trans hp)
  · rcases Nat.le_total payload.length method.length with hle | hle
    · exact Or.inl (List.prefix_of_prefix_length_le hpay hp hle)
    · exact Or.inr (List.prefix_of_prefix_length_le hp hpay hle)

/-- No table entry contains a carriage return. -/
theorem carriageReturn_not_mem_METHODS : ∀ method ∈ METHODS, (13 : UInt8) ∉ method := by decide

/-- Once a line has ended the payload extends a table entry for good. -/
theorem looksLikeHttpPrefix_append {payload : List UInt8}
    (h : looksLikeHttpPrefix payload = true) (hcr : (13 : UInt8) ∈ payload)
    (more : List UInt8) : looksLikeHttpPrefix (payload ++ more) = true := by
  obtain ⟨method, hm, hp⟩ := looksLikeHttpPrefix_iff.mp h
  refine looksLikeHttpPrefix_iff.mpr ⟨method, hm, Or.inr ?_⟩
  rcases hp with hp | hp
  · exact absurd (hp.subset hcr) (carriageReturn_not_mem_METHODS method hm)
  · exact hp.trans (List.prefix_append payload more)

/-- A complete header block contains a carriage return. -/
theorem carriageReturn_mem_of_position {payload : List UInt8} {i : ℕ}
    (h : position headerTerminator payload = some i) : (13 : UInt8) ∈ payload := by
  induction payload generalizing i with
  | nil => cases h
  | cons b payload ih =>
    rw [position] at h
    by_cases hp : headerTerminator.isPrefixOf (b :: payload) = true
    · exact (List.isPrefixOf_iff_prefix.mp hp).subset (by decide)
    · rw [if_neg hp, Option.map_eq_some_iff] at h
      obtain ⟨j, hj, -⟩ := h
      exact List.mem_cons_of_mem b (ih hj)

/-- The host is a function of the first complete header block. -/
theorem extractHttpHost_append {payload : List UInt8} {i : ℕ}
    (h : position headerTerminator payload = some i)
    (hlike : looksLikeHttpPrefix payload = true) (more : List UInt8) :
    extractHttpHost (payload ++ more) = extractHttpHost payload := by
  have hlike' := looksLikeHttpPrefix_append hlike (carriageReturn_mem_of_position h) more
  have hend : i + 4 ≤ payload.length := position_add_length_le h
  unfold extractHttpHost
  rw [hlike, hlike', position_append h more, h]
  simp only [Option.map_some, List.take_append_of_le_length hend]

/-- Without a complete header block there is no host. -/
theorem extractHttpHost_of_position_none {payload : List UInt8}
    (h : position headerTerminator payload = none) : extractHttpHost payload = none := by
  unfold extractHttpHost
  rw [h]
  simp

example : extractHttpHost (ascii "GET / HTTP/1.1\r\nHost: Example.com:8443\r\n\r\n") =
    some "Example.com" := by decide

end LfpPipe.SharedHttp
