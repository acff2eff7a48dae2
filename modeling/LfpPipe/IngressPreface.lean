import Mathlib.Data.List.GetD
import LfpPipe.ChunkedReads
import LfpPipe.SharedHttp

/-!
# Protocol detection at the public listener

The ingress reads a public connection until the buffered bytes reveal a TLS
ClientHello record, a complete HTTP header block or something else. The loop
body is translated from `detect_hostname`; the ClientHello parser of the
external crate is a parameter that receives exactly the first record. The
loop itself is the incremental reader, so its answer cannot depend on how
the network fragments the stream.
-/

namespace LfpPipe.IngressPreface

open Stream' RustText SharedHttp ChunkedReads

/-- Upper bound of the buffered beginning of a public connection. -/
def MAX_PREFACE_BYTES : ℕ := 16 * 1024

/-- Size of a TLS record header. -/
def TLS_HEADER_BYTES : ℕ := 5

/-- Size of the stack buffer that one read fills. -/
def CHUNK_BYTES : ℕ := 512

/-- Detected hostname and whether the connection starts with TLS. -/
abbrev Detection := Option String × Bool

/-- Check that buffered bytes begin with a TLS handshake record header. -/
def validateTlsRecordHeader (recordBytes : List UInt8) : Except String Unit :=
  if recordBytes.length < 5 then .error "TLS record is too short"
  else if recordBytes.head? ≠ some 0x16 then .error "expected TLS handshake record"
  else .ok ()

/-- Header size plus the big-endian length of the first record. -/
def recordLen (buf : List UInt8) : ℕ :=
  TLS_HEADER_BYTES + ((buf.getD 3 0).toNat * 256 + (buf.getD 4 0).toNat)

/-- The TLS branch of the loop body; no answer means another read. -/
def tlsDecision (extractSni : List UInt8 → Except String (Option String)) (buf : List UInt8) :
    Option (Except String Detection) :=
  if buf.length < TLS_HEADER_BYTES then none
  else
    match validateTlsRecordHeader buf with
    | .error error => some (.error error)
    | .ok () =>
      if recordLen buf ≤ MAX_PREFACE_BYTES then
        if buf.length < recordLen buf then none
        else
          match extractSni (buf.take (recordLen buf)) with
          | .error error => some (.error error)
          | .ok hostname => some (.ok (hostname, true))
      else some (.error "TLS ClientHello exceeds 16384 byte ingress preface limit")

/-- The plaintext branch of the loop body; no answer means another read. -/
def httpDecision (buf : List UInt8) : Option (Except String Detection) :=
  match extractHttpHost buf with
  | some host => some (.ok (some host, false))
  | none =>
    if looksLikeHttpPrefix buf then
      if (position headerTerminator buf).isSome then some (.ok (none, false))
      else if buf.length < MAX_PREFACE_BYTES then none
      else some (.error "HTTP headers exceed 16384 byte ingress preface limit")
    else some (.ok (none, false))

/-- The loop body after a nonempty read, on the whole buffer. -/
def prefaceDecision (extractSni : List UInt8 → Except String (Option String))
    (buf : List UInt8) : Option (Except String Detection) :=
  match buf.head? with
  | none => none
  | some first => if first = 0x16 then tlsDecision extractSni buf else httpDecision buf

/-- Read a public connection until it is classified. A closed connection is
an unnamed plaintext one, with everything that was buffered. -/
def detectHostname (extractSni : List UInt8 → Except String (Option String))
    (delivered : ℕ → ℕ) (stream : Seq UInt8) : Option (Report UInt8 (Except String Detection)) :=
  readLoop (prefaceDecision extractSni) (.ok (none, false)) MAX_PREFACE_BYTES CHUNK_BYTES
    delivered (MAX_PREFACE_BYTES + 1) [] stream []

/-- A complete header survives more bytes. -/
theorem recordLen_append {buf : List UInt8} (h : 5 ≤ buf.length) (more : List UInt8) :
    recordLen (buf ++ more) = recordLen buf := by
  have h3 : (buf ++ more).getD 3 0 = buf.getD 3 0 := by
    rw [List.getD_append _ _ _ _ (by omega)]
  have h4 : (buf ++ more).getD 4 0 = buf.getD 4 0 := by
    rw [List.getD_append _ _ _ _ (by omega)]
  rw [recordLen, h3, h4]
  rfl

/-- The first byte of a nonempty buffer is never replaced. -/
theorem head?_append_of_some {buf : List UInt8} {first : UInt8} (h : buf.head? = some first)
    (more : List UInt8) : (buf ++ more).head? = some first := by
  rw [List.head?_append, h]
  rfl

/-- Header validation depends on the header only. -/
theorem validateTlsRecordHeader_append {buf : List UInt8} (h : 5 ≤ buf.length)
    (more : List UInt8) :
    validateTlsRecordHeader (buf ++ more) = validateTlsRecordHeader buf := by
  have hlen : ¬(buf ++ more).length < 5 := by
    rw [List.length_append]
    omega
  have hhead : (buf ++ more).head? = buf.head? := by
    cases buf with
    | nil => simp at h
    | cons b buf => rfl
  have hlen' : ¬buf.length < 5 := by omega
  rw [validateTlsRecordHeader, if_neg hlen, hhead, validateTlsRecordHeader, if_neg hlen']

/-- A decision about a TLS record survives more bytes. -/
theorem tlsDecision_append {extractSni : List UInt8 → Except String (Option String)}
    {buf : List UInt8} {verdict : Except String Detection}
    (h : tlsDecision extractSni buf = some verdict) (more : List UInt8) :
    tlsDecision extractSni (buf ++ more) = some verdict := by
  unfold tlsDecision at h ⊢
  by_cases hshort : buf.length < TLS_HEADER_BYTES
  · rw [if_pos hshort] at h
    cases h
  have h5 : 5 ≤ buf.length := Nat.le_of_not_lt hshort
  have hlen : ¬(buf ++ more).length < TLS_HEADER_BYTES := by
    rw [List.length_append]
    dsimp only [TLS_HEADER_BYTES]
    omega
  rw [if_neg hshort] at h
  rw [if_neg hlen, validateTlsRecordHeader_append h5, recordLen_append h5]
  cases hv : validateTlsRecordHeader buf with
  | error error =>
    rw [hv] at h
    exact h
  | ok _ =>
    rw [hv] at h
    dsimp only at h ⊢
    by_cases hmax : recordLen buf ≤ MAX_PREFACE_BYTES
    · rw [if_pos hmax] at h ⊢
      by_cases hrec : buf.length < recordLen buf
      · rw [if_pos hrec] at h
        cases h
      · have hrec' : ¬(buf ++ more).length < recordLen buf := by
          rw [List.length_append]
          omega
        rw [if_neg hrec] at h
        rw [if_neg hrec', List.take_append_of_le_length (Nat.le_of_not_lt hrec)]
        exact h
    · rw [if_neg hmax] at h ⊢
      exact h

/-- A decision about plaintext survives more bytes inside the limit. -/
theorem httpDecision_append {buf : List UInt8} {verdict : Except String Detection}
    (h : httpDecision buf = some verdict) {more : List UInt8}
    (hlen : (buf ++ more).length ≤ MAX_PREFACE_BYTES) :
    httpDecision (buf ++ more) = some verdict := by
  cases hlike : looksLikeHttpPrefix buf with
  | false =>
    have hno : extractHttpHost buf = none := by simp [extractHttpHost, hlike]
    have hlike' : looksLikeHttpPrefix (buf ++ more) = false := by
      by_contra hc
      rw [Bool.not_eq_false] at hc
      rw [looksLikeHttpPrefix_of_append hc] at hlike
      cases hlike
    have hno' : extractHttpHost (buf ++ more) = none := by simp [extractHttpHost, hlike']
    simp only [httpDecision, hno, hlike, Bool.false_eq_true, if_false] at h
    simp only [httpDecision, hno', hlike', Bool.false_eq_true, if_false]
    exact h
  | true =>
    cases hpos : position headerTerminator buf with
    | some i =>
      have hcr := carriageReturn_mem_of_position hpos
      simp only [httpDecision, hlike, hpos, Option.isSome_some, if_true] at h
      simp only [httpDecision, extractHttpHost_append hpos hlike,
        looksLikeHttpPrefix_append hlike hcr, position_append hpos, Option.isSome_some, if_true]
      exact h
    | none =>
      simp only [httpDecision, extractHttpHost_of_position_none hpos, hlike, hpos, if_true,
        Option.isSome_none, Bool.false_eq_true, if_false] at h
      by_cases hroom : buf.length < MAX_PREFACE_BYTES
      · rw [if_pos hroom] at h
        cases h
      · have hnil : more = [] := by
          rw [List.length_append] at hlen
          exact List.length_eq_zero_iff.mp (by omega)
        rw [if_neg hroom] at h
        rw [hnil, List.append_nil]
        simp only [httpDecision, extractHttpHost_of_position_none hpos, hlike, hpos, if_true,
          Option.isSome_none, Bool.false_eq_true, if_false, if_neg hroom]
        exact h

/-- The loop body is an incremental classifier with the preface limit. -/
theorem prefaceDecision_incremental
    (extractSni : List UInt8 → Except String (Option String)) :
    Incremental (prefaceDecision extractSni) MAX_PREFACE_BYTES := by
  refine ⟨rfl, ?_, ?_⟩
  · intro buf more verdict h hlen
    cases hhead : buf.head? with
    | none =>
      rw [prefaceDecision, hhead] at h
      cases h
    | some first =>
      rw [prefaceDecision, hhead] at h
      rw [prefaceDecision, head?_append_of_some hhead]
      dsimp only at h ⊢
      by_cases htls : first = 0x16
      · rw [if_pos htls] at h ⊢
        exact tlsDecision_append h more
      · rw [if_neg htls] at h ⊢
        exact httpDecision_append h hlen
  · intro buf hfull
    have hnil : buf ≠ [] := by
      rintro rfl
      cases hfull
    obtain ⟨first, hhead⟩ := Option.ne_none_iff_exists'.mp (mt List.head?_eq_none_iff.mp hnil)
    rw [prefaceDecision, hhead]
    dsimp only
    by_cases htls : first = 0x16
    · have hshort : ¬buf.length < TLS_HEADER_BYTES := by
        rw [hfull]
        decide
      rw [if_pos htls, tlsDecision, if_neg hshort]
      cases validateTlsRecordHeader buf with
      | error error => rfl
      | ok _ =>
        dsimp only
        by_cases hmax : recordLen buf ≤ MAX_PREFACE_BYTES
        · rw [if_pos hmax, if_neg (by omega)]
          cases extractSni (buf.take (recordLen buf)) <;> rfl
        · rw [if_neg hmax]
          rfl
    · rw [if_neg htls, httpDecision]
      cases extractHttpHost buf with
      | some host => rfl
      | none =>
        dsimp only
        split
        · split
          · rfl
          · rw [if_neg (by omega)]
            rfl
        · rfl

/-- Protocol detection does not depend on fragmentation. Any two deliveries
of one stream end with the same hostname and TLS flag or the same error.
At most 16 KiB are consumed, every read has room left and asks for between
one and 512 bytes, and the preface followed by the unread rest is the
stream. -/
theorem detectHostname_fragmentation_independent
    (extractSni : List UInt8 → Except String (Option String)) (stream : Seq UInt8)
    (delivered delivered' : ℕ → ℕ) :
    ∃ report report',
      detectHostname extractSni delivered stream = some report ∧
      detectHostname extractSni delivered' stream = some report' ∧
      report.verdict = report'.verdict ∧
      report.buffer.length ≤ 16 * 1024 ∧
      Seq.append (Seq.ofList report.buffer) report.rest = stream ∧
      ∀ call ∈ report.calls,
        call.filled < MAX_PREFACE_BYTES ∧ 0 < call.requested ∧ call.requested ≤ 512 := by
  have hinc := prefaceDecision_incremental extractSni
  obtain ⟨report, hr, hf⟩ :=
    readLoop_start hinc (by decide : 0 < CHUNK_BYTES) (.ok (none, false)) delivered stream
  obtain ⟨report', hr', hf'⟩ :=
    readLoop_start hinc (by decide : 0 < CHUNK_BYTES) (.ok (none, false)) delivered' stream
  exact ⟨report, report', hr, hr', hf.verdict_eq.trans hf'.verdict_eq.symm, hf.bounded,
    hf.replay, hf.requests⟩

end LfpPipe.IngressPreface
