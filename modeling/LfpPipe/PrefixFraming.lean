import LfpPipe.TunnelTransparency

/-!
# Framing of the callback prefix

The writer of a callback prefix, the reader with its length limit and the
decoder meet at one boundary: a body of 4096 bytes is read with its newline,
and the byte that would make it longer is the last one that is read, also
when reading fails.
-/

namespace LfpPipe.PrefixFraming

open Stream' RustText Fallible SharedPrefix

/-- How many bytes the reader of a callback takes from its socket. -/
def bytesRead (unread : Seq UInt8) : ℕ := (readLine [] unread).1.length

/-- The reader never takes more than one byte over the limit. -/
theorem readLine_length_le {line : List UInt8} (hline : line.length ≤ MAX_PREFIX_BYTES)
    (unread : Seq UInt8) : (readLine line unread).1.length ≤ MAX_PREFIX_BYTES + 1 := by
  fun_induction readLine line unread with
  | case1 line unread hclosed => exact hline.trans (Nat.le_succ _)
  | case2 line unread rest hbyte =>
    rw [List.length_append, List.length_singleton]
    exact Nat.succ_le_succ hline
  | case3 line unread byte rest hbyte hnewline hlong =>
    rw [List.length_append, List.length_singleton]
    exact Nat.succ_le_succ hline
  | case4 line unread byte rest hbyte hnewline hlong ih => exact ih (Nat.le_of_not_lt hlong)

/-- A byte that follows is the first one that is taken. -/
theorem take_of_destruct {unread rest : Seq UInt8} {byte : UInt8}
    (h : unread.destruct = some (byte, rest)) (n : ℕ) :
    unread.take (n + 1) = byte :: rest.take n := by
  rw [Seq.destruct_eq_cons h, Seq.take_succ_cons]

/-- Without a newline up to one byte over the limit, the reader stops. -/
theorem readLine_fails {line : List UInt8} (hline : line.length ≤ MAX_PREFIX_BYTES)
    {unread : Seq UInt8}
    (hunread : newline ∉ unread.take (MAX_PREFIX_BYTES + 1 - line.length)) :
    ∃ error, (readLine line unread).2 = .error error := by
  fun_induction readLine line unread with
  | case1 line unread hclosed => exact ⟨_, rfl⟩
  | case2 line unread rest hbyte =>
    have hsplit : MAX_PREFIX_BYTES + 1 - line.length = MAX_PREFIX_BYTES - line.length + 1 := by
      omega
    rw [hsplit, take_of_destruct hbyte] at hunread
    exact absurd (List.mem_cons_self ..) hunread
  | case3 line unread byte rest hbyte hnewline hlong => exact ⟨_, rfl⟩
  | case4 line unread byte rest hbyte hnewline hlong ih =>
    have hsplit : MAX_PREFIX_BYTES + 1 - line.length = MAX_PREFIX_BYTES - line.length + 1 := by
      omega
    rw [hsplit, take_of_destruct hbyte] at hunread
    have hnext : MAX_PREFIX_BYTES + 1 - (line ++ [byte]).length =
        MAX_PREFIX_BYTES - line.length := by
      rw [List.length_append, List.length_singleton]
      omega
    refine ih (Nat.le_of_not_lt hlong) ?_
    rw [hnext]
    exact fun hmem => hunread (List.mem_cons_of_mem _ hmem)

/-- A stream without a newline up to one byte over the limit has no prefix,
and no byte behind that is touched. -/
theorem readPrefix_fails (json : JsonCodec) {unread : Seq UInt8}
    (hunread : newline ∉ unread.take (MAX_PREFIX_BYTES + 1)) :
    (∃ error, readPrefix json unread = .error error) ∧
      bytesRead unread ≤ MAX_PREFIX_BYTES + 1 := by
  refine ⟨?_, readLine_length_le (Nat.zero_le _) unread⟩
  have hempty : ([] : List UInt8).length ≤ MAX_PREFIX_BYTES := Nat.zero_le _
  obtain ⟨error, hfails⟩ := readLine_fails hempty hunread
  rw [readPrefix]
  dsimp only
  rw [hfails]
  exact ⟨error, rfl⟩

/-- The first bytes of a text and more are those of the text. -/
theorem take_append_ofList {body : List UInt8} {n : ℕ} (h : n ≤ body.length) (rest : Seq UInt8) :
    (Seq.append (Seq.ofList body) rest).take n = body.take n := by
  induction n generalizing body with
  | zero => rw [Seq.take_zero, List.take_zero]
  | succ n ih =>
    cases body with
    | nil => cases h
    | cons byte body =>
      rw [Seq.ofList_cons, Seq.cons_append, Seq.take_succ_cons, List.take_succ_cons,
        ih (Nat.le_of_succ_le_succ h)]

/-- Only envelopes of the current version are decoded. -/
theorem version_of_decodeLine {json : JsonCodec} {line : List UInt8} {envelope : PrefixEnvelope}
    (h : PrefixEnvelope.decodeLine json line = .ok envelope) :
    envelope.version = CURRENT_VERSION := by
  simp only [PrefixEnvelope.decodeLine, bind_eq_ok, ensure_eq_ok] at h
  obtain ⟨text, -, _, -, decoded, -, parsed, -, _, hversion, hsame⟩ := h
  cases hsame
  exact beq_iff_eq.mp hversion

/-- The base64 body of an envelope's line. -/
def bodyOf (bytes : List UInt8) : List UInt8 := ascii (String.ofList (Base64.encode bytes))

/-- A written prefix whose body fits is read back with exactly the bytes
behind it left, a longer one is refused, a stream without a newline up to
one byte over the limit is refused without touching what follows, and only
the current version is decoded. -/
theorem prefix_framing {json : JsonCodec} (hjson : json.Lawful) :
    (∀ clientId connectionId bytes rest,
      json.toVec (PrefixEnvelope.new clientId connectionId) = .ok bytes →
      (PrefixEnvelope.new clientId connectionId).encodeLine json =
        .ok (bodyOf bytes ++ [newline]) ∧
      ((bodyOf bytes).length ≤ 4096 →
        readPrefix json (Seq.append (Seq.ofList (bodyOf bytes ++ [newline])) rest) =
          .ok (PrefixEnvelope.new clientId connectionId, rest)) ∧
      (4096 < (bodyOf bytes).length →
        (∃ error, readPrefix json
          (Seq.append (Seq.ofList (bodyOf bytes ++ [newline])) rest) = .error error) ∧
        bytesRead (Seq.append (Seq.ofList (bodyOf bytes ++ [newline])) rest) ≤ 4097)) ∧
    (∀ unread : Seq UInt8, newline ∉ unread.take 4097 →
      (∃ error, readPrefix json unread = .error error) ∧ bytesRead unread ≤ 4097) ∧
    ∀ line envelope, PrefixEnvelope.decodeLine json line = .ok envelope →
      envelope.version = CURRENT_VERSION := by
  refine ⟨?_, fun unread hunread => readPrefix_fails json hunread,
    fun line envelope hdecode => version_of_decodeLine hdecode⟩
  intro clientId connectionId bytes rest hbytes
  have hencode : (PrefixEnvelope.new clientId connectionId).encodeLine json =
      .ok (bodyOf bytes ++ [newline]) := by
    rw [PrefixEnvelope.encodeLine, hbytes]
    rfl
  have hlength : (bodyOf bytes ++ [newline]).length = (bodyOf bytes).length + 1 := by
    rw [List.length_append, List.length_singleton]
  refine ⟨hencode, fun hfits => ?_, fun hlong => ?_⟩
  · refine readPrefix_encodeLine hjson rfl hencode ?_ rest
    rw [hlength]
    exact Nat.succ_le_succ hfits
  · refine readPrefix_fails json ?_
    have hinside : MAX_PREFIX_BYTES + 1 ≤ (bodyOf bytes).length := hlong
    rw [take_append_ofList (hinside.trans (hlength ▸ Nat.le_succ _)),
      List.take_append_of_le_length hinside]
    exact fun hmem => newline_not_mem_encode bytes (List.mem_of_mem_take hmem)

/-- The sample envelope is read back in front of any bytes. -/
theorem prefix_framing_alice :
    readPrefix TunnelTransparency.sampleCodec
      (Seq.append (Seq.ofList (bodyOf TunnelTransparency.sampleJson ++ [newline]))
        (Seq.ofList [22, 3, 1])) = .ok (PrefixEnvelope.new "alice" "c1", Seq.ofList [22, 3, 1]) :=
  ((prefix_framing TunnelTransparency.sampleCodec_lawful).1 "alice" "c1"
    TunnelTransparency.sampleJson (Seq.ofList [22, 3, 1]) rfl).2.1 (by decide +kernel)

end LfpPipe.PrefixFraming
