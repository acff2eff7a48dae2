import Mathlib.Data.Seq.Basic
import LfpPipe.Base64
import LfpPipe.Fallible
import LfpPipe.RustText

/-!
# The callback prefix

Translated from `shared/src/prefix.rs` and from `read_prefix` of the
ingress. A callback connection starts with one line: base64 of a JSON
envelope. The JSON library is a parameter. The line is read byte by byte up
to its newline, so nothing behind it is consumed.
-/

namespace LfpPipe.SharedPrefix

open Stream' RustText Fallible

/-- First line of a callback connection. -/
structure PrefixEnvelope where
  /-- Wire-format version. -/
  version : UInt16
  /-- Client that won the selection. -/
  clientId : String
  /-- Public connection of this callback. -/
  connectionId : String
  deriving DecidableEq, Repr

/-- Wire version emitted and accepted. -/
def CURRENT_VERSION : UInt16 := 1

/-- The envelope of a claimed connection. -/
def PrefixEnvelope.new (clientId connectionId : String) : PrefixEnvelope :=
  ⟨CURRENT_VERSION, clientId, connectionId⟩

/-- The JSON library at the envelope type. -/
structure JsonCodec where
  /-- Serialize an envelope. -/
  toVec : PrefixEnvelope → Except AnyError (List UInt8)
  /-- Parse an envelope. -/
  fromSlice : List UInt8 → Except AnyError PrefixEnvelope

/-- Serialized envelopes are parsed back, and no text is no envelope. -/
structure JsonCodec.Lawful (json : JsonCodec) : Prop where
  /-- Parsing undoes serializing. -/
  fromSlice_toVec : ∀ {envelope : PrefixEnvelope} {bytes : List UInt8},
    json.toVec envelope = .ok bytes → json.fromSlice bytes = .ok envelope
  /-- The empty text is rejected. -/
  fromSlice_nil : ∀ envelope : PrefixEnvelope, json.fromSlice [] ≠ .ok envelope

/-- The newline byte. -/
def newline : UInt8 := 10

/-- Base64 of the JSON envelope, with a newline. -/
def PrefixEnvelope.encodeLine (json : JsonCodec) (envelope : PrefixEnvelope) :
    Except AnyError (List UInt8) := do
  let bytes ← withContext "failed to serialize prefix envelope" (json.toVec envelope)
  .ok (ascii (String.ofList (Base64.encode bytes)) ++ [newline])

/-- Decode and validate one line. -/
def PrefixEnvelope.decodeLine (json : JsonCodec) (line : List UInt8) :
    Except AnyError PrefixEnvelope := do
  let text ← orMissing "prefix must be valid utf-8" (fromUtf8 line)
  let trimmed := trimEndMatches '\r' (trimEndMatches '\n' text)
  ensure (!trimmed.isEmpty) "prefix line is empty"
  let decoded ← orMissing "prefix must be valid base64" (Base64.decode trimmed.toList)
  let envelope ← withContext "prefix JSON is invalid" (json.fromSlice decoded)
  ensure (envelope.version == CURRENT_VERSION)
    ("unsupported prefix version " ++ toString envelope.version)
  .ok envelope

/-- Most bytes of a line before its newline. -/
def MAX_PREFIX_BYTES : ℕ := 4096

/-- Read one byte at a time up to a newline. The answer is all that was taken
from the socket, with what is left to read or why reading has stopped. -/
def readLine (line : List UInt8) (unread : Seq UInt8) :
    List UInt8 × Except AnyError (Seq UInt8) :=
  match unread.destruct with
  | none => (line, .error ["client data socket closed before prefix"])
  | some (byte, rest) =>
    if byte = newline then (line ++ [byte], .ok rest)
    else if MAX_PREFIX_BYTES < (line ++ [byte]).length then
      (line ++ [byte], .error ["prefix line is too large"])
    else readLine (line ++ [byte]) rest
termination_by MAX_PREFIX_BYTES - line.length
decreasing_by
  rw [List.length_append, List.length_singleton] at *
  omega

/-- Read the prefix of a callback and leave the rest of its bytes. -/
def readPrefix (json : JsonCodec) (unread : Seq UInt8) :
    Except AnyError (PrefixEnvelope × Seq UInt8) := do
  let (line, stopped) := readLine [] unread
  let rest ← stopped
  let envelope ← PrefixEnvelope.decodeLine json line
  .ok (envelope, rest)

/-- An encoded line is a printable text with a newline. -/
theorem PrefixEnvelope.encodeLine_eq_ok {json : JsonCodec} {envelope : PrefixEnvelope}
    {line : List UInt8} (h : envelope.encodeLine json = .ok line) :
    ∃ bytes, json.toVec envelope = .ok bytes ∧
      line = ascii (String.ofList (Base64.encode bytes)) ++ [newline] := by
  obtain ⟨bytes, hbytes, hline⟩ := bind_eq_ok.mp h
  rw [withContext_eq_ok] at hbytes
  cases hline
  exact ⟨bytes, hbytes, rfl⟩

/-- The encoded text has no newline byte. -/
theorem newline_not_mem_encode (bytes : List UInt8) :
    newline ∉ ascii (String.ofList (Base64.encode bytes)) := by
  rw [ascii, String.toList_ofList, List.mem_map]
  rintro ⟨c, hc, hnewline⟩
  have hprint := Base64.mem_encode_printable hc
  have hsmall : c.toNat.toUInt8.toNat = c.toNat := by
    rw [Nat.toUInt8_eq, UInt8.toNat_ofNat']
    omega
  rw [hnewline] at hsmall
  change 10 = c.toNat at hsmall
  omega

/-- Only the newline is trimmed from an encoded line. -/
theorem trim_encode (bytes : List UInt8) :
    trimEndMatches '\r' (trimEndMatches '\n'
      (String.ofList (Base64.encode bytes ++ ['\n']))) = String.ofList (Base64.encode bytes) := by
  have hlast : ∀ c : Char, c.toNat ≤ 32 →
      (String.ofList (Base64.encode bytes)).toList.getLast? ≠ some c := by
    intro c hc he
    rw [String.toList_ofList] at he
    have hprint := Base64.mem_encode_printable (List.mem_of_getLast? he)
    omega
  have hnewline : trimEndMatches '\n' (String.ofList (Base64.encode bytes ++ ['\n'])) =
      String.ofList (Base64.encode bytes) := by
    have hnone := trimEndMatches_of_getLast_ne (hlast '\n' (by decide))
    rw [trimEndMatches, dropEndWhile, String.toList_ofList] at hnone
    rw [trimEndMatches, dropEndWhile, String.toList_ofList, List.reverse_append,
      List.reverse_singleton, List.singleton_append, List.dropWhile_cons_of_pos (by decide)]
    exact hnone
  rw [hnewline]
  exact trimEndMatches_of_getLast_ne (hlast '\r' (by decide))

/-- An encoded line of the current version is decoded to its envelope. -/
theorem PrefixEnvelope.decodeLine_encodeLine {json : JsonCodec} (hjson : json.Lawful)
    {envelope : PrefixEnvelope} {line : List UInt8} (hversion : envelope.version = CURRENT_VERSION)
    (h : envelope.encodeLine json = .ok line) :
    PrefixEnvelope.decodeLine json line = .ok envelope := by
  obtain ⟨bytes, hbytes, rfl⟩ := encodeLine_eq_ok h
  have hparse := hjson.fromSlice_toVec hbytes
  have hne : bytes ≠ [] := by
    rintro rfl
    exact hjson.fromSlice_nil envelope hparse
  have htext : fromUtf8 (ascii (String.ofList (Base64.encode bytes)) ++ [newline]) =
      some (String.ofList (Base64.encode bytes ++ ['\n'])) := by
    have hascii : ascii (String.ofList (Base64.encode bytes)) ++ [newline] =
        ascii (String.ofList (Base64.encode bytes ++ ['\n'])) := by
      rw [ascii, ascii, String.toList_ofList, String.toList_ofList, List.map_append]
      rfl
    rw [hascii]
    apply fromUtf8_ascii
    intro c hc
    rw [String.toList_ofList, List.mem_append] at hc
    rcases hc with hc | hc
    · exact (Base64.mem_encode_printable hc).2
    · rw [List.mem_singleton.mp hc]
      decide
  have hfull : (String.ofList (Base64.encode bytes)).isEmpty = false := by
    rw [String.isEmpty_eq_false_iff, Ne, String.ofList_eq_empty_iff]
    exact Base64.encode_ne_nil hne
  rw [PrefixEnvelope.decodeLine, bind_eq_ok]
  refine ⟨_, orMissing_eq_ok.mpr htext, ?_⟩
  rw [trim_encode]
  dsimp only
  rw [hfull, String.toList_ofList, bind_eq_ok]
  refine ⟨(), rfl, ?_⟩
  rw [bind_eq_ok]
  refine ⟨bytes, orMissing_eq_ok.mpr (Base64.decode_encode bytes), ?_⟩
  rw [bind_eq_ok]
  refine ⟨envelope, withContext_eq_ok.mpr hparse, ?_⟩
  rw [bind_eq_ok]
  exact ⟨(), ensure_eq_ok.mpr (beq_iff_eq.mpr hversion), rfl⟩

/-- Reading stops right behind the newline of a line that fits. -/
theorem readLine_of_line {body : List UInt8} (line : List UInt8) (hbody : newline ∉ body)
    (rest : Seq UInt8) (hfits : line.length + body.length ≤ MAX_PREFIX_BYTES) :
    readLine line (Seq.append (Seq.ofList (body ++ [newline])) rest) =
      (line ++ body ++ [newline], .ok rest) := by
  induction body generalizing line with
  | nil =>
    rw [readLine, List.nil_append, Seq.ofList_cons, Seq.cons_append, Seq.destruct_cons,
      Seq.ofList_nil, Seq.nil_append, List.append_nil]
    rfl
  | cons byte body ih =>
    have hbyte : byte ≠ newline := fun he => hbody (he ▸ List.mem_cons_self ..)
    have hrest : newline ∉ body := fun hm => hbody (List.mem_cons_of_mem _ hm)
    rw [List.length_cons] at hfits
    have hlen : (line ++ [byte]).length = line.length + 1 := by
      rw [List.length_append, List.length_singleton]
    have hroom : ¬MAX_PREFIX_BYTES < (line ++ [byte]).length := by omega
    have hnext := ih (line ++ [byte]) hrest (by omega)
    rw [readLine, List.cons_append, Seq.ofList_cons, Seq.cons_append, Seq.destruct_cons]
    dsimp only
    rw [if_neg hbyte, if_neg hroom, hnext, List.append_assoc line, List.singleton_append]

/-- The prefix of a callback that fits is read as the envelope of its client,
and exactly the bytes behind it are left. -/
theorem readPrefix_encodeLine {json : JsonCodec} (hjson : json.Lawful) {envelope : PrefixEnvelope}
    {line : List UInt8} (hversion : envelope.version = CURRENT_VERSION)
    (h : envelope.encodeLine json = .ok line) (hfits : line.length ≤ MAX_PREFIX_BYTES + 1)
    (rest : Seq UInt8) :
    readPrefix json (Seq.append (Seq.ofList line) rest) = .ok (envelope, rest) := by
  have hdecode := PrefixEnvelope.decodeLine_encodeLine hjson hversion h
  obtain ⟨bytes, hbytes, rfl⟩ := PrefixEnvelope.encodeLine_eq_ok h
  rw [List.length_append, List.length_singleton] at hfits
  have hread := readLine_of_line [] (newline_not_mem_encode bytes) rest
    (by rw [List.length_nil]; omega)
  rw [List.nil_append] at hread
  rw [readPrefix, hread]
  dsimp only
  rw [bind_eq_ok]
  refine ⟨rest, rfl, ?_⟩
  rw [bind_eq_ok]
  exact ⟨envelope, hdecode, rfl⟩

end LfpPipe.SharedPrefix
