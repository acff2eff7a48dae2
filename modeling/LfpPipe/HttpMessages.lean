import LfpPipe.RustText

/-!
# HTTP request and response values

The parts of the `http` crate's types that the client inspects. Header names
are stored in lower case; a header map is the list of values of each name,
so two maps are equal exactly when they hold the same values in the same
order for every name.
-/

namespace LfpPipe.HttpMessages

open RustText

/-- Bytes of one header value. -/
abbrev HeaderValue := List UInt8

/-- A byte that is read as text: visible ASCII, space or tab. -/
def isVisibleAscii (b : UInt8) : Bool := (32 ≤ b.toNat && b.toNat < 127) || b.toNat == 9

/-- The text of a value without opaque bytes. -/
def toStr (value : HeaderValue) : Option String :=
  if value.all isVisibleAscii then some (String.ofList (value.map fun b => Char.ofNat b.toNat))
  else none

/-- A byte that may stand in a value: no control character except tab. -/
def isHeaderByte (b : UInt8) : Bool := (32 ≤ b.toNat && b.toNat != 127) || b.toNat == 9

/-- A value from the bytes of a text. -/
def fromStr (text : String) : Option HeaderValue :=
  if (utf8 text).all isHeaderByte then some (utf8 text) else none

/-- A character that may stand in a value. -/
def HeaderChar (c : Char) : Prop := (32 ≤ c.toNat ∧ c.toNat ≠ 127) ∨ c.toNat = 9

/-- The bytes of a character may stand in a value exactly when it may. -/
theorem all_isHeaderByte_iff (c : Char) :
    (String.utf8EncodeChar c).all isHeaderByte = true ↔ HeaderChar c := by
  by_cases hc : c.toNat < 128
  · have hbytes : String.utf8EncodeChar c = [c.toNat.toUInt8] := by
      have hone := utf8Encode_of_ascii (List.forall_mem_singleton.mpr hc)
      rwa [List.flatMap_singleton] at hone
    have hbyte : c.toNat.toUInt8.toNat = c.toNat := by
      rw [Nat.toUInt8, UInt8.toNat_ofNat']
      exact Nat.mod_eq_of_lt (by omega)
    rw [hbytes, List.all_cons, List.all_nil, Bool.and_true, isHeaderByte, hbyte]
    simp only [Bool.or_eq_true, Bool.and_eq_true, decide_eq_true_eq, beq_iff_eq, bne_iff_ne,
      HeaderChar]
  · refine iff_of_true ?_ (.inl ⟨by omega, by omega⟩)
    rw [List.all_eq_true]
    intro b hb
    have hlarge := le_toNat_of_mem_utf8EncodeChar (Nat.le_of_not_lt hc) hb
    simp only [isHeaderByte, Bool.or_eq_true, Bool.and_eq_true, decide_eq_true_eq, bne_iff_ne]
    exact .inl ⟨by omega, by omega⟩

/-- A text is a value exactly when its characters may stand in one. -/
theorem fromStr_eq_some_iff {text : String} {value : HeaderValue} :
    fromStr text = some value ↔ (∀ c ∈ text.toList, HeaderChar c) ∧ utf8 text = value := by
  have hchars : (utf8 text).all isHeaderByte = true ↔ ∀ c ∈ text.toList, HeaderChar c := by
    rw [utf8, List.all_flatMap, List.all_eq_true]
    exact forall₂_congr fun c _ => all_isHeaderByte_iff c
  rw [fromStr]
  constructor
  · intro h
    split at h
    · rename_i hall
      exact ⟨hchars.mp hall, Option.some.inj h⟩
    · cases h
  · intro h
    rw [if_pos (hchars.mpr h.1), h.2]

/-- A value that was made from a text has the bytes of that text. -/
theorem fromUtf8_of_fromStr {text : String} {value : HeaderValue}
    (h : fromStr text = some value) : fromUtf8 value = some text := by
  rw [← (fromStr_eq_some_iff.mp h).2, fromUtf8_utf8]

/-- A value of visible ASCII is read as its text. -/
theorem toStr_ascii {text : String}
    (h : (text.toList.all fun c => c.toNat < 128 && isVisibleAscii c.toNat.toUInt8) = true) :
    toStr (ascii text) = some text := by
  have hchars : ∀ c ∈ text.toList, c.toNat < 128 ∧ isVisibleAscii c.toNat.toUInt8 = true := by
    intro c hc
    have hboth := List.all_eq_true.mp h c hc
    rwa [Bool.and_eq_true, decide_eq_true_eq] at hboth
  have hvisible : (ascii text).all isVisibleAscii = true := by
    rw [ascii, List.all_map, List.all_eq_true]
    exact fun c hc => (hchars c hc).2
  have hback : (ascii text).map (fun b => Char.ofNat b.toNat) = text.toList := by
    rw [ascii, List.map_map]
    have hid : ∀ c ∈ text.toList,
        ((fun b : UInt8 => Char.ofNat b.toNat) ∘ fun c : Char => c.toNat.toUInt8) c = id c := by
      intro c hc
      have hsmall := (hchars c hc).1
      have hbyte : c.toNat.toUInt8.toNat = c.toNat := by
        rw [Nat.toUInt8, UInt8.toNat_ofNat']
        exact Nat.mod_eq_of_lt (by omega)
      rw [Function.comp_apply, hbyte, Char.ofNat_toNat]
      rfl
    rw [List.map_congr_left hid, List.map_id]
  rw [toStr, if_pos hvisible, hback, String.ofList_toList]

/-- All header values by name. -/
structure HeaderMap where
  /-- Values of one name in order of arrival. -/
  getAll : String → List HeaderValue

/-- No headers. -/
def HeaderMap.empty : HeaderMap := ⟨fun _ => []⟩

/-- The first value of a name. -/
def HeaderMap.get (headers : HeaderMap) (name : String) : Option HeaderValue :=
  (headers.getAll name).head?

/-- Whether a name has a value. -/
def HeaderMap.containsKey (headers : HeaderMap) (name : String) : Bool :=
  !(headers.getAll name).isEmpty

/-- Drop every value of a name. -/
def HeaderMap.remove (headers : HeaderMap) (name : String) : HeaderMap :=
  ⟨fun other => if other = name then [] else headers.getAll other⟩

/-- Replace every value of a name. -/
def HeaderMap.insert (headers : HeaderMap) (name : String) (value : HeaderValue) : HeaderMap :=
  ⟨fun other => if other = name then [value] else headers.getAll other⟩

/-- Add a value after those of a name. -/
def HeaderMap.append (headers : HeaderMap) (name : String) (value : HeaderValue) : HeaderMap :=
  ⟨fun other => if other = name then headers.getAll name ++ [value] else headers.getAll other⟩

/-- A request target. -/
structure Uri where
  /-- Path as it is written; empty where a host stands alone, or only a query follows it. -/
  written : String
  /-- Query without its question mark. -/
  query : Option String
  deriving DecidableEq, Repr

/-- The path: the root where only a query is written. -/
def Uri.path (uri : Uri) : String :=
  if uri.written.isEmpty && uri.query.isSome then "/" else uri.written

/-- The path and query as they are written; none for a host alone. -/
def Uri.pathAndQuery (uri : Uri) : Option String :=
  match uri.query with
  | some query => some (uri.written ++ "?" ++ query)
  | none => if uri.written.isEmpty then none else some uri.written

/-- A path that is written is the path. -/
theorem Uri.path_of_written {uri : Uri} (h : uri.written ≠ "") : uri.path = uri.written := by
  have hwritten : uri.written.isEmpty = false := by
    rw [← Bool.not_eq_true, String.isEmpty_iff]
    exact h
  rw [Uri.path, hwritten]
  rfl

/-- One parsed request head. -/
structure Request where
  /-- Method token. -/
  method : String
  /-- Request target. -/
  uri : Uri
  /-- Header fields. -/
  headers : HeaderMap

/-- A complete response generated locally. -/
structure AuthResponse where
  /-- Status code. -/
  status : ℕ
  /-- Header fields. -/
  headers : HeaderMap
  /-- Body text. -/
  body : String

/-- The header fields of a fixed JSON response. -/
def jsonHeaders : HeaderMap :=
  (HeaderMap.empty.insert "content-type" (ascii "application/json")).insert
    "cache-control" (ascii "no-store")

/-- A JSON response with a fixed error code. -/
def jsonResponse (status : ℕ) (error : String) : AuthResponse :=
  ⟨status, jsonHeaders, "\x7b\"error\":\"" ++ error ++ "\"\x7d\n"⟩

/-- Missing or invalid credentials. -/
def unauthorizedResponse : AuthResponse :=
  let response := jsonResponse 401 "unauthorized"
  { response with
    headers := response.headers.insert "www-authenticate" (ascii "Bearer realm=\"lfp-pipe\"") }

/-- Valid credentials without a required role. -/
def forbiddenResponse : AuthResponse := jsonResponse 403 "forbidden"

/-- A login that could not be started. -/
def internalErrorResponse : AuthResponse := jsonResponse 500 "authentication unavailable"

/-- A reserved endpoint requested with another method. -/
def methodNotAllowedResponse : AuthResponse := jsonResponse 405 "method not allowed"

end LfpPipe.HttpMessages
