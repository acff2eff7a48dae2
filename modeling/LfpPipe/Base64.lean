import Mathlib.Data.List.GetD

/-!
# Base64 with canonical padding

Three bytes become four symbols of the standard alphabet; a shorter last
group is filled up with padding. Decoding accepts the canonical form only:
complete groups, padding exactly where it is needed and unused bits zero.
-/

namespace LfpPipe.Base64

/-- The symbols of the values below 64, in order. -/
def alphabet : List Char :=
  "ABCDEFGHIJKLMNOPQRSTUVWXYZabcdefghijklmnopqrstuvwxyz0123456789+/".toList

/-- The symbol of a value below 64. -/
def symbol (n : ℕ) : Char := alphabet.getD n 'A'

/-- The value of a symbol. -/
def value (c : Char) : Option ℕ := alphabet.findIdx? (· == c)

/-- Encode a text of bytes, group by group. -/
def encode : List UInt8 → List Char
  | [] => []
  | [a] => [symbol (a.toNat / 4), symbol (a.toNat % 4 * 16), '=', '=']
  | [a, b] => [symbol (a.toNat / 4), symbol (a.toNat % 4 * 16 + b.toNat / 16),
      symbol (b.toNat % 16 * 4), '=']
  | a :: b :: c :: rest => symbol (a.toNat / 4) :: symbol (a.toNat % 4 * 16 + b.toNat / 16) ::
      symbol (b.toNat % 16 * 4 + c.toNat / 64) :: symbol (c.toNat % 64) :: encode rest

/-- Decode a last group with two padding characters. -/
def decodeOne (w x : Char) : Option (List UInt8) := do
  let w ← value w
  let x ← value x
  if x % 16 = 0 then some [(w * 4 + x / 16).toUInt8] else none

/-- Decode a last group with one padding character. -/
def decodeTwo (w x y : Char) : Option (List UInt8) := do
  let w ← value w
  let x ← value x
  let y ← value y
  if y % 4 = 0 then some [(w * 4 + x / 16).toUInt8, (x % 16 * 16 + y / 4).toUInt8] else none

/-- Decode a group without padding. -/
def decodeThree (w x y z : Char) : Option (List UInt8) := do
  let w ← value w
  let x ← value x
  let y ← value y
  let z ← value z
  some [(w * 4 + x / 16).toUInt8, (x % 16 * 16 + y / 4).toUInt8, (y % 4 * 64 + z).toUInt8]

/-- Decode groups; only the last one may be padded. -/
def decode : List Char → Option (List UInt8)
  | [] => some []
  | w :: x :: y :: z :: rest =>
    if rest = [] ∧ z = '=' then
      if y = '=' then decodeOne w x else decodeTwo w x y
    else do
      let bytes ← decodeThree w x y z
      let more ← decode rest
      some (bytes ++ more)
  | _ => none

/-- Every value is recovered from its symbol. -/
theorem value_symbol {n : ℕ} (h : n < 64) : value (symbol n) = some n := by
  have hall : ∀ m < 64, value (symbol m) = some m := by decide +kernel
  exact hall n h

/-- A symbol belongs to the alphabet. -/
theorem symbol_mem (n : ℕ) : symbol n ∈ alphabet := by
  rcases Nat.lt_or_ge n alphabet.length with hn | hn
  · rw [symbol, List.getD_eq_getElem _ _ hn]
    exact List.getElem_mem hn
  · rw [symbol, List.getD_eq_default _ _ hn]
    decide +kernel

/-- The padding is no symbol. -/
theorem symbol_ne_padding (n : ℕ) : symbol n ≠ '=' := by
  intro he
  have hmem := symbol_mem n
  rw [he] at hmem
  exact absurd hmem (by decide +kernel)

/-- A byte is recovered from a number that it equals. -/
theorem toUInt8_eq {n : ℕ} {b : UInt8} (h : n = b.toNat) : n.toUInt8 = b := by
  rw [h]
  exact UInt8.ofNat_toNat

/-- Encoded bytes are decoded to themselves. -/
theorem decode_encode (bytes : List UInt8) : decode (encode bytes) = some bytes := by
  fun_induction encode bytes with
  | case1 => rfl
  | case2 a =>
    have ha := a.toNat_lt
    have hw := value_symbol (n := a.toNat / 4) (by omega)
    have hx := value_symbol (n := a.toNat % 4 * 16) (by omega)
    have hb : (a.toNat / 4 * 4 + a.toNat % 4 * 16 / 16).toUInt8 = a := toUInt8_eq (by omega)
    have hz : a.toNat % 4 * 16 % 16 = 0 := by omega
    rw [decode, if_pos ⟨rfl, rfl⟩, if_pos rfl, decodeOne, hw, hx]
    simp only [Option.bind_eq_bind, Option.bind_some, if_pos hz, hb]
  | case3 a b =>
    have ha := a.toNat_lt
    have hb := b.toNat_lt
    have hw := value_symbol (n := a.toNat / 4) (by omega)
    have hx := value_symbol (n := a.toNat % 4 * 16 + b.toNat / 16) (by omega)
    have hy := value_symbol (n := b.toNat % 16 * 4) (by omega)
    have h1 : (a.toNat / 4 * 4 + (a.toNat % 4 * 16 + b.toNat / 16) / 16).toUInt8 = a :=
      toUInt8_eq (by omega)
    have h2 : ((a.toNat % 4 * 16 + b.toNat / 16) % 16 * 16 + b.toNat % 16 * 4 / 4).toUInt8 = b :=
      toUInt8_eq (by omega)
    have hz : b.toNat % 16 * 4 % 4 = 0 := by omega
    rw [decode, if_pos ⟨rfl, rfl⟩, if_neg (symbol_ne_padding _), decodeTwo, hw, hx, hy]
    simp only [Option.bind_eq_bind, Option.bind_some, if_pos hz, h1, h2]
  | case4 a b c rest ih =>
    have ha := a.toNat_lt
    have hb := b.toNat_lt
    have hc := c.toNat_lt
    have hw := value_symbol (n := a.toNat / 4) (by omega)
    have hx := value_symbol (n := a.toNat % 4 * 16 + b.toNat / 16) (by omega)
    have hy := value_symbol (n := b.toNat % 16 * 4 + c.toNat / 64) (by omega)
    have hz := value_symbol (n := c.toNat % 64) (by omega)
    have h1 : (a.toNat / 4 * 4 + (a.toNat % 4 * 16 + b.toNat / 16) / 16).toUInt8 = a :=
      toUInt8_eq (by omega)
    have h2 : ((a.toNat % 4 * 16 + b.toNat / 16) % 16 * 16 +
        (b.toNat % 16 * 4 + c.toNat / 64) / 4).toUInt8 = b := toUInt8_eq (by omega)
    have h3 : ((b.toNat % 16 * 4 + c.toNat / 64) % 4 * 64 + c.toNat % 64).toUInt8 = c :=
      toUInt8_eq (by omega)
    have hlast : ¬(encode rest = [] ∧ symbol (c.toNat % 64) = '=') :=
      fun hpad => symbol_ne_padding _ hpad.2
    rw [decode, if_neg hlast, decodeThree, hw, hx, hy, hz, ih]
    simp only [Option.bind_eq_bind, Option.bind_some, h1, h2, h3, List.cons_append,
      List.nil_append]

example : encode [77, 97] = "TWE=".toList := by decide +kernel

/-- Encoded text consists of symbols and padding. -/
theorem mem_encode {bytes : List UInt8} {c : Char} (h : c ∈ encode bytes) :
    c ∈ alphabet ∨ c = '=' := by
  fun_induction encode bytes with
  | case1 => cases h
  | case2 a =>
    simp only [List.mem_cons, List.not_mem_nil, or_false] at h
    rcases h with rfl | rfl | h
    · exact .inl (symbol_mem _)
    · exact .inl (symbol_mem _)
    · exact .inr (h.elim id id)
  | case3 a b =>
    simp only [List.mem_cons, List.not_mem_nil, or_false] at h
    rcases h with rfl | rfl | rfl | h
    · exact .inl (symbol_mem _)
    · exact .inl (symbol_mem _)
    · exact .inl (symbol_mem _)
    · exact .inr h
  | case4 a b c rest ih =>
    simp only [List.mem_cons] at h
    rcases h with rfl | rfl | rfl | rfl | h
    · exact .inl (symbol_mem _)
    · exact .inl (symbol_mem _)
    · exact .inl (symbol_mem _)
    · exact .inl (symbol_mem _)
    · exact ih h

/-- Encoded text is printable ASCII. -/
theorem mem_encode_printable {bytes : List UInt8} {c : Char} (h : c ∈ encode bytes) :
    32 < c.toNat ∧ c.toNat < 128 := by
  have hall : (alphabet.all fun d => decide (32 < d.toNat ∧ d.toNat < 128)) = true := by
    decide +kernel
  rcases mem_encode h with hm | rfl
  · exact of_decide_eq_true (List.all_eq_true.mp hall c hm)
  · decide

/-- Only no bytes are encoded as no text. -/
theorem encode_ne_nil {bytes : List UInt8} (h : bytes ≠ []) : encode bytes ≠ [] := by
  fun_cases encode bytes with
  | case1 => exact absurd rfl h
  | case2 => simp
  | case3 => simp
  | case4 => simp

end LfpPipe.Base64
