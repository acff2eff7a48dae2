import Mathlib.Data.Int.Notation
import Mathlib.Data.List.Forall2

/-!
# Parsed TOML values and typed reading

A parsed document is a tree of scalars, arrays and tables. A typed reader
sees a record as a table by its keys or as an array by the order of its
fields, ignores keys it does not know, and fails on a value of another type.
A date is handed to the reader as a table with one private key.
-/

namespace LfpPipe.TomlValues

/-- A floating point literal. -/
inductive TomlFloat where
  | finite (mantissa exponent : ℤ)
  | infinity (negative : Bool)
  | nan
  deriving DecidableEq

/-- A parsed value. -/
inductive Toml where
  | string (value : String)
  | integer (value : ℤ)
  | float (value : TomlFloat)
  | boolean (value : Bool)
  | datetime (text : String)
  | array (items : List Toml)
  | table (entries : List (String × Toml))

variable {α : Type}

/-- The value of a key; only tables have keys. -/
def Toml.get : Toml → String → Option Toml
  | .table entries, key => entries.lookup key
  | _, _ => none

/-- A value that is written as an array. -/
def Toml.isArray : Toml → Bool
  | .array _ => true
  | _ => false

/-- The fields of a record: a table by its keys, an array by position, at
most one element for each field. -/
def Toml.fields (names : List String) : Toml → Option (String → Option Toml)
  | .table entries => some fun name => entries.lookup name
  | .array items =>
    if items.length ≤ names.length then some fun name => items[names.idxOf name]? else none
  | .datetime _ => some fun _ => none
  | _ => none

/-- A text. -/
def Toml.asText : Toml → Option String
  | .string value => some value
  | _ => none

/-- A flag. -/
def Toml.asFlag : Toml → Option Bool
  | .boolean value => some value
  | _ => none

/-- A number that is not negative. -/
def Toml.asCount : Toml → Option ℕ
  | .integer value => value.toNat?
  | _ => none

/-- An array whose items are all read. -/
def Toml.asList (read : Toml → Option α) : Toml → Option (List α)
  | .array items => items.mapM read
  | _ => none

/-- An array of texts. -/
def Toml.asTexts : Toml → Option (List String) := Toml.asList Toml.asText

/-- Read a field that must be there. -/
def required (read : Toml → Option α) (value : Option Toml) : Option α := value.bind read

/-- Read a field that may be missing. -/
def optional (read : Toml → Option α) : Option Toml → Option (Option α)
  | none => some none
  | some value => (read value).map some

/-- Read a field with a default. -/
def defaulted (fallback : α) (read : Toml → Option α) : Option Toml → Option α
  | none => some fallback
  | some value => read value

/-- The items of an array that may be missing. -/
def items : Option Toml → List Toml
  | some (.array values) => values
  | _ => []

/-- The value of a key in a table that may be missing. -/
def entry (value : Option Toml) (key : String) : Option Toml :=
  value.bind fun table => table.get key

/-- A value that is not written as an array, if it is there. -/
def Written (value : Option Toml) : Prop := ∀ found, value = some found → found.isArray = false

/-- The fields of a record that is not an array are its keys. -/
theorem fields_eq_get {names : List String} {value : Toml} {field : String → Option Toml}
    (h : value.fields names = some field) (hwritten : value.isArray = false) :
    field = value.get := by
  cases value with
  | table entries =>
    cases h
    rfl
  | datetime text =>
    cases h
    rfl
  | array values => cases hwritten
  | string value => cases h
  | integer value => cases h
  | float value => cases h
  | boolean value => cases h

/-- A missing record reads as nothing, a present one as something. -/
theorem optional_isSome {read : Toml → Option α} {value : Option Toml} {found : Option α}
    (h : optional read value = some found) : found.isSome = value.isSome := by
  cases value with
  | none =>
    cases h
    rfl
  | some value =>
    obtain ⟨record, -, rfl⟩ := Option.map_eq_some_iff.mp h
    rfl

/-- Items that were read one by one have one element each. -/
theorem forall₂_of_mapM {read : Toml → Option α} {values : List Toml} {found : List α}
    (h : values.mapM read = some found) :
    List.Forall₂ (fun item element => read item = some element) values found := by
  induction values generalizing found with
  | nil =>
    cases h
    exact .nil
  | cons item values ih =>
    rw [List.mapM_cons] at h
    simp only [Option.bind_eq_bind, Option.bind_eq_some_iff, Option.pure_def,
      Option.some.injEq] at h
    obtain ⟨first, hfirst, rest, hrest, rfl⟩ := h
    exact .cons hfirst (ih hrest)

/-- A list that was read has one element for each item. -/
theorem forall₂_of_asList {read : Toml → Option α} {value : Toml} {found : List α}
    (h : value.asList read = some found) :
    List.Forall₂ (fun item element => read item = some element) (items (some value)) found := by
  cases value with
  | array values => exact forall₂_of_mapM h
  | string value => cases h
  | integer value => cases h
  | float value => cases h
  | boolean value => cases h
  | datetime text => cases h
  | table entries => cases h

/-- A text that was read is the value itself. -/
theorem asText_eq_some {value : Toml} {text : String} :
    value.asText = some text ↔ value = .string text := by
  cases value <;> simp [Toml.asText]

/-- A flag that was read is the value itself. -/
theorem asFlag_eq_some {value : Toml} {flag : Bool} :
    value.asFlag = some flag ↔ value = .boolean flag := by
  cases value <;> simp [Toml.asFlag]

/-- Texts that were read are the items themselves. -/
theorem asTexts_eq_some {value : Toml} {texts : List String} :
    value.asTexts = some texts ↔ value = .array (texts.map .string) := by
  have hitems : ∀ items : List Toml, items.mapM Toml.asText = some texts ↔
      items = texts.map .string := by
    intro items
    induction items generalizing texts with
    | nil => cases texts <;> simp
    | cons item items ih =>
      rw [List.mapM_cons]
      cases texts with
      | nil => simp [Option.bind_eq_some_iff]
      | cons text texts =>
        simp only [Option.bind_eq_bind, Option.bind_eq_some_iff, Option.pure_def,
          Option.some.injEq, List.cons.injEq, List.map_cons, asText_eq_some, ih]
        constructor
        · rintro ⟨first, hfirst, rest, hrest, rfl, rfl⟩
          exact ⟨hfirst, hrest⟩
        · rintro ⟨hfirst, hrest⟩
          exact ⟨text, hfirst, texts, hrest, rfl, rfl⟩
  cases value with
  | array items => simpa [Toml.asTexts, Toml.asList] using hitems items
  | _ => simp [Toml.asTexts, Toml.asList]

/-- An optional field that was read holds its value, if it is there. -/
theorem optional_eq_some {read : Toml → Option α} {write : α → Toml}
    (hread : ∀ value found, read value = some found ↔ value = write found) {value : Option Toml}
    {found : Option α} : optional read value = some found ↔ value = found.map write := by
  cases value with
  | none => cases found <;> simp [optional]
  | some value =>
    cases found with
    | none => simp [optional]
    | some found => simp [optional, hread]

end LfpPipe.TomlValues
