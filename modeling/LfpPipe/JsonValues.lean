import Mathlib.Data.Rat.Defs

/-!
# JSON values and untyped maps

A JSON document is a tree whose objects are read as maps: the first binding
of a key counts, and the order of the keys is not observed. A reader that
keeps numbers as floating point values changes them, or refuses those out of
range; the rest of a document survives being read and written again.
-/

namespace LfpPipe.JsonValues

/-- A JSON value. -/
inductive Json where
  | null
  | bool (value : Bool)
  | number (value : ℚ)
  | string (value : String)
  | array (items : List Json)
  | object (fields : List (String × Json))

/-- The fields of an object. -/
abbrev Fields := List (String × Json)

/-- Replace or add one field. -/
def Fields.set (fields : Fields) (key : String) (value : Json) : Fields :=
  (key, value) :: fields.filter fun field => field.1 != key

/-- The fields of a value that is an object, else none. -/
def Json.fieldsOr : Option Json → Fields
  | some (.object fields) => fields
  | _ => []

/-- The truth value of a value that is one, else false. -/
def Json.boolOr : Option Json → Bool
  | some (.bool value) => value
  | _ => false

/-- The text of a value that is one, else the empty text. -/
def Json.textOr : Option Json → String
  | some (.string value) => value
  | _ => ""

/-- How a reader turns numbers into floating point values, and how the numbers are
written in the document that is read. -/
structure FloatReader where
  /-- The value; none when the number is out of range. -/
  value : ℚ → Option ℚ
  /-- The literal of a number. -/
  literal : ℚ → String

section

variable (float : FloatReader)

mutual

/-- Read a value and write it again, every number through a floating point
value; a number out of range is an error. -/
def Json.recode : Json → Option Json
  | .null => some .null
  | .bool value => some (.bool value)
  | .number value => (float.value value).map Json.number
  | .string value => some (.string value)
  | .array items => (recodeItems items).map Json.array
  | .object fields => (recodeFields fields).map Json.object

/-- The same for the items of an array. -/
def recodeItems : List Json → Option (List Json)
  | [] => some []
  | item :: items => (Json.recode item).bind fun item =>
    (recodeItems items).map fun items => item :: items

/-- The same for the fields of an object. -/
def recodeFields : List (String × Json) → Option (List (String × Json))
  | [] => some []
  | (key, value) :: fields => (Json.recode value).bind fun value =>
    (recodeFields fields).map fun fields => (key, value) :: fields

end

mutual

/-- The literal of the first number out of range. -/
def Json.refused : Json → Option String
  | .number value => if (float.value value).isNone then some (float.literal value) else none
  | .array items => refusedItems items
  | .object fields => refusedFields fields
  | _ => none

/-- The same for the items of an array. -/
def refusedItems : List Json → Option String
  | [] => none
  | item :: items => (Json.refused item).or (refusedItems items)

/-- The same for the fields of an object. -/
def refusedFields : List (String × Json) → Option String
  | [] => none
  | (_, value) :: fields => (Json.refused value).or (refusedFields fields)

end

end

variable {float : FloatReader}

mutual

/-- A value is refused exactly for a number out of range. -/
theorem Json.isSome_refused (value : Json) :
    (value.refused float).isSome = (value.recode float).isNone := by
  cases value with
  | number value =>
    rw [Json.refused, Json.recode, Option.isNone_map]
    cases float.value value <;> rfl
  | array items =>
    rw [Json.refused, Json.recode, Option.isNone_map]
    exact isSome_refusedItems items
  | object fields =>
    rw [Json.refused, Json.recode, Option.isNone_map]
    exact isSome_refusedFields fields
  | null => rfl
  | bool value => rfl
  | string value => rfl

/-- The same for the items of an array. -/
theorem isSome_refusedItems (items : List Json) :
    (refusedItems float items).isSome = (recodeItems float items).isNone := by
  cases items with
  | nil => rfl
  | cons item items =>
    rw [refusedItems, recodeItems, Option.isSome_or, Json.isSome_refused item,
      isSome_refusedItems items]
    cases item.recode float with
    | none => rfl
    | some first => cases recodeItems float items <;> rfl

/-- The same for the fields of an object. -/
theorem isSome_refusedFields (fields : List (String × Json)) :
    (refusedFields float fields).isSome = (recodeFields float fields).isNone := by
  cases fields with
  | nil => rfl
  | cons field fields =>
    obtain ⟨key, value⟩ := field
    rw [refusedFields, recodeFields, Option.isSome_or, Json.isSome_refused value,
      isSome_refusedFields fields]
    cases value.recode float with
    | none => rfl
    | some first => cases recodeFields float fields <;> rfl

end

/-- Numbers as they are, without fractions when they are printed. -/
def exactReader : FloatReader where
  value := some
  literal value := toString value.num

/-- A field that was set is found, and the others are as they were. -/
theorem lookup_set (fields : Fields) (key : String) (value : Json) (other : String) :
    (fields.set key value).lookup other =
      if other = key then some value else fields.lookup other := by
  rw [Fields.set, List.lookup_cons]
  by_cases hkey : other = key
  · rw [if_pos hkey, hkey, beq_self_eq_true]
  · rw [if_neg hkey, beq_eq_false_iff_ne.mpr hkey]
    dsimp only
    induction fields with
    | nil => rfl
    | cons field fields ih =>
      by_cases hfield : field.1 = key
      · have hother : other ≠ field.1 := fun h => hkey (h.trans hfield)
        rw [List.filter_cons_of_neg (by simpa using hfield), List.lookup_cons,
          beq_eq_false_iff_ne.mpr hother]
        exact ih
      · rw [List.filter_cons_of_pos (by simpa using hfield), List.lookup_cons, List.lookup_cons, ih]

/-- A recoded object has the same keys, each with its recoded value. -/
theorem lookup_recodeFields {fields recoded : Fields}
    (h : recodeFields float fields = some recoded) (key : String) :
    recoded.lookup key = (fields.lookup key).bind (Json.recode float) := by
  induction fields generalizing recoded with
  | nil =>
    rw [recodeFields] at h
    cases h
    rfl
  | cons field fields ih =>
    rw [recodeFields] at h
    obtain ⟨value, hvalue, h⟩ := Option.bind_eq_some_iff.mp h
    obtain ⟨rest, hrest, rfl⟩ := Option.map_eq_some_iff.mp h
    rw [List.lookup_cons, List.lookup_cons, ih hrest]
    split
    · rw [Option.bind_some, hvalue]
    · rfl

/-- Every value of a recoded object was recoded. -/
theorem exists_recode_of_lookup {fields recoded : Fields}
    (h : recodeFields float fields = some recoded) {key : String} {value : Json}
    (hvalue : fields.lookup key = some value) : ∃ result, value.recode float = some result := by
  induction fields generalizing recoded with
  | nil => cases hvalue
  | cons field fields ih =>
    rw [recodeFields] at h
    obtain ⟨first, hfirst, h⟩ := Option.bind_eq_some_iff.mp h
    obtain ⟨rest, hrest, -⟩ := Option.map_eq_some_iff.mp h
    rw [List.lookup_cons] at hvalue
    split at hvalue
    · cases hvalue
      exact ⟨first, hfirst⟩
    · exact ih hrest hvalue

/-- A reader that looks into truth values and texts only reads the same from
a recoded value. -/
theorem read_recode {Reading : Type} {read : Option Json → Reading}
    (hnumber : ∀ value, read (some (.number value)) = read none)
    (harray : ∀ items, read (some (.array items)) = read none)
    (hobject : ∀ fields, read (some (.object fields)) = read none) (value : Option Json) :
    read (value.bind (Json.recode float)) = read value := by
  cases value with
  | none => rfl
  | some value =>
    rw [Option.bind_some]
    cases value with
    | null => rfl
    | bool value => rfl
    | number value =>
      rw [Json.recode, hnumber]
      cases float.value value with
      | none => rfl
      | some value => exact hnumber value
    | string value => rfl
    | array items =>
      rw [Json.recode, harray]
      cases recodeItems float items with
      | none => rfl
      | some items => exact harray items
    | object fields =>
      rw [Json.recode, hobject]
      cases recodeFields float fields with
      | none => rfl
      | some fields => exact hobject fields

/-- Truth values are not changed. -/
theorem boolOr_recode (value : Option Json) :
    Json.boolOr (value.bind (Json.recode float)) = Json.boolOr value :=
  read_recode (fun _ => rfl) (fun _ => rfl) (fun _ => rfl) value

/-- Texts are not changed. -/
theorem textOr_recode (value : Option Json) :
    Json.textOr (value.bind (Json.recode float)) = Json.textOr value :=
  read_recode (fun _ => rfl) (fun _ => rfl) (fun _ => rfl) value

/-- The fields of a recoded object are the recoded fields. -/
theorem fieldsOr_recode {value recoded : Json} (h : value.recode float = some recoded) :
    recodeFields float (Json.fieldsOr (some value)) = some (Json.fieldsOr (some recoded)) := by
  cases value with
  | null =>
    cases h
    rfl
  | bool value =>
    cases h
    rfl
  | number value =>
    rw [Json.recode] at h
    obtain ⟨result, -, rfl⟩ := Option.map_eq_some_iff.mp h
    rfl
  | string value =>
    cases h
    rfl
  | array items =>
    rw [Json.recode] at h
    obtain ⟨result, -, rfl⟩ := Option.map_eq_some_iff.mp h
    rfl
  | object fields =>
    rw [Json.recode] at h
    obtain ⟨result, hresult, rfl⟩ := Option.map_eq_some_iff.mp h
    exact hresult

end LfpPipe.JsonValues
