import Mathlib.Data.List.Basic

/-!
# First-defined resolution over layers of settings

A setting is looked up in layers of decreasing precedence. The relation
below says which layer supplies the value without naming a search; the
usual search is its only solution.
-/

namespace LfpPipe.LayeredSettings

variable {Layer Value : Type*}

/-- The value of the first layer that defines the setting, or nothing when
no layer does. -/
inductive FirstDefined (get : Layer → Option Value) : List Layer → Option Value → Prop where
  /-- No layer defines the setting. -/
  | absent {layers : List Layer} (h : ∀ layer ∈ layers, get layer = none) :
    FirstDefined get layers none
  /-- A layer defines it and no layer of higher precedence does. -/
  | found {higher lower : List Layer} {layer : Layer} {value : Value}
    (hh : ∀ other ∈ higher, get other = none) (hv : get layer = some value) :
    FirstDefined get (higher ++ layer :: lower) (some value)

/-- Searching from the highest precedence finds the first definition. -/
theorem firstDefined_findSome? (get : Layer → Option Value) (layers : List Layer) :
    FirstDefined get layers (layers.findSome? get) := by
  cases h : layers.findSome? get with
  | none => exact .absent (List.findSome?_eq_none_iff.mp h)
  | some value =>
    obtain ⟨higher, layer, lower, rfl, hv, hh⟩ := List.findSome?_eq_some_iff.mp h
    exact .found hh hv

/-- Layers determine the resolved value. -/
theorem FirstDefined.eq_findSome? {get : Layer → Option Value} {layers : List Layer}
    {value : Option Value} (h : FirstDefined get layers value) :
    value = layers.findSome? get := by
  cases h with
  | absent h => exact (List.findSome?_eq_none_iff.mpr h).symm
  | found hh hv => exact (List.findSome?_eq_some_iff.mpr ⟨_, _, _, rfl, hv, hh⟩).symm

/-- The relation and the search agree. -/
theorem firstDefined_iff {get : Layer → Option Value} {layers : List Layer}
    {value : Option Value} : FirstDefined get layers value ↔ value = layers.findSome? get := by
  constructor
  · exact FirstDefined.eq_findSome?
  · intro h
    rw [h]
    exact firstDefined_findSome? get layers

/-- The first definition, or a default when no layer has one. -/
def DefinedOr (get : Layer → Option Value) (layers : List Layer) (fallback value : Value) : Prop :=
  ∃ found, FirstDefined get layers found ∧ value = found.getD fallback

/-- A defaulted setting is the search with that default. -/
theorem definedOr_iff {get : Layer → Option Value} {layers : List Layer}
    {fallback value : Value} :
    DefinedOr get layers fallback value ↔ value = (layers.findSome? get).getD fallback := by
  constructor
  · rintro ⟨found, hf, rfl⟩
    rw [hf.eq_findSome?]
  · intro h
    exact ⟨_, firstDefined_findSome? get layers, h⟩

/-- The search looks at the highest layer first. -/
theorem findSome?_cons_or (get : Layer → Option Value) (layer : Layer) (layers : List Layer) :
    (layer :: layers).findSome? get = (get layer).or (layers.findSome? get) := by
  rw [List.findSome?_cons]
  cases get layer <;> rfl

/-- Missing layers define nothing. -/
theorem findSome?_filterMap_id (get : Layer → Option Value) (layers : List (Option Layer)) :
    (layers.filterMap id).findSome? get = layers.findSome? fun layer => layer.bind get := by
  induction layers with
  | nil => rfl
  | cons layer layers ih =>
    rw [findSome?_cons_or]
    cases layer with
    | none =>
      rw [List.filterMap_cons_none rfl, ih]
      rfl
    | some layer =>
      have hcons : (some layer :: layers).filterMap id = layer :: layers.filterMap id := rfl
      rw [hcons, findSome?_cons_or, ih]
      rfl

end LfpPipe.LayeredSettings
