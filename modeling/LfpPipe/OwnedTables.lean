import Mathlib.Data.List.AList

/-!
# Tables whose values own resources

A table of running tasks or stored entries owns, through each of its entries,
some resources. How often a resource is owned is a number, so that moving a
value between tables is arithmetic: what one table loses another one gains.
-/

namespace LfpPipe.OwnedTables

variable {Name Value Resource : Type*} [DecidableEq Name] [DecidableEq Resource]

/-- A finite table with one value for each name. -/
abbrev Table (Name Value : Type*) := AList fun _ : Name => Value

/-- How often the entries of a table own a resource. -/
def owned (resources : Name → Value → List Resource) (table : Table Name Value)
    (resource : Resource) : ℕ :=
  (table.entries.flatMap fun entry => resources entry.1 entry.2).count resource

omit [DecidableEq Name] in
/-- An empty table owns nothing. -/
@[simp] theorem owned_empty (resources : Name → Value → List Resource) (resource : Resource) :
    owned resources (∅ : Table Name Value) resource = 0 := rfl

/-- Taking a value out of a table takes exactly its resources. -/
theorem owned_erase {table : Table Name Value} {name : Name} {value : Value}
    (h : table.lookup name = some value) (resources : Name → Value → List Resource)
    (resource : Resource) :
    owned resources table resource =
      (resources name value).count resource + owned resources (table.erase name) resource := by
  have hmem : name ∈ table.entries.keys := by
    rw [←AList.keys, ←AList.mem_keys, ←AList.lookup_isSome, h]
    rfl
  obtain ⟨found, before, after, hnot, hentries, herase⟩ := List.exists_of_kerase hmem
  have hfound : found = value := by
    have hlookup : table.entries.dlookup name = some found := by
      rw [hentries, List.dlookup_append, List.dlookup_eq_none.mpr hnot, List.dlookup_cons_eq]
      rfl
    have hsame : some found = some value := hlookup.symm.trans h
    exact Option.some.inj hsame
  subst hfound
  unfold owned
  rw [show (table.erase name).entries = before ++ after from herase, hentries]
  simp only [List.flatMap_append, List.flatMap_cons, List.count_append]
  omega

/-- Storing a value replaces what the name owned before. -/
theorem owned_insert (table : Table Name Value) (name : Name) (value : Value)
    (resources : Name → Value → List Resource) (resource : Resource) :
    owned resources (table.insert name value) resource =
      (resources name value).count resource + owned resources (table.erase name) resource := by
  unfold owned
  rw [AList.entries_insert, List.flatMap_cons, List.count_append]
  rfl

/-- Storing under a new name adds the resources of the value. -/
theorem owned_insert_new {table : Table Name Value} {name : Name} (h : table.lookup name = none)
    (value : Value) (resources : Name → Value → List Resource) (resource : Resource) :
    owned resources (table.insert name value) resource =
      (resources name value).count resource + owned resources table resource := by
  rw [owned, AList.entries_insert_of_notMem (AList.lookup_eq_none.mp h), List.flatMap_cons,
    List.count_append]
  rfl

omit [DecidableEq Resource] in
/-- What is left after dropping a name was there before. -/
theorem lookup_of_erase {table : Table Name Value} {name other : Name} {value : Value}
    (h : (table.erase name).lookup other = some value) :
    other ≠ name ∧ table.lookup other = some value := by
  by_cases heq : other = name
  · subst heq
    rw [AList.lookup_erase] at h
    cases h
  · rw [AList.lookup_erase_ne heq] at h
    exact ⟨heq, h⟩

omit [DecidableEq Resource] in
/-- What is stored after an insertion is the new value or was there before. -/
theorem lookup_of_insert {table : Table Name Value} {name other : Name} {value found : Value}
    (h : (table.insert name value).lookup other = some found) :
    other = name ∧ found = value ∨ other ≠ name ∧ table.lookup other = some found := by
  by_cases heq : other = name
  · subst heq
    rw [AList.lookup_insert, Option.some.injEq] at h
    exact .inl ⟨rfl, h.symm⟩
  · rw [AList.lookup_insert_ne heq] at h
    exact .inr ⟨heq, h⟩

/-- A table never owns more after a name is dropped. -/
theorem owned_erase_le (table : Table Name Value) (name : Name)
    (resources : Name → Value → List Resource) (resource : Resource) :
    owned resources (table.erase name) resource ≤ owned resources table resource := by
  cases h : table.lookup name with
  | none =>
    have hnot : name ∉ table.entries.keys := fun hm =>
      AList.lookup_eq_none.mp h (AList.mem_keys.mpr hm)
    have hsame : (table.erase name).entries = table.entries := List.kerase_of_notMem_keys hnot
    unfold owned
    rw [hsame]
  | some value =>
    rw [owned_erase h]
    omega

/-- A stored value owns its resources. -/
theorem owned_pos {table : Table Name Value} {name : Name} {value : Value}
    (h : table.lookup name = some value) {resources : Name → Value → List Resource}
    {resource : Resource} (hm : resource ∈ resources name value) :
    0 < owned resources table resource := by
  have hcount := List.count_pos_iff.mpr hm
  rw [owned_erase h]
  omega

/-- An owned resource belongs to a stored value. -/
theorem exists_of_owned_pos {table : Table Name Value} {resources : Name → Value → List Resource}
    {resource : Resource} (h : 0 < owned resources table resource) :
    ∃ name value, table.lookup name = some value ∧ resource ∈ resources name value := by
  unfold owned at h
  rw [List.count_pos_iff, List.mem_flatMap] at h
  obtain ⟨entry, hentry, hm⟩ := h
  exact ⟨entry.1, entry.2, AList.mem_lookup_iff.mpr hentry, hm⟩

/-- How many entries a table has. -/
def size (table : Table Name Value) : ℕ := table.entries.length

omit [DecidableEq Name] in
/-- An empty table has no entries. -/
@[simp] theorem size_empty : size (∅ : Table Name Value) = 0 := rfl

omit [DecidableEq Name] in
/-- Entries are counted like a resource that each of them owns once. -/
theorem size_eq_owned (table : Table Name Value) :
    size table = owned (fun _ _ => [()]) table () := by
  unfold size owned
  induction table.entries with
  | nil => rfl
  | cons entry entries ih =>
    rw [List.flatMap_cons, List.count_append, List.length_cons, ih, List.count_singleton_self]
    omega

/-- Taking a value out removes one entry. -/
theorem size_erase {table : Table Name Value} {name : Name} {value : Value}
    (h : table.lookup name = some value) : size table = size (table.erase name) + 1 := by
  rw [size_eq_owned, size_eq_owned, owned_erase h, List.count_singleton_self]
  omega

/-- Storing under a new name adds one entry. -/
theorem size_insert_new {table : Table Name Value} {name : Name} (h : table.lookup name = none)
    (value : Value) : size (table.insert name value) = size table + 1 := by
  rw [size_eq_owned, size_eq_owned, owned_insert_new h, List.count_singleton_self]
  omega

/-- Replacing a value keeps the number of entries. -/
theorem size_insert {table : Table Name Value} {name : Name} {value : Value}
    (h : table.lookup name = some value) (other : Value) :
    size (table.insert name other) = size table := by
  rw [size_eq_owned, size_eq_owned, owned_insert, owned_erase h]

/-- Every resource is in at most one place, and unused ones are nowhere. -/
def PlacedOnce (places : Resource → ℕ) (used : Resource → Prop) : Prop :=
  ∀ resource, places resource ≤ 1 ∧ (¬ used resource → places resource = 0)

omit [DecidableEq Resource] in
/-- Fewer places and more used resources keep it so. -/
theorem PlacedOnce.shrink {places fewer : Resource → ℕ} {used more : Resource → Prop}
    (h : PlacedOnce places used) (hle : ∀ resource, fewer resource ≤ places resource)
    (hused : ∀ resource, used resource → more resource) : PlacedOnce fewer more := by
  intro resource
  obtain ⟨hone, hnone⟩ := h resource
  have hfewer := hle resource
  refine ⟨by omega, ?_⟩
  intro hnot
  have hzero := hnone fun hu => hnot (hused resource hu)
  omega

/-- One more place for an unused resource, which is used from now on, keeps
it so. -/
theorem PlacedOnce.grow {places grown : Resource → ℕ} {used more : Resource → Prop}
    (h : PlacedOnce places used) {fresh : Resource} (hfresh : ¬ used fresh)
    (hle : ∀ resource, grown resource ≤ [fresh].count resource + places resource)
    (hused : ∀ resource, used resource → more resource) (hnow : more fresh) :
    PlacedOnce grown more := by
  intro resource
  obtain ⟨hone, hnone⟩ := h resource
  have hgrown := hle resource
  by_cases heq : fresh = resource
  · subst heq
    have hzero := hnone hfresh
    rw [List.count_singleton_self] at hgrown
    exact ⟨by omega, fun hnot => absurd hnow hnot⟩
  · have hother : [fresh].count resource = 0 := by
      rw [List.count_eq_zero, List.mem_singleton]
      exact Ne.symm heq
    refine ⟨by omega, ?_⟩
    intro hnot
    have hzero := hnone fun hu => hnot (hused resource hu)
    omega

end LfpPipe.OwnedTables
