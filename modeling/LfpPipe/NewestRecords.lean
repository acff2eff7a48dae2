import Mathlib.Order.Lattice
import LfpPipe.OwnedTables

/-!
# Tables that keep the newest record of each key

A replica that takes a record only when its stamp is strictly newer than the
stored one holds, for every key, the newest record it has seen. What it holds
is therefore a function of the set of records and not of their order or
multiplicity, provided that key and stamp identify a record. Records may be
marked when they are stored, as long as the mark keeps the stamp.
-/

namespace LfpPipe.NewestRecords

open OwnedTables

variable {Key Stamp Record : Type*} [DecidableEq Key] [LinearOrder Stamp]

section

variable (key : Record → Key) (stamp : Record → Stamp) (mark : Record → Record)

/-- Store a record unless the stored one of its key is at least as new. -/
def keepNewest (table : Table Key Record) (record : Record) : Table Key Record :=
  match table.lookup (key record) with
  | none => table.insert (key record) (mark record)
  | some current =>
    if stamp current < stamp record then table.insert (key record) (mark record) else table

/-- The newest of some records that have a given key. -/
structure IsNewest (seen : Record → Prop) (name : Key) (record : Record) : Prop where
  /-- The record is one of them. -/
  mem : seen record
  /-- It has the key. -/
  key_eq : key record = name
  /-- None of them with the same key is newer. -/
  newest : ∀ other, seen other → key other = name → stamp other ≤ stamp record

/-- A table holds the newest record of every key, marked, and nothing else. -/
def HoldsNewest (seen : Record → Prop) (table : Table Key Record) : Prop :=
  ∀ name, match table.lookup name with
    | none => ∀ record, seen record → key record ≠ name
    | some found => ∃ record, IsNewest key stamp seen name record ∧ found = mark record

end

variable {key : Record → Key} {stamp : Record → Stamp} {mark : Record → Record}

/-- An empty table holds the newest of no records. -/
theorem holdsNewest_empty :
    HoldsNewest key stamp mark (fun _ => False) (∅ : Table Key Record) := by
  intro name
  rw [AList.lookup_empty]
  exact fun record h => h.elim

/-- The lookups of an updated table, one case for each way the update goes. -/
theorem lookup_keepNewest (table : Table Key Record) (record : Record) (name : Key) :
    (keepNewest key stamp mark table record).lookup name =
      if key record = name ∧ ∀ current, table.lookup name = some current →
          stamp current < stamp record then
        some (mark record)
      else table.lookup name := by
  rw [keepNewest]
  split
  · rename_i hnone
    by_cases hname : key record = name
    · subst hname
      have hnew : ∀ current, table.lookup (key record) = some current →
          stamp current < stamp record := by
        intro current hcurrent
        rw [hnone] at hcurrent
        cases hcurrent
      rw [if_pos ⟨rfl, hnew⟩, AList.lookup_insert]
    · rw [if_neg fun h => hname h.1, AList.lookup_insert_ne fun h => hname h.symm]
  · rename_i stored hstored
    by_cases hname : key record = name
    · subst hname
      by_cases hstamp : stamp stored < stamp record
      · have hnew : ∀ current, table.lookup (key record) = some current →
            stamp current < stamp record := by
          intro current hcurrent
          rw [hstored, Option.some.injEq] at hcurrent
          rw [←hcurrent]
          exact hstamp
        rw [if_pos hstamp, if_pos ⟨rfl, hnew⟩, AList.lookup_insert]
      · have hold : ¬ (key record = key record ∧ ∀ current,
            table.lookup (key record) = some current → stamp current < stamp record) :=
          fun h => hstamp (h.2 stored hstored)
        rw [if_neg hstamp, if_neg hold]
    · have hold : ¬ (key record = name ∧ ∀ current,
          table.lookup name = some current → stamp current < stamp record) := fun h => hname h.1
      rw [if_neg hold]
      split
      · exact AList.lookup_insert_ne fun h => hname h.symm
      · rfl

/-- One more record keeps the table at the newest of all records seen. -/
theorem holdsNewest_keepNewest (hmark : ∀ record, stamp (mark record) = stamp record)
    {seen : Record → Prop} {table : Table Key Record} (h : HoldsNewest key stamp mark seen table)
    (record : Record) :
    HoldsNewest key stamp mark (fun other => seen other ∨ other = record)
      (keepNewest key stamp mark table record) := by
  intro name
  rw [lookup_keepNewest]
  have hbefore := h name
  by_cases hname : key record = name
  · cases hlookup : table.lookup name with
    | none =>
      rw [hlookup] at hbefore
      rw [if_pos ⟨hname, fun current hcurrent => absurd hcurrent (by simp)⟩]
      refine ⟨record, ⟨.inr rfl, hname, ?_⟩, rfl⟩
      rintro other (hother | rfl) hkey
      · exact absurd hkey (hbefore other hother)
      · exact le_refl _
    | some found =>
      rw [hlookup] at hbefore
      obtain ⟨newest, hnewest, rfl⟩ := hbefore
      by_cases hstamp : stamp newest < stamp record
      · have hnew : ∀ current, some (mark newest) = some current →
            stamp current < stamp record := by
          intro current hcurrent
          rw [←Option.some.inj hcurrent, hmark]
          exact hstamp
        rw [if_pos ⟨hname, hnew⟩]
        refine ⟨record, ⟨.inr rfl, hname, ?_⟩, rfl⟩
        rintro other (hother | rfl) hkey
        · exact le_of_lt (lt_of_le_of_lt (hnewest.newest other hother hkey) hstamp)
        · exact le_refl _
      · have hold : ¬ (key record = name ∧ ∀ current, some (mark newest) = some current →
            stamp current < stamp record) := by
          rintro ⟨-, hall⟩
          have hlt := hall (mark newest) rfl
          rw [hmark] at hlt
          exact hstamp hlt
        rw [if_neg hold]
        refine ⟨newest, ⟨.inl hnewest.mem, hnewest.key_eq, ?_⟩, rfl⟩
        rintro other (hother | rfl) hkey
        · exact hnewest.newest other hother hkey
        · exact not_lt.mp hstamp
  · rw [if_neg fun hboth => hname hboth.1]
    cases hlookup : table.lookup name with
    | none =>
      rw [hlookup] at hbefore
      rintro other (hother | rfl)
      · exact hbefore other hother
      · exact hname
    | some found =>
      rw [hlookup] at hbefore
      obtain ⟨newest, hnewest, hfound⟩ := hbefore
      refine ⟨newest, ⟨.inl hnewest.mem, hnewest.key_eq, ?_⟩, hfound⟩
      rintro other (hother | rfl) hkey
      · exact hnewest.newest other hother hkey
      · exact absurd hkey hname

/-- After any sequence of records the table holds the newest of the records
seen before and of the sequence. -/
theorem holdsNewest_foldl (hmark : ∀ record, stamp (mark record) = stamp record)
    {records : List Record} {seen : Record → Prop} {table : Table Key Record}
    (h : HoldsNewest key stamp mark seen table) :
    HoldsNewest key stamp mark (fun record => seen record ∨ record ∈ records)
      (records.foldl (keepNewest key stamp mark) table) := by
  induction records generalizing seen table with
  | nil =>
    have hsame : (fun record => seen record ∨ record ∈ ([] : List Record)) = seen := by
      funext record
      simp
    rw [hsame]
    exact h
  | cons record records ih =>
    have hsame : (fun other => (seen other ∨ other = record) ∨ other ∈ records) =
        fun other => seen other ∨ other ∈ record :: records := by
      funext other
      rw [List.mem_cons, or_assoc]
    rw [List.foldl_cons, ←hsame]
    exact ih (holdsNewest_keepNewest hmark h record)

/-- Records that agree in key and stamp are the same one. -/
def Identified (key : Record → Key) (stamp : Record → Stamp) (seen : Record → Prop) : Prop :=
  ∀ left right, seen left → seen right → key left = key right → stamp left = stamp right →
    left = right

omit [DecidableEq Key] in
/-- There is at most one newest record of a key. -/
theorem IsNewest.unique {seen : Record → Prop} (hseen : Identified key stamp seen) {name : Key}
    {left right : Record} (hl : IsNewest key stamp seen name left)
    (hr : IsNewest key stamp seen name right) : left = right := by
  apply hseen left right hl.mem hr.mem (hl.key_eq.trans hr.key_eq.symm)
  exact le_antisymm (hr.newest left hl.mem hl.key_eq) (hl.newest right hr.mem hr.key_eq)

/-- What a table that holds the newest of identified records holds. -/
theorem HoldsNewest.lookup_eq_some_iff {seen : Record → Prop} (hseen : Identified key stamp seen)
    {table : Table Key Record} (h : HoldsNewest key stamp mark seen table) {name : Key}
    {found : Record} :
    table.lookup name = some found ↔
      ∃ record, IsNewest key stamp seen name record ∧ found = mark record := by
  have hname := h name
  constructor
  · intro hlookup
    rw [hlookup] at hname
    exact hname
  · rintro ⟨record, hrecord, rfl⟩
    cases hlookup : table.lookup name with
    | none =>
      rw [hlookup] at hname
      exact absurd hrecord.key_eq (hname record hrecord.mem)
    | some other =>
      rw [hlookup] at hname
      obtain ⟨newest, hnewest, rfl⟩ := hname
      rw [hnewest.unique hseen hrecord]

end LfpPipe.NewestRecords
