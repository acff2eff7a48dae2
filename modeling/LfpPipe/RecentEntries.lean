import Mathlib.Data.List.DropRight
import Mathlib.Data.List.Nodup

/-!
# Bounded windows over a growing history

A history grows at its end and a window keeps some of its entries in order, at
most a fixed number of them. Some entries are wanted; what the window promises is
that a wanted entry among the latest ones is kept. The rules say that the promise
survives when fewer entries are wanted, when unwanted entries are dropped, and
when an entry is added and the window cut to its latest ones.
-/

namespace LfpPipe.RecentEntries

variable {α : Type*}

/-- An entry among the first of a list is among the first of every list with
fewer entries that still has it. -/
theorem mem_take_of_sublist {few many : List α} (h : few.Sublist many) (hdistinct : many.Nodup)
    {x : α} (hx : x ∈ few) {n : ℕ} (htake : x ∈ many.take n) : x ∈ few.take n := by
  induction h generalizing n with
  | slnil => cases hx
  | cons a hsub ih =>
    obtain ⟨hnew, hrest⟩ := List.nodup_cons.mp hdistinct
    cases n with
    | zero => cases htake
    | succ n =>
      rcases List.mem_cons.mp htake with rfl | hlater
      · exact absurd (hsub.subset hx) hnew
      · exact List.take_subset_take_left _ (Nat.le_succ n) (ih hrest hx hlater)
  | cons_cons a hsub ih =>
    obtain ⟨hnew, hrest⟩ := List.nodup_cons.mp hdistinct
    cases n with
    | zero => cases htake
    | succ n =>
      rcases List.mem_cons.mp hx with rfl | hkept
      · exact List.mem_cons_self
      · rcases List.mem_cons.mp htake with rfl | hlater
        · exact absurd (hsub.subset hkept) hnew
        · exact List.mem_cons_of_mem _ (ih hrest hkept hlater)

/-- An entry among the last of a list is among the last of every list with
fewer entries that still has it. -/
theorem mem_rtake_of_sublist {few many : List α} (h : few.Sublist many) (hdistinct : many.Nodup)
    {x : α} (hx : x ∈ few) {n : ℕ} (hlast : x ∈ many.rtake n) : x ∈ few.rtake n := by
  rw [List.rtake_eq_reverse_take_reverse, List.mem_reverse] at hlast ⊢
  refine mem_take_of_sublist (List.reverse_sublist.mpr h) ?_ (List.mem_reverse.mpr hx) hlast
  exact List.nodup_reverse.mpr hdistinct

/-- The last entries are entries, in order. -/
theorem rtake_sublist (entries : List α) (n : ℕ) : (entries.rtake n).Sublist entries :=
  List.drop_sublist _ _

/-- There are at most as many last entries as asked for. -/
theorem length_rtake_le (entries : List α) (n : ℕ) : (entries.rtake n).length ≤ n := by
  rw [List.rtake, List.length_drop]
  omega

/-- A short list has no other entries than its last ones. -/
theorem rtake_of_length_le {entries : List α} {n : ℕ} (h : entries.length ≤ n) :
    entries.rtake n = entries := by
  rw [List.rtake, Nat.sub_eq_zero_of_le h, List.drop_zero]

/-- The window keeps entries of the history. -/
structure Window (n : ℕ) (history kept : List α) (wanted : α → Prop) : Prop where
  /-- In the order of the history. -/
  ordered : kept.Sublist history
  /-- At most as many as it may. -/
  bounded : kept.length ≤ n
  /-- With every wanted one of the latest. -/
  recent : ∀ x ∈ history.rtake n, wanted x → x ∈ kept

/-- Nothing is kept of nothing. -/
theorem window_nil (n : ℕ) (wanted : α → Prop) : Window n [] [] wanted where
  ordered := .slnil
  bounded := Nat.zero_le n
  recent := by
    intro x hx
    rw [List.rtake_nil] at hx
    cases hx

/-- Fewer entries may be wanted. -/
theorem Window.mono {n : ℕ} {history kept : List α} {wanted fewer : α → Prop}
    (h : Window n history kept wanted) (hfewer : ∀ x, fewer x → wanted x) :
    Window n history kept fewer :=
  ⟨h.ordered, h.bounded, fun x hx hwanted => h.recent x hx (hfewer x hwanted)⟩

/-- Entries that are not wanted may be dropped. -/
theorem Window.filter {n : ℕ} {history kept : List α} {wanted : α → Prop}
    (h : Window n history kept wanted) {p : α → Bool} (hp : ∀ x, wanted x → p x = true) :
    Window n history (kept.filter p) wanted where
  ordered := (List.filter_sublist (p := p)).trans h.ordered
  bounded := (List.length_filter_le p kept).trans h.bounded
  recent x hx hwanted := List.mem_filter.mpr ⟨h.recent x hx hwanted, hp x hwanted⟩

/-- An entry may be added when the window is cut to its latest ones. -/
theorem Window.push {n : ℕ} {history kept : List α} {wanted : α → Prop}
    (h : Window (n + 1) history kept wanted) {x : α} (hdistinct : (history ++ [x]).Nodup) :
    Window (n + 1) (history ++ [x]) ((kept ++ [x]).rtake (n + 1)) wanted where
  ordered := (rtake_sublist _ _).trans (h.ordered.append (List.Sublist.refl [x]))
  bounded := length_rtake_le _ _
  recent := by
    intro y hy hwanted
    have hkept : y ∈ kept ++ [x] := by
      rw [List.rtake_concat_succ] at hy
      rcases List.mem_append.mp hy with hearlier | hlast
      · have hlonger : y ∈ history.rtake (n + 1) := by
          rw [List.rtake] at hearlier ⊢
          exact List.drop_subset_drop_left _ (by omega) hearlier
        exact List.mem_append_left _ (h.recent y hlonger hwanted)
      · exact List.mem_append_right _ hlast
    exact mem_rtake_of_sublist (h.ordered.append (List.Sublist.refl [x])) hdistinct hkept hy

end LfpPipe.RecentEntries
