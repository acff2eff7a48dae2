import Mathlib.Data.Set.Lattice
import Mathlib.Order.CompletePartialOrder

/-!
# Token patterns with wildcards

A pattern is a sequence of literal tokens and single-token wildcards that
either ends or is open: an open pattern takes one or more further tokens.
Whether two patterns have a subject in common is decided by walking both at
once, over any type of tokens that has at least one.
-/

namespace LfpPipe.SubjectPatterns

variable {α : Type*}

/-- A pattern over tokens. -/
inductive Pattern (α : Type*) where
  /-- Nothing follows. -/
  | done
  /-- One or more tokens follow, whichever they are. -/
  | rest
  /-- One token, whichever it is. -/
  | one (next : Pattern α)
  /-- Exactly this token. -/
  | literal (token : α) (next : Pattern α)
  deriving DecidableEq

namespace Pattern

/-- The subjects of a pattern. -/
def Matches : Pattern α → List α → Prop
  | done, s => s = []
  | rest, s => s ≠ []
  | one next, s => ∃ x xs, s = x :: xs ∧ next.Matches xs
  | literal token next, s => ∃ xs, s = token :: xs ∧ next.Matches xs

/-- Walk two patterns at once and stop at the first open one. -/
def overlaps [DecidableEq α] : Pattern α → Pattern α → Bool
  | done, done => true
  | done, _ => false
  | _, done => false
  | rest, _ => true
  | _, rest => true
  | one p, one q => p.overlaps q
  | one p, literal _ q => p.overlaps q
  | literal _ p, one q => p.overlaps q
  | literal t p, literal u q => decide (t = u) && p.overlaps q

/-- Walk a pattern along a subject. -/
def accepts [DecidableEq α] : Pattern α → List α → Bool
  | done, [] => true
  | rest, _ :: _ => true
  | one next, _ :: xs => next.accepts xs
  | literal token next, x :: xs => decide (token = x) && next.accepts xs
  | _, _ => false

/-- The pattern of a list of literal tokens. -/
def literals : List α → Pattern α
  | [] => done
  | token :: tokens => literal token (literals tokens)

/-- The walk accepts exactly the subjects of the pattern. -/
theorem accepts_iff [DecidableEq α] (p : Pattern α) (s : List α) :
    p.accepts s = true ↔ p.Matches s := by
  induction p generalizing s with
  | done => cases s <;> simp [accepts, Matches]
  | rest => cases s <;> simp [accepts, Matches]
  | one next ih => cases s <;> simp [accepts, Matches, ih]
  | literal token next ih =>
    cases s with
    | nil => simp [accepts, Matches]
    | cons x xs =>
      rw [accepts, Bool.and_eq_true, decide_eq_true_eq, ih, Matches]
      constructor
      · rintro ⟨rfl, hrest⟩
        exact ⟨xs, rfl, hrest⟩
      · rintro ⟨ys, hcons, hrest⟩
        cases hcons
        exact ⟨rfl, hrest⟩

/-- A pattern of literal tokens has one subject. -/
theorem literals_matches_iff {tokens s : List α} : (literals tokens).Matches s ↔ s = tokens := by
  induction tokens generalizing s with
  | nil => rfl
  | cons token tokens ih =>
    rw [literals, Matches]
    constructor
    · rintro ⟨xs, rfl, hrest⟩
      rw [ih.mp hrest]
    · rintro rfl
      exact ⟨tokens, rfl, ih.mpr rfl⟩

/-- Every pattern has a subject, and one that is not at its end a nonempty one. -/
theorem exists_matches [Inhabited α] (p : Pattern α) :
    ∃ s, p.Matches s ∧ (p ≠ done → s ≠ []) := by
  induction p with
  | done => exact ⟨[], rfl, fun h => absurd rfl h⟩
  | rest => exact ⟨[default], List.cons_ne_nil _ _, fun _ => List.cons_ne_nil _ _⟩
  | one next ih =>
    obtain ⟨s, hs, -⟩ := ih
    exact ⟨default :: s, ⟨default, s, rfl, hs⟩, fun _ => List.cons_ne_nil _ _⟩
  | literal token next ih =>
    obtain ⟨s, hs, -⟩ := ih
    exact ⟨token :: s, ⟨s, rfl, hs⟩, fun _ => List.cons_ne_nil _ _⟩

/-- An open pattern meets every pattern that is not at its end. -/
theorem exists_rest_matches [Inhabited α] {p : Pattern α} (h : p ≠ done) :
    ∃ s, (rest : Pattern α).Matches s ∧ p.Matches s := by
  obtain ⟨s, hs, hne⟩ := exists_matches p
  exact ⟨s, hne h, hs⟩

/-- The walk finds exactly the pairs of patterns with a common subject. -/
theorem overlaps_iff [DecidableEq α] [Inhabited α] (p q : Pattern α) :
    p.overlaps q = true ↔ ∃ s, p.Matches s ∧ q.Matches s := by
  induction p generalizing q with
  | done =>
    cases q with
    | done => exact ⟨fun _ => ⟨[], rfl, rfl⟩, fun _ => rfl⟩
    | rest => exact ⟨nofun, fun ⟨s, hp, hq⟩ => absurd hp hq⟩
    | one q => exact ⟨nofun, fun ⟨s, hp, x, xs, hq, _⟩ => absurd (hp.symm.trans hq) (by simp)⟩
    | literal u q => exact ⟨nofun, fun ⟨s, hp, xs, hq, _⟩ => absurd (hp.symm.trans hq) (by simp)⟩
  | rest =>
    cases q with
    | done => exact ⟨nofun, fun ⟨s, hp, hq⟩ => absurd hq hp⟩
    | rest => exact ⟨fun _ => exists_rest_matches nofun, fun _ => rfl⟩
    | one q => exact ⟨fun _ => exists_rest_matches nofun, fun _ => rfl⟩
    | literal u q => exact ⟨fun _ => exists_rest_matches nofun, fun _ => rfl⟩
  | one p ih =>
    cases q with
    | done => exact ⟨nofun, fun ⟨s, ⟨x, xs, hp, _⟩, hq⟩ => absurd (hq.symm.trans hp) (by simp)⟩
    | rest =>
      obtain ⟨s, hr, hp⟩ := exists_rest_matches (p := one p) nofun
      exact ⟨fun _ => ⟨s, hp, hr⟩, fun _ => rfl⟩
    | one q =>
      rw [overlaps, ih]
      constructor
      · rintro ⟨s, hp, hq⟩
        exact ⟨default :: s, ⟨default, s, rfl, hp⟩, ⟨default, s, rfl, hq⟩⟩
      · rintro ⟨s, ⟨x, xs, rfl, hp⟩, ⟨y, ys, hy, hq⟩⟩
        cases hy
        exact ⟨xs, hp, hq⟩
    | literal u q =>
      rw [overlaps, ih]
      constructor
      · rintro ⟨s, hp, hq⟩
        exact ⟨u :: s, ⟨u, s, rfl, hp⟩, ⟨s, rfl, hq⟩⟩
      · rintro ⟨s, ⟨x, xs, rfl, hp⟩, ⟨ys, hy, hq⟩⟩
        cases hy
        exact ⟨xs, hp, hq⟩
  | literal t p ih =>
    cases q with
    | done => exact ⟨nofun, fun ⟨s, ⟨xs, hp, _⟩, hq⟩ => absurd (hq.symm.trans hp) (by simp)⟩
    | rest =>
      obtain ⟨s, hr, hp⟩ := exists_rest_matches (p := literal t p) nofun
      exact ⟨fun _ => ⟨s, hp, hr⟩, fun _ => rfl⟩
    | one q =>
      rw [overlaps, ih]
      constructor
      · rintro ⟨s, hp, hq⟩
        exact ⟨t :: s, ⟨s, rfl, hp⟩, ⟨t, s, rfl, hq⟩⟩
      · rintro ⟨s, ⟨xs, rfl, hp⟩, ⟨y, ys, hy, hq⟩⟩
        cases hy
        exact ⟨xs, hp, hq⟩
    | literal u q =>
      rw [overlaps, Bool.and_eq_true, decide_eq_true_eq, ih]
      constructor
      · rintro ⟨htu, s, hp, hq⟩
        exact ⟨t :: s, ⟨s, rfl, hp⟩, ⟨s, htu ▸ rfl, hq⟩⟩
      · rintro ⟨s, ⟨xs, rfl, hp⟩, ⟨ys, hy, hq⟩⟩
        cases hy
        exact ⟨rfl, xs, hp, hq⟩

/-- Overlapping is symmetric. -/
theorem overlaps_comm [DecidableEq α] [Inhabited α] (p q : Pattern α) :
    p.overlaps q = q.overlaps p := by
  rw [Bool.eq_iff_iff, overlaps_iff, overlaps_iff]
  constructor
  · rintro ⟨s, hp, hq⟩
    exact ⟨s, hq, hp⟩
  · rintro ⟨s, hq, hp⟩
    exact ⟨s, hp, hq⟩

/-- Literal patterns meet only when they are equal. -/
theorem literals_overlaps_iff [DecidableEq α] (left right : List α) :
    (literals left).overlaps (literals right) = true ↔ left = right := by
  induction left generalizing right with
  | nil =>
    cases right with
    | nil => exact ⟨fun _ => rfl, fun _ => rfl⟩
    | cons u right => exact ⟨nofun, nofun⟩
  | cons t left ih =>
    cases right with
    | nil => exact ⟨nofun, nofun⟩
    | cons u right =>
      rw [literals, literals, overlaps, Bool.and_eq_true, decide_eq_true_eq, ih, List.cons.injEq]

end Pattern

/-- Two families of patterns have disjoint subjects exactly when no two members overlap. -/
theorem disjoint_iff_not_overlaps [DecidableEq α] [Inhabited α] (P Q : Set (Pattern α)) :
    Disjoint {s | ∃ p ∈ P, p.Matches s} {s | ∃ q ∈ Q, q.Matches s} ↔
      ∀ p ∈ P, ∀ q ∈ Q, p.overlaps q = false := by
  rw [Set.disjoint_left]
  constructor
  · intro h p hp q hq
    rw [Bool.eq_false_iff]
    intro hover
    obtain ⟨s, hps, hqs⟩ := (Pattern.overlaps_iff p q).mp hover
    exact h ⟨p, hp, hps⟩ ⟨q, hq, hqs⟩
  · rintro h s ⟨p, hp, hps⟩ ⟨q, hq, hqs⟩
    have hover := (Pattern.overlaps_iff p q).mpr ⟨s, hps, hqs⟩
    rw [h p hp q hq] at hover
    cases hover

end LfpPipe.SubjectPatterns
