import Mathlib.Data.Seq.Basic

/-!
# Classifying a stream from reads of arbitrary size

A reader collects a stream into a growing buffer and asks after every read
whether the buffer already decides. The stream is finite or endless; how
many elements each read delivers is an arbitrary schedule. A classifier
whose decisions survive extension and which decides every full buffer
answers the same for every schedule: its answer on the longest admissible
beginning of the stream.
-/

namespace LfpPipe.ChunkedReads

open Stream'

variable {α V : Type*}

/-- Taking in two steps continues from the dropped sequence. -/
theorem take_add (s : Seq α) (m n : ℕ) : s.take (m + n) = s.take m ++ (s.drop m).take n := by
  induction m generalizing s with
  | zero => rw [Nat.zero_add, Seq.take_zero, Seq.drop_zero, List.nil_append]
  | succ m ih =>
    cases s with
    | nil => rw [Seq.drop_nil, Seq.take_nil, Seq.take_nil, Seq.take_nil, List.append_nil]
    | cons x s =>
      have he : m + 1 + n = m + n + 1 := by omega
      rw [he, Seq.take_succ_cons, Seq.take_succ_cons, Seq.drop_succ_cons, ih, List.cons_append]

/-- The taken beginning followed by the dropped rest is the sequence. -/
theorem append_take_drop (s : Seq α) (n : ℕ) :
    Seq.append (Seq.ofList (s.take n)) (s.drop n) = s := by
  induction n generalizing s with
  | zero => rw [Seq.take_zero, Seq.ofList_nil, Seq.nil_append, Seq.drop_zero]
  | succ n ih =>
    cases s with
    | nil => rw [Seq.take_nil, Seq.drop_nil, Seq.ofList_nil, Seq.nil_append]
    | cons x s =>
      rw [Seq.take_succ_cons, Seq.drop_succ_cons, Seq.ofList_cons, Seq.cons_append, ih]

/-- A read that asks for something and gets nothing is at the end. -/
theorem eq_nil_of_take_eq_nil {s : Seq α} {n : ℕ} (hn : 0 < n) (h : s.take n = []) :
    s = Seq.nil := by
  cases s with
  | nil => rfl
  | cons x s =>
    obtain ⟨k, rfl⟩ := Nat.exists_eq_succ_of_ne_zero hn.ne'
    rw [Nat.succ_eq_add_one, Seq.take_succ_cons] at h
    cases h

/-- One read request: how much was buffered and how much was asked for. -/
structure ReadCall where
  /-- Buffered elements before the read. -/
  filled : ℕ
  /-- Size of the slice handed to the read. -/
  requested : ℕ
  deriving DecidableEq

/-- What a finished reader knows: its answer, everything it consumed, the
unread rest of the stream and every read it issued. -/
structure Report (α V : Type*) where
  /-- Answer of the classifier, or the answer for a closed stream. -/
  verdict : V
  /-- Everything consumed, in stream order. -/
  buffer : List α
  /-- The stream after the consumed beginning. -/
  rest : Seq α
  /-- All read requests, in order. -/
  calls : List ReadCall

/-- A read delivers some elements of the rest, at most the requested number
and at least one unless the stream is closed or nothing was requested. -/
def readChunk (delivered requested : ℕ) (rest : Seq α) : List α :=
  rest.take (min requested (max 1 delivered))

/-- Read, stop on an empty read, otherwise extend the buffer and ask the
classifier. The buffer never exceeds the limit because a request is capped
by the space that is left. No report means the fuel was too small. -/
def readLoop (classify : List α → Option V) (closed : V) (limit size : ℕ)
    (delivered : ℕ → ℕ) : ℕ → List α → Seq α → List ReadCall → Option (Report α V)
  | 0, _, _, _ => none
  | fuel + 1, buffer, rest, calls =>
    let requested := min size (limit - buffer.length)
    let chunk := readChunk (delivered calls.length) requested rest
    let calls' := calls ++ [⟨buffer.length, requested⟩]
    if chunk.length = 0 then some ⟨closed, buffer, rest, calls'⟩
    else
      let buffer' := buffer ++ chunk
      let rest' := rest.drop chunk.length
      match classify buffer' with
      | some verdict => some ⟨verdict, buffer', rest', calls'⟩
      | none => readLoop classify closed limit size delivered fuel buffer' rest' calls'

/-- The classifier decides nothing on no input, keeps each decision on every
admissible extension and decides every buffer of the limit size. -/
structure Incremental (classify : List α → Option V) (limit : ℕ) : Prop where
  /-- The empty buffer is undecided. -/
  empty : classify [] = none
  /-- A decision survives more input. -/
  stable : ∀ buffer more verdict, classify buffer = some verdict →
    (buffer ++ more).length ≤ limit → classify (buffer ++ more) = some verdict
  /-- A full buffer is decided. -/
  full : ∀ buffer, buffer.length = limit → (classify buffer).isSome

/-- The answer on the longest admissible beginning of the whole stream. -/
def oneShot (classify : List α → Option V) (closed : V) (limit : ℕ) (s : Seq α) : V :=
  (classify (s.take limit)).getD closed

/-- What holds of a report whatever the reads delivered. -/
structure Faithful (size limit : ℕ) (s : Seq α) (verdict : V) (report : Report α V) : Prop where
  /-- The answer is the expected one. -/
  verdict_eq : report.verdict = verdict
  /-- Consumed input followed by the rest is the stream. -/
  replay : Seq.append (Seq.ofList report.buffer) report.rest = s
  /-- At most the limit is consumed. -/
  bounded : report.buffer.length ≤ limit
  /-- Every request stays inside the limit and asks for something. -/
  requests : ∀ call ∈ report.calls,
    call.filled < limit ∧ 0 < call.requested ∧ call.requested ≤ size

/-- Decisions on any consumed beginning are the one-shot answer. -/
theorem Incremental.verdict_of_take {classify : List α → Option V} {limit n : ℕ}
    (h : Incremental classify limit) (closed : V) (s : Seq α) {verdict : V} (hn : n ≤ limit)
    (hc : classify (s.take n) = some verdict) : oneShot classify closed limit s = verdict := by
  obtain ⟨k, rfl⟩ := Nat.exists_eq_add_of_le hn
  have hlen : (s.take n ++ (s.drop n).take k).length ≤ n + k := by
    rw [← take_add]
    exact Seq.length_take_le
  have hs := h.stable _ _ _ hc hlen
  rw [oneShot, take_add, hs, Option.getD_some]

/-- A read of an open stream delivers between one and the requested number. -/
theorem readChunk_length (delivered : ℕ) {requested : ℕ} (rest : Seq α) (hr : 0 < requested) :
    (readChunk delivered requested rest).length ≤ requested ∧
      ((readChunk delivered requested rest).length = 0 → rest = Seq.nil) := by
  constructor
  · have hlen := Seq.length_take_le (s := rest) (n := min requested (max 1 delivered))
    unfold readChunk
    omega
  · intro hz
    exact eq_nil_of_take_eq_nil (by omega) (List.length_eq_zero_iff.mp hz)

/-- A shorter take that did not run out has its full length, so a chunk is
recovered by taking its own length. -/
theorem take_length_take (s : Seq α) (n : ℕ) : s.take (s.take n).length = s.take n := by
  apply List.ext_getElem?
  intro i
  have hlen : (s.take n).length ≤ n := Seq.length_take_le
  rw [Seq.getElem?_take]
  by_cases hi : i < (s.take n).length
  · rw [if_pos hi, Seq.getElem?_take, if_pos (by omega)]
  · rw [if_neg hi, List.getElem?_eq_none (by omega)]

/-- The loop invariant: an undecided consumed beginning of the stream with
room left and enough fuel ends in a faithful report, whatever is delivered. -/
theorem readLoop_faithful {classify : List α → Option V} {limit size : ℕ}
    (h : Incremental classify limit) (hsize : 0 < size) (closed : V) (delivered : ℕ → ℕ)
    (s : Seq α) (fuel : ℕ) (buffer : List α) (calls : List ReadCall)
    (hbuf : s.take buffer.length = buffer) (hopen : classify buffer = none)
    (hroom : buffer.length < limit) (hfuel : limit < buffer.length + fuel)
    (hcalls : ∀ call ∈ calls,
      call.filled < limit ∧ 0 < call.requested ∧ call.requested ≤ size) :
    ∃ report, readLoop classify closed limit size delivered fuel buffer
        (s.drop buffer.length) calls = some report ∧
      Faithful size limit s (oneShot classify closed limit s) report := by
  induction fuel generalizing buffer calls with
  | zero => omega
  | succ fuel ih =>
    have hreq : 0 < min size (limit - buffer.length) := by omega
    have hcalls' : ∀ call ∈ calls ++ [⟨buffer.length, min size (limit - buffer.length)⟩],
        call.filled < limit ∧ 0 < call.requested ∧ call.requested ≤ size := by
      intro call hc
      rcases List.mem_append.mp hc with hc | hc
      · exact hcalls call hc
      · rw [List.mem_singleton] at hc
        subst hc
        exact ⟨hroom, hreq, Nat.min_le_left _ _⟩
    generalize hchunk : readChunk (delivered calls.length) (min size (limit - buffer.length))
      (s.drop buffer.length) = chunk
    have hlen := readChunk_length (delivered calls.length)
      (s.drop buffer.length) hreq
    rw [hchunk] at hlen
    have htake : (s.drop buffer.length).take chunk.length = chunk := by
      rw [← hchunk]
      exact take_length_take _ _
    have hnext : s.take (buffer ++ chunk).length = buffer ++ chunk := by
      rw [List.length_append, take_add, hbuf, htake]
    rw [readLoop]
    dsimp only
    rw [hchunk]
    by_cases hz : chunk.length = 0
    · rw [if_pos hz]
      refine ⟨_, rfl, ?_⟩
      have hend := hlen.2 hz
      have hall : s.take limit = buffer := by
        have he : limit = buffer.length + (limit - buffer.length) := by omega
        rw [he, take_add, hbuf, hend, Seq.take_nil, List.append_nil]
      refine ⟨?_, ?_, hroom.le, hcalls'⟩
      · rw [oneShot, hall, hopen, Option.getD_none]
      · have hreplay := append_take_drop s buffer.length
        rwa [hbuf] at hreplay
    · rw [if_neg hz]
      have hle : (buffer ++ chunk).length ≤ limit := by
        rw [List.length_append]
        omega
      have hdrop : (s.drop buffer.length).drop chunk.length = s.drop (buffer ++ chunk).length := by
        rw [List.length_append, Seq.dropn_add]
      rw [hdrop]
      cases hc : classify (buffer ++ chunk) with
      | some verdict =>
        refine ⟨_, rfl, ?_, ?_, hle, hcalls'⟩
        · exact (h.verdict_of_take closed s hle (by rw [hnext, hc])).symm
        · have hreplay := append_take_drop s (buffer ++ chunk).length
          rwa [hnext] at hreplay
      | none =>
        have hne : (buffer ++ chunk).length ≠ limit := by
          intro hfull
          have hsome := h.full _ hfull
          rw [hc] at hsome
          cases hsome
        apply ih (buffer ++ chunk) _ hnext hc (by omega) ?_ hcalls'
        rw [List.length_append]
        omega

/-- Reading a whole stream from its beginning is independent of how it is
delivered, and gives a faithful report. -/
theorem readLoop_start {classify : List α → Option V} {limit size : ℕ}
    (h : Incremental classify limit) (hsize : 0 < size) (closed : V) (delivered : ℕ → ℕ)
    (s : Seq α) : ∃ report,
      readLoop classify closed limit size delivered (limit + 1) [] s [] = some report ∧
        Faithful size limit s (oneShot classify closed limit s) report := by
  have hlimit : 0 < limit := by
    rcases Nat.eq_zero_or_pos limit with hz | hp
    · have hsome := h.full [] hz.symm
      rw [h.empty] at hsome
      cases hsome
    · exact hp
  exact readLoop_faithful h hsize closed delivered s (limit + 1) [] [] Seq.take_zero h.empty hlimit
    (by rw [List.length_nil]; omega) (by simp)

end LfpPipe.ChunkedReads
