import LfpPipe.RouteAuth
import LfpPipe.SubjectRouting

/-!
# One subject for a hostname on both sides

The control plane names a request subject when it issues a ticket, the
ingress when it publishes a request. Both reverse the labels of the
hostname, after normalizations of their own: the control plane removes one
trailing dot and maps through IDNA, the ingress removes every trailing dot
and folds ASCII case. On normalized hostnames and their spellings the two
agree, and the subject determines the hostname.
-/

namespace LfpPipe.SubjectAgreement

open RustText GoText RouteAuth SharedRouting SubjectRouting

variable {table : LowerTable} {idna : Idna}

/-- The subject of a hostname that normalizes. -/
theorem subject_eq {subjectPrefix x r : String} (h : normalizeHostname table idna x = .ok r) :
    subject table idna subjectPrefix x = .ok (trimSuffix subjectPrefix "." ++ "." ++
      String.intercalate "." (split '.' r).reverse) := by
  rw [subject, h]

/-- Removing every trailing dot gives back a text that does not end with one. -/
theorem trimEndMatches_append_dots {base : String} (k : ℕ)
    (h : base.toList.getLast? ≠ some '.') :
    trimEndMatches '.' (base ++ String.ofList (List.replicate k '.')) = base := by
  have hbase := trimEndMatches_of_getLast_ne h
  rw [trimEndMatches, dropEndWhile] at hbase ⊢
  rw [String.toList_append, String.toList_ofList, List.reverse_append, List.reverse_replicate]
  have hdots : (List.replicate k '.' ++ base.toList.reverse).dropWhile (· == '.') =
      base.toList.reverse.dropWhile (· == '.') := by
    induction k with
    | zero => rfl
    | succ k ih =>
      rw [List.replicate_succ, List.cons_append, List.dropWhile_cons_of_pos, ih]
      rfl
  rw [hdots, hbase]

/-- The labels of every spelling of a normalized hostname are its own. -/
theorem hostnameLabels_spelling {r base : String} (k : ℕ) (h : Normalized idna r)
    (hcase : eqIgnoreAsciiCase base r = true) :
    hostnameLabels (base ++ String.ofList (List.replicate k '.')) = split '.' r := by
  have hlower : toAsciiLowercase base = r := by
    rw [eqIgnoreAsciiCase, beq_iff_eq, h.lowercase] at hcase
    exact hcase
  have hlast : base.toList.getLast? ≠ some '.' := by
    intro hdot
    apply h.getLast_ne
    rw [← hlower, toAsciiLowercase, String.toList_ofList, List.getLast?_map, hdot]
    rfl
  rw [hostnameLabels, trimEndMatches_append_dots k hlast, hlower]

/-- The hostname's own tokens of its subject are its labels, in reverse. -/
theorem split_reverse_labels {r : String} :
    split '.' (String.intercalate "." (split '.' r).reverse) = (split '.' r).reverse := by
  have hne : (split '.' r).reverse ≠ [] := by
    rw [Ne, List.reverse_eq_nil_iff]
    exact split_ne_nil '.' r
  apply split_intercalate hne
  intro label hl
  exact not_mem_of_mem_split (List.mem_reverse.mp hl)

/-- A label of a normalized hostname is neither a wildcard nor empty. -/
theorem token_not_wildcard {r token : String} (h : Normalized idna r)
    (ht : token ∈ split '.' r) : token ≠ "*" ∧ token ≠ ">" ∧ token ≠ "" := by
  have hvalid := h.validLabel token ht
  refine ⟨?_, ?_, ?_⟩ <;>
    · intro heq
      rw [heq] at hvalid
      exact absurd hvalid (by decide)

/-- Rust and Go agree on the subject of every spelling of a normalized
hostname with two labels or more; different normalized hostnames have
different subjects, and no hostname token of a subject is a wildcard or empty. -/
theorem subjects_agree_and_separate (table : LowerTable) (idna : Idna) (subjectPrefix : String) :
    (∀ x r base : String, ∀ k : ℕ, normalizeHostname table idna x = .ok r →
      2 ≤ (split '.' r).length → subjectPrefix.toList.getLast? ≠ some '.' →
      eqIgnoreAsciiCase base r = true →
      ∃ s, subject table idna subjectPrefix x = .ok s ∧
        hostnameRequestSubject subjectPrefix (base ++ String.ofList (List.replicate k '.')) =
          some s) ∧
    (∀ x y r t : String, normalizeHostname table idna x = .ok r →
      normalizeHostname table idna y = .ok t → r ≠ t →
      ∃ s u, subject table idna subjectPrefix x = .ok s ∧
        subject table idna subjectPrefix y = .ok u ∧ s ≠ u) ∧
    (∀ x r : String, normalizeHostname table idna x = .ok r →
      ∃ rest, subject table idna subjectPrefix x =
          .ok (trimSuffix subjectPrefix "." ++ "." ++ rest) ∧
        ∀ token ∈ split '.' rest, token ≠ "*" ∧ token ≠ ">" ∧ token ≠ "") := by
  refine ⟨?_, ?_, ?_⟩
  · intro x r base k hx htwo hprefixed hcase
    have hr := normalizeHostname_ok hx
    refine ⟨_, subject_eq hx, ?_⟩
    rw [hostnameRequestSubject_eq_some_iff, hostnameLabels_spelling k hr hcase,
      trimEndMatches_of_getLast_ne hprefixed, trimSuffix_dot_of_getLast_ne hprefixed]
    exact ⟨htwo, hr.validLabel, rfl⟩
  · intro x y r t hx hy hne
    refine ⟨_, _, subject_eq hx, subject_eq hy, ?_⟩
    intro heq
    apply hne
    have hlabels : split '.' r = split '.' t :=
      labels_eq_of_reverse_join_eq (split_ne_nil '.' r) (split_ne_nil '.' t)
        (fun label hl => not_mem_of_mem_split hl) (fun label hl => not_mem_of_mem_split hl)
        (append_dot_left_cancel heq)
    rw [← intercalate_split '.' r, hlabels, intercalate_split]
  · intro x r hx
    refine ⟨_, subject_eq hx, ?_⟩
    intro token ht
    rw [split_reverse_labels, List.mem_reverse] at ht
    exact token_not_wildcard (normalizeHostname_ok hx) ht

/-- A mixed-case, fully qualified spelling of a hostname that was entered with
capitals and a trailing dot. -/
theorem subjects_agree_and_separate_docs :
    ∃ s, subject asciiTable plainIdna "lfp.v1.connect" " Docs.Example. " = .ok s ∧
      hostnameRequestSubject "lfp.v1.connect" "dOCS.example.." = some s := by
  have hx : normalizeHostname asciiTable plainIdna " Docs.Example. " = .ok "docs.example" := by
    decide
  exact (subjects_agree_and_separate asciiTable plainIdna "lfp.v1.connect").1 _ _ "dOCS.example" 2
    hx (by decide) (by decide) (by decide)

end LfpPipe.SubjectAgreement
