import LfpPipe.SharedHttp
import LfpPipe.PatternCase

/-!
# Request subjects of hostnames

A request travels on the subject of its hostname: the lowercase labels in
reverse, joined by dots. Equal subjects come from equal labels, so what a
subject forgets of a hostname is the case of its letters and its trailing
dots. The client compares the hostname again with its backend pattern, and
that comparison keeps the trailing dots.
-/

namespace LfpPipe.SubjectRouting

open RustText SharedHttp SharedRouting PatternCase

/-- The lowercase labels of a hostname, without its trailing dots. -/
def hostnameLabels (hostname : String) : List String :=
  split '.' (toAsciiLowercase (trimEndMatches '.' hostname))

/-- A hostname has a subject exactly when it has two valid labels or more. -/
theorem hostnameRequestSubject_eq_some_iff {subject hostname s : String} :
    hostnameRequestSubject subject hostname = some s ↔
      2 ≤ (hostnameLabels hostname).length ∧
        (∀ label ∈ hostnameLabels hostname, validLabel label = true) ∧
        s = trimEndMatches '.' subject ++ "." ++
          String.intercalate "." (hostnameLabels hostname).reverse := by
  rw [hostnameRequestSubject]
  change (if (hostnameLabels hostname).length < 2 ||
    (hostnameLabels hostname).any (fun label => !validLabel label) then none
    else some (trimEndMatches '.' subject ++ "." ++
      String.intercalate "." (hostnameLabels hostname).reverse)) = some s ↔ _
  split
  · rename_i h
    rw [Bool.or_eq_true, decide_eq_true_eq, List.any_eq_true] at h
    constructor
    · intro hs
      cases hs
    · rintro ⟨hl, hv, -⟩
      rcases h with h | ⟨label, hm, hx⟩
      · omega
      · rw [hv label hm] at hx
        cases hx
  · rename_i h
    rw [Bool.or_eq_true, decide_eq_true_eq, List.any_eq_true, not_or, not_exists] at h
    rw [Option.some.injEq]
    constructor
    · intro hs
      refine ⟨by omega, ?_, hs.symm⟩
      intro label hm
      have hx := h.2 label
      rw [not_and] at hx
      simpa using hx hm
    · rintro ⟨-, -, hs⟩
      exact hs.symm

/-- The labels joined by dots are the lowercase hostname without trailing dots. -/
theorem intercalate_hostnameLabels (hostname : String) :
    String.intercalate "." (hostnameLabels hostname) =
      toAsciiLowercase (trimEndMatches '.' hostname) :=
  intercalate_split '.' _

/-- Reversing and joining keeps the labels apart: equal joins come from equal labels. -/
theorem labels_eq_of_reverse_join_eq {left right : List String} (hl : left ≠ []) (hr : right ≠ [])
    (hleft : ∀ label ∈ left, '.' ∉ label.toList) (hright : ∀ label ∈ right, '.' ∉ label.toList)
    (h : String.intercalate "." left.reverse = String.intercalate "." right.reverse) :
    left = right := by
  have hsplit := congrArg (split '.') h
  have hdot : "." = String.singleton '.' := by decide
  rw [hdot, split_intercalate, split_intercalate] at hsplit
  · exact List.reverse_injective hsplit
  · simpa using hr
  · simpa using hright
  · simpa using hl
  · simpa using hleft

/-- The characters of a valid label are ASCII letters, digits and hyphens. -/
theorem validLabel_chars {label : String} (h : validLabel label = true) :
    ∀ c ∈ label.toList, c.isAlphanum = true ∨ c = '-' := by
  intro c hc
  rw [validLabel, Bool.not_eq_true', Bool.or_eq_false_iff] at h
  have hall := h.2
  rw [Bool.not_eq_false', List.all_eq_true] at hall
  have hx := hall c hc
  rw [Bool.or_eq_true, beq_iff_eq] at hx
  exact hx

/-- The text before the hostname's own part of its subject. -/
theorem append_dot_left_cancel {subject left right : String}
    (h : subject ++ "." ++ left = subject ++ "." ++ right) : left = right := by
  have hl := congrArg String.toList h
  rw [String.toList_append, String.toList_append (t := right)] at hl
  exact String.toList_inj.mp (List.append_cancel_left hl)

/-- Hostnames with one subject have the same labels. -/
theorem hostnameLabels_eq_of_subject_eq {subject p h s : String}
    (hp : hostnameRequestSubject subject p = some s)
    (hh : hostnameRequestSubject subject h = some s) : hostnameLabels p = hostnameLabels h := by
  have hps := (hostnameRequestSubject_eq_some_iff.mp hp).2.2
  have hhs := (hostnameRequestSubject_eq_some_iff.mp hh).2.2
  apply labels_eq_of_reverse_join_eq (split_ne_nil _ _) (split_ne_nil _ _)
  · intro label hl
    exact not_mem_of_mem_split hl
  · intro label hl
    exact not_mem_of_mem_split hl
  · exact append_dot_left_cancel (hps.symm.trans hhs)

/-- Hostnames with one subject differ, before their trailing dots, only in
the case of their letters. -/
theorem lowercase_eq_of_subject_eq {subject p h s : String}
    (hp : hostnameRequestSubject subject p = some s)
    (hh : hostnameRequestSubject subject h = some s) :
    toAsciiLowercase (trimEndMatches '.' p) = toAsciiLowercase (trimEndMatches '.' h) := by
  rw [← intercalate_hostnameLabels, ← intercalate_hostnameLabels,
    hostnameLabels_eq_of_subject_eq hp hh]

/-- A hostname with a subject is not empty. -/
theorem toList_ne_nil_of_subject {subject p s : String}
    (hp : hostnameRequestSubject subject p = some s) : p.toList ≠ [] := by
  intro hnil
  have hempty : p = "" := String.toList_inj.mp hnil
  have htwo := (hostnameRequestSubject_eq_some_iff.mp hp).1
  rw [hempty] at htwo
  exact absurd htwo (by decide)

/-- The characters of a hostname with a subject are letters, digits, hyphens and dots. -/
theorem validChar_of_subject {subject p s : String} {x : Char}
    (hp : hostnameRequestSubject subject p = some s) (hx : x ∈ p.toList) :
    x = '.' ∨ x.toLower = '.' ∨ x.toLower.isAlphanum = true ∨ x.toLower = '-' := by
  rw [toList_eq_trimEndMatches_append '.' p, List.mem_append] at hx
  rcases hx with hx | hx
  · by_cases hdot : x.toLower = '.'
    · exact Or.inr (Or.inl hdot)
    · have hlower : x.toLower ∈ (toAsciiLowercase (trimEndMatches '.' p)).toList := by
        rw [toAsciiLowercase, String.toList_ofList]
        exact List.mem_map_of_mem hx
      obtain ⟨piece, hpiece, hm⟩ := exists_mem_splitChars_of_mem hlower hdot
      have hvalid := (hostnameRequestSubject_eq_some_iff.mp hp).2.1 (String.ofList piece)
        (List.mem_map_of_mem hpiece)
      have hall := validLabel_chars hvalid x.toLower (by rwa [String.toList_ofList])
      exact Or.inr (Or.inr hall)
  · exact Or.inl (List.eq_of_mem_replicate hx)

/-- A pattern with a subject is an exact one, so matching is comparison up
to the case of ASCII letters. -/
theorem matchesPattern_of_subject {subject p s : String} (h : String)
    (hp : hostnameRequestSubject subject p = some s) :
    matchesPattern p (some h) = eqIgnoreAsciiCase p h := by
  have hne := toList_ne_nil_of_subject hp
  have hempty : p.isEmpty = false := by
    rw [Bool.eq_false_iff, Ne, String.isEmpty_iff]
    intro he
    rw [he] at hne
    exact hne rfl
  have hexact : startsWith p "*." = false := by
    rw [Bool.eq_false_iff]
    intro hstart
    obtain ⟨rest, hrest⟩ := List.isPrefixOf_iff_prefix.mp hstart
    have hmem : '*' ∈ p.toList := by
      rw [← hrest]
      exact List.mem_cons_self
    have hcases := validChar_of_subject hp hmem
    revert hcases
    decide
  rw [matchesPattern_exact hexact, hempty]
  rfl

/-- Texts that agree up to case before their trailing dots agree up to case
exactly when they have equally many trailing dots. -/
theorem eqIgnoreAsciiCase_iff_of_trimmed_eq {p h : String}
    (heq : toAsciiLowercase (trimEndMatches '.' p) = toAsciiLowercase (trimEndMatches '.' h)) :
    eqIgnoreAsciiCase p h = true ↔ countEndMatches '.' p = countEndMatches '.' h := by
  have hlist : (trimEndMatches '.' p).toList.map Char.toLower =
      (trimEndMatches '.' h).toList.map Char.toLower := String.ofList_injective heq
  have hlower : ∀ s : String, s.toList.map Char.toLower =
      (trimEndMatches '.' s).toList.map Char.toLower ++
        List.replicate (countEndMatches '.' s) '.' := by
    intro s
    have hs := congrArg (List.map Char.toLower) (toList_eq_trimEndMatches_append '.' s)
    rw [List.map_append, List.map_replicate] at hs
    exact hs
  rw [eqIgnoreAsciiCase_iff, hlower p, hlower h, hlist, List.append_cancel_left_eq,
    List.replicate_inj]
  constructor
  · exact fun hr => hr.1
  · exact fun hr => ⟨hr, Or.inr rfl⟩

/-- Subject routing and backend matching: a hostname published on the subject
of an exact pattern matches that pattern exactly when both end in equally
many dots. -/
theorem matchesPattern_iff_trailing_dots {subject p h s : String}
    (hp : hostnameRequestSubject subject p = some s)
    (hh : hostnameRequestSubject subject h = some s) :
    matchesPattern p (some h) = true ↔ countEndMatches '.' p = countEndMatches '.' h := by
  rw [matchesPattern_of_subject h hp]
  exact eqIgnoreAsciiCase_iff_of_trimmed_eq (lowercase_eq_of_subject_eq hp hh)

/-- A mixed-case Host header on the subject of a configured route. -/
theorem matchesPattern_iff_trailing_dots_docs :
    hostnameRequestSubject "lfp.v1.connect" "docs.example" = some "lfp.v1.connect.example.docs" ∧
      hostnameRequestSubject "lfp.v1.connect" "Docs.Example" =
        some "lfp.v1.connect.example.docs" ∧
      matchesPattern "docs.example" (some "Docs.Example") = true := by
  have hp : hostnameRequestSubject "lfp.v1.connect" "docs.example" =
      some "lfp.v1.connect.example.docs" := by decide
  have hh : hostnameRequestSubject "lfp.v1.connect" "Docs.Example" =
      some "lfp.v1.connect.example.docs" := by decide
  exact ⟨hp, hh, (matchesPattern_iff_trailing_dots hp hh).mpr (by decide)⟩

/-- A fully qualified hostname, as a Host header can carry it, is published
on the subject of the route without its dot, and the route's pattern does
not match it. -/
theorem fully_qualified_hostname_not_matched :
    extractHttpHost (ascii "GET / HTTP/1.1\r\nHost: docs.example.\r\n\r\n") =
        some "docs.example." ∧
      ¬ ∀ subject p h s : String, hostnameRequestSubject subject p = some s →
        hostnameRequestSubject subject h = some s → matchesPattern p (some h) = true := by
  refine ⟨by decide +kernel, ?_⟩
  intro hall
  have hmatch := hall "lfp.v1.connect" "docs.example" "docs.example."
    "lfp.v1.connect.example.docs" (by decide) (by decide)
  revert hmatch
  decide

end LfpPipe.SubjectRouting
