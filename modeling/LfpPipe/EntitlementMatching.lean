import LfpPipe.GreatestElements
import LfpPipe.RouteAuth

/-!
# Entitlements are matched by labels

The control plane compares hostnames as texts, with a dot in front of the
shorter one, and keeps the entitlement with the most bytes. The policy is about
labels: an entitlement owns the hostnames whose labels end with its own, and the
one with the most labels is the most specific. The two agree.
-/

namespace LfpPipe.EntitlementMatching

open RustText GoText GreatestElements RouteAuth

/-- The labels of a hostname. -/
def labels (hostname : String) : List String := split '.' hostname

/-- The labels of one hostname end with those of another exactly when it is the
same or ends with a dot and the other. -/
theorem labels_suffix_iff {short long : String} :
    labels short <:+ labels long ↔ long = short ∨ hasSuffix long ("." ++ short) = true := by
  have hdot : ("." ++ short).toList = '.' :: short.toList := by
    rw [String.toList_append]
    rfl
  rw [labels, labels, split_suffix_iff, hasSuffix, hdot, List.isSuffixOf_iff_suffix,
    eq_comm (a := long)]

/-- Hostnames with the same labels are the same. -/
theorem eq_of_labels_eq {left right : String} (h : labels left = labels right) : left = right := by
  rw [← intercalate_split '.' left, ← intercalate_split '.' right]
  exact congrArg (String.intercalate (String.singleton '.')) h

/-- Fewer labels at the end of a hostname are fewer bytes. -/
theorem size_lt_of_labels_suffix {short long : String} (h : labels short <:+ labels long)
    (hne : short ≠ long) : short.utf8ByteSize < long.utf8ByteSize := by
  rcases labels_suffix_iff.mp h with heq | hends
  · exact absurd heq.symm hne
  · rw [hasSuffix, List.isSuffixOf_iff_suffix] at hends
    obtain ⟨before, hbefore⟩ := hends
    have hlong : long = String.ofList before ++ ("." ++ short) := by
      rw [← String.toList_inj, String.toList_append, String.toList_ofList, hbefore]
    have hdot : ".".utf8ByteSize = 1 := rfl
    rw [hlong, String.utf8ByteSize_append, String.utf8ByteSize_append, hdot]
    omega

section

variable {route left right : String}

/-- Among hostnames that a route ends with, more bytes are more labels. -/
theorem size_le_iff (hleft : labels left <:+ labels route)
    (hright : labels right <:+ labels route) :
    left.utf8ByteSize ≤ right.utf8ByteSize ↔ (labels left).length ≤ (labels right).length := by
  constructor
  · intro hsize
    by_contra hlabels
    have hsuffix : labels right <:+ labels left :=
      List.suffix_of_suffix_length_le hright hleft (by omega)
    have hne : right ≠ left := by
      intro heq
      rw [heq] at hlabels
      exact hlabels (le_refl _)
    have hlt := size_lt_of_labels_suffix hsuffix hne
    omega
  · intro hlabels
    have hsuffix : labels left <:+ labels right :=
      List.suffix_of_suffix_length_le hleft hright hlabels
    by_cases heq : left = right
    · rw [heq]
    · exact le_of_lt (size_lt_of_labels_suffix hsuffix heq)

/-- Among hostnames that a route ends with, equal sizes are equal hostnames. -/
theorem eq_of_size_eq (hleft : labels left <:+ labels route)
    (hright : labels right <:+ labels route) (h : left.utf8ByteSize = right.utf8ByteSize) :
    left = right := by
  have hle : (labels left).length ≤ (labels right).length :=
    (size_le_iff hleft hright).mp (le_of_eq h)
  have hge : (labels right).length ≤ (labels left).length :=
    (size_le_iff hright hleft).mp (ge_of_eq h)
  have hsuffix : labels left <:+ labels right := List.suffix_of_suffix_length_le hleft hright hle
  exact eq_of_labels_eq (hsuffix.eq_of_length (le_antisymm hle hge))

end

section

variable (table : LowerTable) (idna : Idna)

/-- The hostname that an entitlement names. -/
def entitledHostname (entitlement : String) : Except String String :=
  normalizeHostname table idna (trimPrefix (trimSpace entitlement) "route:")

/-- A hostname that one of the entitlements names, at or below the configured
parent, and at or above the route. -/
structure Candidate (entitlements : List String) (parent route hostname : String) : Prop where
  /-- One of the entitlements names it. -/
  named : ∃ entitlement ∈ entitlements, entitledHostname table idna entitlement = .ok hostname
  /-- It is the parent or descends from it. -/
  below : labels parent <:+ labels hostname
  /-- The labels of the route end with its labels. -/
  covers : labels hostname <:+ labels route

/-- What a match grants: the normalized request, strictly below the normalized
parent, and the candidate with the most labels. -/
structure Granted (entitlements : List String) (requested parent route entitlement : String) :
    Prop where
  /-- The route is the normalized request. -/
  route_eq : normalizeHostname table idna requested = .ok route
  /-- The entitlement is the most specific one below the parent. -/
  most_specific : ∃ root, normalizeHostname table idna parent = .ok root ∧
    labels root <:+ labels route ∧ labels root ≠ labels route ∧
    Candidate table idna entitlements root route entitlement ∧
    ∀ hostname, Candidate table idna entitlements root route hostname →
      (labels hostname).length ≤ (labels entitlement).length

/-- The hostname of an entitlement that may be granted for a route. -/
def grantable (root route entitlement : String) : Option String :=
  match entitledHostname table idna entitlement with
  | .error _ => none
  | .ok hostname =>
    if labels root <:+ labels hostname ∧ labels hostname <:+ labels route then some hostname
    else none

end

section

variable {table : LowerTable} {idna : Idna} {root route : String}

/-- An entitlement with a grantable hostname names it. -/
theorem grantable_eq_some {entitlement hostname : String} :
    grantable table idna root route entitlement = some hostname ↔
      entitledHostname table idna entitlement = .ok hostname ∧
        labels root <:+ labels hostname ∧ labels hostname <:+ labels route := by
  rw [grantable]
  cases entitledHostname table idna entitlement with
  | error message =>
    constructor
    · intro h
      cases h
    · intro h
      cases h.1
  | ok named =>
    dsimp only
    split
    · rename_i hcovers
      constructor
      · intro h
        cases h
        exact ⟨rfl, hcovers⟩
      · intro h
        cases h.1
        rfl
    · rename_i hcovers
      constructor
      · intro h
        cases h
      · intro h
        cases h.1
        exact absurd h.2 hcovers

/-- Considering an entitlement keeps the greater of the hostname found so far
and the one that it grants. -/
theorem considerEntitlement_eq (matched entitlement : String) :
    considerEntitlement table idna route root matched entitlement =
      match grantable table idna root route entitlement with
      | none => matched
      | some hostname => keepGreater String.utf8ByteSize matched hostname := by
  rw [considerEntitlement, grantable, entitledHostname]
  cases normalizeHostname table idna (trimPrefix (trimSpace entitlement) "route:") with
  | error message => rfl
  | ok hostname =>
    dsimp only
    have hbelow : (hostname != root && !hasSuffix hostname ("." ++ root)) = true ↔
        ¬ labels root <:+ labels hostname := by
      rw [labels_suffix_iff, not_or, Bool.and_eq_true, bne_iff_ne, Bool.not_eq_true',
        Bool.not_eq_true]
    have hcovers : (route == hostname || hasSuffix route ("." ++ hostname)) = true ↔
        labels hostname <:+ labels route := by
      rw [labels_suffix_iff, Bool.or_eq_true, beq_iff_eq]
    by_cases hroot : labels root <:+ labels hostname
    · rw [if_neg fun h => hbelow.mp h hroot]
      by_cases hroute : labels hostname <:+ labels route
      · have hgrant : (if labels root <:+ labels hostname ∧ labels hostname <:+ labels route then
            some hostname else none) = some hostname := if_pos ⟨hroot, hroute⟩
        rw [hgrant, hcovers.mpr hroute, Bool.true_and]
        dsimp only
        rw [keepGreater]
        by_cases hlonger : matched.utf8ByteSize < hostname.utf8ByteSize
        · rw [if_pos hlonger, decide_eq_true hlonger, if_pos rfl]
        · rw [if_neg hlonger, decide_eq_false hlonger, if_neg Bool.false_ne_true]
      · have hgrant : (if labels root <:+ labels hostname ∧ labels hostname <:+ labels route then
            some hostname else none) = none := if_neg fun h => hroute h.2
        rw [hgrant, if_neg]
        rw [Bool.and_eq_true]
        exact fun h => hroute (hcovers.mp h.1)
    · have hgrant : (if labels root <:+ labels hostname ∧ labels hostname <:+ labels route then
          some hostname else none) = none := if_neg fun h => hroot h.1
      rw [hgrant, if_pos (hbelow.mpr hroot)]

/-- The search keeps the greatest of the grantable hostnames. -/
theorem foldl_considerEntitlement_eq (entitlements : List String) (matched : String) :
    entitlements.foldl (considerEntitlement table idna route root) matched =
      (entitlements.filterMap (grantable table idna root route)).foldl
        (keepGreater String.utf8ByteSize) matched := by
  induction entitlements generalizing matched with
  | nil => rfl
  | cons entitlement entitlements ih =>
    rw [List.foldl_cons, considerEntitlement_eq, ih, List.filterMap_cons]
    cases grantable table idna root route entitlement with
    | none => rfl
    | some hostname => rfl

/-- The grantable hostnames are the candidates. -/
theorem mem_grantable_iff {entitlements : List String} {hostname : String} :
    hostname ∈ entitlements.filterMap (grantable table idna root route) ↔
      Candidate table idna entitlements root route hostname := by
  rw [List.mem_filterMap]
  constructor
  · intro h
    obtain ⟨entitlement, hm, hgrantable⟩ := h
    have hnamed := grantable_eq_some.mp hgrantable
    exact ⟨⟨entitlement, hm, hnamed.1⟩, hnamed.2.1, hnamed.2.2⟩
  · intro h
    obtain ⟨entitlement, hm, hnamed⟩ := h.named
    exact ⟨entitlement, hm, grantable_eq_some.mpr ⟨hnamed, h.below, h.covers⟩⟩

/-- A candidate is not empty. -/
theorem Candidate.size_pos {entitlements : List String} {hostname : String}
    (h : Candidate table idna entitlements root route hostname) : 0 < hostname.utf8ByteSize := by
  obtain ⟨entitlement, -, hnamed⟩ := h.named
  have hnormalized := normalizeHostname_ok hnamed
  rw [Nat.pos_iff_ne_zero, Ne, String.utf8ByteSize_eq_zero_iff]
  exact hnormalized.nonempty

/-- A candidate with the most labels. -/
structure MostSpecific (table : LowerTable) (idna : Idna) (entitlements : List String)
    (root route hostname : String) : Prop where
  /-- It is a candidate. -/
  candidate : Candidate table idna entitlements root route hostname
  /-- No candidate has more labels. -/
  most : ∀ other, Candidate table idna entitlements root route other →
    (labels other).length ≤ (labels hostname).length

/-- There is one most specific candidate. -/
theorem MostSpecific.unique {entitlements : List String} {hostname other : String}
    (h : MostSpecific table idna entitlements root route hostname)
    (hother : MostSpecific table idna entitlements root route other) : hostname = other := by
  have hle := (size_le_iff h.candidate.covers hother.candidate.covers).mpr
    (hother.most hostname h.candidate)
  have hge := (size_le_iff hother.candidate.covers h.candidate.covers).mpr
    (h.most other hother.candidate)
  exact eq_of_size_eq h.candidate.covers hother.candidate.covers (le_antisymm hle hge)

/-- What the search finds is the most specific candidate. -/
theorem foldl_considerEntitlement_iff {entitlements : List String} {hostname : String} :
    (entitlements.foldl (considerEntitlement table idna route root) "" = hostname ∧
      hostname ≠ "") ↔ MostSpecific table idna entitlements root route hostname := by
  have hgreatest := greatest_foldl String.utf8ByteSize
    (entitlements.filterMap (grantable table idna root route)) ""
  rw [← foldl_considerEntitlement_eq] at hgreatest
  have hfound : entitlements.foldl (considerEntitlement table idna route root) "" ≠ "" →
      MostSpecific table idna entitlements root route
        (entitlements.foldl (considerEntitlement table idna route root) "") := by
    intro hne
    have hm := (List.mem_cons.mp hgreatest.mem).resolve_left hne
    have hcandidate := mem_grantable_iff.mp hm
    refine ⟨hcandidate, ?_⟩
    intro other hother
    rw [← size_le_iff hother.covers hcandidate.covers]
    exact hgreatest.le other (List.mem_cons_of_mem "" (mem_grantable_iff.mpr hother))
  constructor
  · intro h
    rw [← h.1]
    exact hfound (h.1 ▸ h.2)
  · intro h
    have hpos := h.candidate.size_pos
    have hle := hgreatest.le hostname
      (List.mem_cons_of_mem "" (mem_grantable_iff.mpr h.candidate))
    have hne : entitlements.foldl (considerEntitlement table idna route root) "" ≠ "" := by
      intro hempty
      rw [hempty, String.utf8ByteSize_empty] at hle
      omega
    have heq := (hfound hne).unique h
    exact ⟨heq, heq ▸ hne⟩

/-- Candidates depend on the members of the list only. -/
theorem Candidate.congr {entitlements others : List String} {hostname : String}
    (h : Candidate table idna entitlements root route hostname)
    (hsame : ∀ entitlement, entitlement ∈ others ↔ entitlement ∈ entitlements) :
    Candidate table idna others root route hostname where
  named := by
    obtain ⟨entitlement, hm, hnamed⟩ := h.named
    exact ⟨entitlement, (hsame entitlement).mpr hm, hnamed⟩
  below := h.below
  covers := h.covers

/-- The most specific candidate depends on the members of the list only. -/
theorem MostSpecific.congr {entitlements others : List String} {hostname : String}
    (h : MostSpecific table idna entitlements root route hostname)
    (hsame : ∀ entitlement, entitlement ∈ others ↔ entitlement ∈ entitlements) :
    MostSpecific table idna others root route hostname where
  candidate := h.candidate.congr hsame
  most other hother := h.most other (hother.congr fun entitlement => (hsame entitlement).symm)

/-- What the search finds depends on the members of the list only. -/
theorem foldl_considerEntitlement_congr {entitlements others : List String}
    (hsame : ∀ entitlement, entitlement ∈ others ↔ entitlement ∈ entitlements) :
    others.foldl (considerEntitlement table idna route root) "" =
      entitlements.foldl (considerEntitlement table idna route root) "" := by
  by_cases hempty : entitlements.foldl (considerEntitlement table idna route root) "" = ""
  · rw [hempty]
    by_contra hfound
    have hothers := foldl_considerEntitlement_iff.mp ⟨rfl, hfound⟩
    have hback := hothers.congr fun entitlement => (hsame entitlement).symm
    have hnonempty := foldl_considerEntitlement_iff.mpr hback
    rw [hempty] at hnonempty
    exact hnonempty.2 hnonempty.1.symm
  · have hmost := foldl_considerEntitlement_iff.mp ⟨rfl, hempty⟩
    exact (foldl_considerEntitlement_iff.mpr (hmost.congr hsame)).1

/-- An entitlement whose hostname merely ends in the same characters as the
route is passed over. -/
theorem considerEntitlement_sibling {entitlement hostname front matched : String}
    (hnamed : entitledHostname table idna entitlement = .ok hostname)
    (hroute : route = front ++ hostname) (hfront : front ≠ "")
    (hlast : front.toList.getLast? ≠ some '.') :
    considerEntitlement table idna route root matched entitlement = matched := by
  have hnone : grantable table idna root route entitlement = none := by
    rw [Option.eq_none_iff_forall_ne_some]
    intro other hgrantable
    obtain ⟨hother, -, hcovers⟩ := grantable_eq_some.mp hgrantable
    rw [hnamed] at hother
    cases hother
    rcases labels_suffix_iff.mp hcovers with hsame | hends
    · have hlength : route.toList.length = hostname.toList.length := by rw [hsame]
      rw [hroute, String.toList_append, List.length_append] at hlength
      have hempty : front.toList = [] := List.length_eq_zero_iff.mp (by omega)
      exact hfront (String.toList_eq_nil_iff.mp hempty)
    · rw [hasSuffix, List.isSuffixOf_iff_suffix] at hends
      obtain ⟨before, hbefore⟩ := hends
      rw [String.toList_append, hroute, String.toList_append, ← List.append_assoc] at hbefore
      have hdot : front.toList = before ++ ['.'] := (List.append_cancel_right hbefore).symm
      rw [hdot, List.getLast?_concat] at hlast
      exact hlast rfl
  rw [considerEntitlement_eq, hnone]

/-- A match succeeds exactly with what is granted, whatever the order and the
repetition of the entitlements, and an entitlement whose hostname merely ends in
the same characters as the route changes nothing. -/
theorem entitlement_matching_exact (table : LowerTable) (idna : Idna) (entitlements : List String)
    (requested parent : String) :
    (∀ route entitlement,
      matchStrictSubdomain table idna entitlements requested parent = .ok (route, entitlement) ↔
        Granted table idna entitlements requested parent route entitlement) ∧
    (∀ others : List String, (∀ entitlement, entitlement ∈ others ↔ entitlement ∈ entitlements) →
      matchStrictSubdomain table idna others requested parent =
        matchStrictSubdomain table idna entitlements requested parent) ∧
    (∀ entitlement hostname front : String,
      entitledHostname table idna entitlement = .ok hostname →
      normalizeHostname table idna requested = .ok (front ++ hostname) →
      front ≠ "" → front.toList.getLast? ≠ some '.' →
      matchStrictSubdomain table idna (entitlement :: entitlements) requested parent =
        matchStrictSubdomain table idna entitlements requested parent) := by
  refine ⟨?_, ?_, ?_⟩
  · intro route entitlement
    constructor
    · intro h
      have hmatched := matchStrictSubdomain_ok h
      obtain ⟨root, hroot, hstrict, -⟩ := hmatched.parent_ok
      have hbelow := Bool.or_eq_false_iff.mp hstrict
      have hends : hasSuffix route ("." ++ root) = true := by
        rw [← Bool.not_eq_false']
        exact hbelow.2
      rw [matchStrictSubdomain, hmatched.route_eq, hroot] at h
      dsimp only at h
      rw [hstrict, if_neg Bool.false_ne_true] at h
      split at h
      · cases h
      · rename_i hfound
        have hresult := congrArg Prod.snd (Except.ok.inj h)
        dsimp only at hresult
        rw [hresult, beq_iff_eq] at hfound
        have hmost := foldl_considerEntitlement_iff.mp ⟨hresult, hfound⟩
        refine ⟨hmatched.route_eq, root, hroot, labels_suffix_iff.mpr (.inr hends), ?_,
          hmost.candidate, hmost.most⟩
        intro hlabels
        have hsame := eq_of_labels_eq hlabels
        rw [hsame, beq_self_eq_true] at hbelow
        exact Bool.false_ne_true hbelow.1.symm
    · intro h
      obtain ⟨root, hroot, hbelow, hne, hcandidate, hmost⟩ := h.most_specific
      have hroute : (route == root) = false := by
        rw [beq_eq_false_iff_ne]
        intro hsame
        rw [hsame] at hne
        exact hne rfl
      have hends : hasSuffix route ("." ++ root) = true :=
        (labels_suffix_iff.mp hbelow).resolve_left (beq_eq_false_iff_ne.mp hroute)
      have hfound := foldl_considerEntitlement_iff.mpr ⟨hcandidate, hmost⟩
      rw [matchStrictSubdomain, h.route_eq, hroot]
      dsimp only
      rw [hroute, hends, hfound.1, beq_eq_false_iff_ne.mpr hfound.2]
      rfl
  · intro others hsame
    rw [matchStrictSubdomain, matchStrictSubdomain]
    cases normalizeHostname table idna requested with
    | error message => rfl
    | ok route =>
      cases normalizeHostname table idna parent with
      | error message => rfl
      | ok root =>
        dsimp only
        rw [foldl_considerEntitlement_congr hsame]
  · intro entitlement hostname front hnamed hroute hfront hlast
    rw [matchStrictSubdomain, matchStrictSubdomain, hroute]
    cases normalizeHostname table idna parent with
    | error message => rfl
    | ok root =>
      dsimp only
      rw [List.foldl_cons, considerEntitlement_sibling hnamed rfl hfront hlast]

end

end LfpPipe.EntitlementMatching
