import LfpPipe.DeviceEnrollment
import LfpPipe.EntitlementMatching

/-!
# One namespace for principals and for tickets

A principal is created for an entitlement that its owner holds, and a ticket is
issued for a route that an entitlement covers. Both compare hostnames with the
configured route suffix, which the ticket normalizes first and the principal
takes as it is written. When the two agree is told here; of the IDNA profile it
needs to be known that it maps the labels of a hostname one by one.
-/

namespace LfpPipe.RouteNamespaces

open RustText GoText RouteAuth EntitlementMatching DeviceEnrollment

/-- The labels at the end of an accepted output are mapped to themselves. -/
def KeepsTails (idna : Idna) : Prop :=
  ∀ value ascii tail, idna.toASCII value = some ascii → labels tail <:+ labels ascii →
    idna.toASCII tail = some tail

section

variable (table : LowerTable) (idna : Idna)

/-- A requested name that one of the values names, at or below a root. -/
structure OwnedBelow (values : List String) (requested root name : String) : Prop where
  /-- The request is for the name. -/
  requested_eq : entitledHostname table idna requested = .ok name
  /-- One of the values names it. -/
  held : ∃ value ∈ values, entitledHostname table idna value = .ok name
  /-- It is the root or descends from it. -/
  below : labels root <:+ labels name

/-- Creating a principal and issuing a ticket agree on a requested entitlement,
for a configured suffix and its normalized form. -/
structure SameNamespace (values : List String) (requested suffix root : String) : Prop where
  /-- The entitlement is accepted exactly when it is held and not above the root. -/
  owned : (∃ name, ownedEntitlement table idna values requested suffix = .ok name) ↔
    ∃ name, OwnedBelow table idna values requested root name
  /-- What a ticket is issued for can be used for a principal. -/
  honoured : ∀ hostname route name,
    matchStrictSubdomain table idna values hostname suffix = .ok (route, name) →
    entitledHostname table idna requested = .ok name →
      ownedEntitlement table idna values requested suffix = .ok name
  /-- What can be used for a principal covers its routes for tickets. -/
  issued : ∀ name hostname route,
    ownedEntitlement table idna values requested suffix = .ok name →
    normalizeHostname table idna hostname = .ok route →
    labels root <:+ labels route → route ≠ root → labels name <:+ labels route →
      ∃ matched, matchStrictSubdomain table idna values hostname suffix = .ok (route, matched)

end

section

variable {table : LowerTable} {idna : Idna}

/-- An entitlement is accepted when it is held and not above the suffix as it is
written. -/
theorem ownedEntitlement_eq_ok {values : List String} {requested parent name : String} :
    ownedEntitlement table idna values requested parent = .ok name ↔
      OwnedBelow table idna values requested parent name := by
  have hbelow : ∀ normalized, (normalized != parent && !hasSuffix normalized ("." ++ parent)) =
      true ↔ ¬ labels parent <:+ labels normalized := by
    intro normalized
    rw [labels_suffix_iff, not_or, Bool.and_eq_true, bne_iff_ne, Bool.not_eq_true',
      Bool.not_eq_true]
  rw [ownedEntitlement]
  constructor
  · intro h
    split at h
    · cases h
    · rename_i normalized hnormalized
      split at h
      · cases h
      · rename_i hparent
        split at h
        · rename_i hfound
          cases h
          obtain ⟨value, hm, hvalue⟩ := List.any_eq_true.mp hfound
          have hheld : entitledHostname table idna value = .ok name := by
            rw [entitledHostname]
            cases hcandidate : normalizeHostname table idna
              (trimPrefix (trimSpace value) "route:") with
            | error message =>
              rw [hcandidate] at hvalue
              cases hvalue
            | ok candidate =>
              rw [hcandidate] at hvalue
              rw [beq_iff_eq.mp hvalue]
          exact ⟨hnormalized, ⟨value, hm, hheld⟩,
            not_not.mp fun habove => hparent ((hbelow name).mpr habove)⟩
        · cases h
  · rintro ⟨hrequested, ⟨value, hm, hvalue⟩, hname⟩
    rw [entitledHostname] at hrequested hvalue
    rw [hrequested]
    dsimp only
    rw [if_neg fun habove => (hbelow name).mp habove hname]
    refine if_pos (List.any_eq_true.mpr ⟨value, hm, ?_⟩)
    rw [hvalue]
    exact beq_self_eq_true name

/-- The labels at the end of a normalized hostname are one. -/
theorem normalized_tail (htails : KeepsTails idna) {name tail : String}
    (hname : Normalized idna name) (hlabels : labels tail <:+ labels name) :
    Normalized idna tail where
  mapped := htails name name tail hname.mapped hlabels
  nonempty := by
    rintro rfl
    have hempty : "" ∈ labels name := hlabels.subset (List.mem_singleton.mpr rfl)
    exact absurd (hname.labels "" hempty) (by decide)
  chars := by
    intro c hc
    refine hname.chars c ?_
    rcases labels_suffix_iff.mp hlabels with hsame | hends
    · rw [hsame]
      exact hc
    · rw [hasSuffix, List.isSuffixOf_iff_suffix] at hends
      refine hends.subset ?_
      rw [String.toList_append]
      exact List.mem_append_right _ hc
  labels label hm := hname.labels label (hlabels.subset hm)

/-- A suffix that a normalized hostname ends with, as it is written, is its own
normalized form. -/
theorem suffix_eq_root (htails : KeepsTails idna) {suffix root name : String}
    (hroot : normalizeHostname table idna suffix = .ok root) (hname : Normalized idna name)
    (hlabels : labels suffix <:+ labels name) : suffix = root := by
  have hsuffix : normalizeHostname table idna suffix = .ok suffix :=
    (normalized_tail htails hname hlabels).normalizeHostname_eq
  rw [hroot] at hsuffix
  exact (Except.ok.inj hsuffix).symm

/-- A match returns a candidate below the root. -/
theorem candidate_of_match {values : List String} {hostname suffix root route name : String}
    (hroot : normalizeHostname table idna suffix = .ok root)
    (h : matchStrictSubdomain table idna values hostname suffix = .ok (route, name)) :
    Candidate table idna values root route name := by
  have hroute := (matchStrictSubdomain_ok h).route_eq
  rw [matchStrictSubdomain, hroute, hroot] at h
  dsimp only at h
  split at h
  · cases h
  · split at h
    · cases h
    · rename_i hfound
      have hname := congrArg Prod.snd (Except.ok.inj h)
      dsimp only at hname
      rw [hname, beq_iff_eq] at hfound
      exact (foldl_considerEntitlement_iff.mp ⟨hname, hfound⟩).candidate

/-- A search with a candidate finds something. -/
theorem found_of_candidate {values : List String} {root route name : String}
    (h : Candidate table idna values root route name) :
    values.foldl (considerEntitlement table idna route root) "" ≠ "" := by
  intro hempty
  have hgreatest := GreatestElements.greatest_foldl String.utf8ByteSize
    (values.filterMap (grantable table idna root route)) ""
  rw [← foldl_considerEntitlement_eq, hempty] at hgreatest
  have hle := hgreatest.le name (List.mem_cons_of_mem "" (mem_grantable_iff.mpr h))
  have hpos := h.size_pos
  rw [String.utf8ByteSize_empty] at hle
  omega

/-- A route strictly below the root with a candidate is matched. -/
theorem match_of_candidate {values : List String} {hostname suffix root route name : String}
    (hroot : normalizeHostname table idna suffix = .ok root)
    (hroute : normalizeHostname table idna hostname = .ok route)
    (hbelow : labels root <:+ labels route) (hne : route ≠ root)
    (h : Candidate table idna values root route name) :
    ∃ matched, matchStrictSubdomain table idna values hostname suffix = .ok (route, matched) := by
  have hstrict : (route == root || !hasSuffix route ("." ++ root)) = false := by
    have hends := (labels_suffix_iff.mp hbelow).resolve_left hne
    rw [hends, beq_eq_false_iff_ne.mpr hne]
    rfl
  refine ⟨values.foldl (considerEntitlement table idna route root) "", ?_⟩
  rw [matchStrictSubdomain, hroute, hroot]
  dsimp only
  rw [hstrict, if_neg Bool.false_ne_true, beq_eq_false_iff_ne.mpr (found_of_candidate h),
    if_neg Bool.false_ne_true]

/-- Creating a principal and issuing a ticket agree exactly when the suffix is
written in its normalized form, or the requested entitlement is not held at or
below it. -/
theorem sameNamespace_iff (htails : KeepsTails idna) {suffix root : String}
    (hroot : normalizeHostname table idna suffix = .ok root) (values : List String)
    (requested : String) :
    SameNamespace table idna values requested suffix root ↔
      suffix = root ∨ ¬ ∃ name, OwnedBelow table idna values requested root name := by
  have hwritten : ∀ name, ownedEntitlement table idna values requested suffix = .ok name →
      suffix = root := by
    intro name h
    have howned := ownedEntitlement_eq_ok.mp h
    exact suffix_eq_root htails hroot (normalizeHostname_ok howned.requested_eq) howned.below
  constructor
  · intro h
    by_cases hnone : ∃ name, OwnedBelow table idna values requested root name
    · obtain ⟨name, hname⟩ := h.owned.mpr hnone
      exact .inl (hwritten name hname)
    · exact .inr hnone
  · intro h
    have hagree : ∀ name, OwnedBelow table idna values requested root name →
        ownedEntitlement table idna values requested suffix = .ok name := by
      intro name hname
      rcases h with rfl | hnone
      · exact ownedEntitlement_eq_ok.mpr hname
      · exact absurd ⟨name, hname⟩ hnone
    have hback : ∀ name, ownedEntitlement table idna values requested suffix = .ok name →
        OwnedBelow table idna values requested root name := by
      intro name hname
      have howned := ownedEntitlement_eq_ok.mp hname
      rw [hwritten name hname] at howned
      exact howned
    constructor
    · constructor
      · rintro ⟨name, hname⟩
        exact ⟨name, hback name hname⟩
      · rintro ⟨name, hname⟩
        exact ⟨name, hagree name hname⟩
    · intro hostname route name hmatch hrequested
      have hcandidate := candidate_of_match hroot hmatch
      exact hagree name ⟨hrequested, hcandidate.named, hcandidate.below⟩
    · intro name hostname route hname hroute hbelow hne hcovers
      have howned := hback name hname
      exact match_of_candidate hroot hroute hbelow hne ⟨howned.held, howned.below, hcovers⟩

/-- A hostname that is in ASCII form keeps its tails. -/
theorem plainIdna_keepsTails : KeepsTails plainIdna := by
  intro value ascii tail hvalue hlabels
  have hchars : ∀ c ∈ tail.toList, HostnameChar c := by
    intro c hc
    refine plainIdna.toASCII_chars hvalue c ?_
    rcases labels_suffix_iff.mp hlabels with hsame | hends
    · rw [hsame]
      exact hc
    · rw [hasSuffix, List.isSuffixOf_iff_suffix] at hends
      refine hends.subset ?_
      rw [String.toList_append]
      exact List.mem_append_right _ hc
  have hall : (tail.toList.all fun c => decide (HostnameChar c)) = true :=
    List.all_eq_true.mpr fun c hc => decide_eq_true (hchars c hc)
  exact if_pos hall

/-- With a suffix in its normalized form, an entitlement of it serves both. -/
theorem sameNamespace_plain :
    SameNamespace asciiTable plainIdna ["route:pipe.example"] "pipe.example" "pipe.example"
      "pipe.example" :=
  (sameNamespace_iff plainIdna_keepsTails (by decide +kernel) _ _).mpr (.inl rfl)

/-- With a suffix in another spelling, an entitlement of it is good for a ticket
and refused for a principal. -/
theorem spelled_suffix_splits :
    normalizeHostname asciiTable plainIdna "Pipe.Example." = .ok "pipe.example" ∧
    matchStrictSubdomain asciiTable plainIdna ["route:pipe.example"] "api.pipe.example"
      "Pipe.Example." = .ok ("api.pipe.example", "pipe.example") ∧
    ownedEntitlement asciiTable plainIdna ["route:pipe.example"] "pipe.example" "Pipe.Example." =
      .error "entitlement must belong to Pipe.Example." ∧
    ¬ SameNamespace asciiTable plainIdna ["route:pipe.example"] "pipe.example" "Pipe.Example."
      "pipe.example" := by
  have hmatch : matchStrictSubdomain asciiTable plainIdna ["route:pipe.example"]
      "api.pipe.example" "Pipe.Example." = .ok ("api.pipe.example", "pipe.example") := by
    decide +kernel
  have hrefused : ownedEntitlement asciiTable plainIdna ["route:pipe.example"] "pipe.example"
      "Pipe.Example." = .error "entitlement must belong to Pipe.Example." := by
    decide +kernel
  refine ⟨by decide +kernel, hmatch, hrefused, fun h => ?_⟩
  have hnamed : entitledHostname asciiTable plainIdna "pipe.example" = .ok "pipe.example" := by
    decide +kernel
  have hused := h.honoured _ _ _ hmatch hnamed
  rw [hrefused] at hused
  cases hused

end

end LfpPipe.RouteNamespaces
