import LfpPipe.SharedRouting

/-!
# The case of hostnames and patterns

Host headers and server names arrive in any case. An exact pattern is compared up
to the case of ASCII letters, but the suffix of a wildcard is compared as it is
spelled, and a hostname that is only the dot and the suffix matches it. So case
counts exactly where a wildcard with a letter in its suffix meets a hostname below
that suffix.
-/

namespace LfpPipe.PatternCase

open RustText SharedRouting

/-- Patterns that agree up to case are both wildcards or both not. -/
theorem startsWith_wildcard_of_eqIgnoreAsciiCase {pattern other : String}
    (h : eqIgnoreAsciiCase pattern other = true) :
    startsWith pattern "*." = startsWith other "*." := by
  have hlower : ∀ s : String, startsWith s "*." = startsWith (toAsciiLowercase s) "*." := by
    intro s
    have hmark : ∀ (c d : Char), d.isLower = false → d.toLower = d →
        (d == c) = (d == c.toLower) := by
      intro c d hd hfixed
      rw [Bool.eq_iff_iff, beq_iff_eq, beq_iff_eq]
      constructor
      · intro hc
        rw [← hc, hfixed]
      · intro hc
        exact (eq_of_toLower_eq hd hc.symm).symm
    have hlist : ∀ cs : List Char, ['*', '.'].isPrefixOf cs =
        ['*', '.'].isPrefixOf (cs.map Char.toLower) := by
      intro cs
      match cs with
      | [] => rfl
      | [a] =>
        change ('*' == a && false) = ('*' == a.toLower && false)
        rw [Bool.and_false, Bool.and_false]
      | a :: b :: rest =>
        change ('*' == a && ('.' == b && true)) = ('*' == a.toLower && ('.' == b.toLower && true))
        rw [hmark a '*' rfl rfl, hmark b '.' rfl rfl]
    have hlowered : (toAsciiLowercase s).toList = s.toList.map Char.toLower := String.toList_ofList
    rw [startsWith, startsWith, hlowered]
    exact hlist s.toList
  rw [hlower pattern, hlower other, beq_iff_eq.mp h]

/-- An exact pattern is compared up to case. -/
theorem matchesPattern_exact {pattern hostname : String}
    (hexact : startsWith pattern "*." = false) :
    matchesPattern pattern (some hostname) =
      (!pattern.isEmpty && eqIgnoreAsciiCase pattern hostname) := by
  have hrest : stripStart pattern "*." = none := by
    rw [stripStart, hexact]
    rfl
  rw [matchesPattern, hrest]
  cases pattern.isEmpty with
  | true => rfl
  | false => rfl

/-- Texts that agree up to case are both empty or both not. -/
theorem isEmpty_of_eqIgnoreAsciiCase {pattern other : String}
    (h : eqIgnoreAsciiCase pattern other = true) : pattern.isEmpty = other.isEmpty := by
  have hlength := congrArg List.length (eqIgnoreAsciiCase_iff.mp h)
  rw [List.length_map, List.length_map] at hlength
  rw [Bool.eq_iff_iff, String.isEmpty_iff, String.isEmpty_iff, ← String.toList_eq_nil_iff,
    ← String.toList_eq_nil_iff, ← List.length_eq_zero_iff, ← List.length_eq_zero_iff, hlength]

/-- The case of an exact pattern and of the hostname does not count. -/
theorem matchesPattern_exact_congr {pattern other hostname otherHostname : String}
    (hexact : startsWith pattern "*." = false) (hpattern : eqIgnoreAsciiCase other pattern = true)
    (hhostname : eqIgnoreAsciiCase otherHostname hostname = true) :
    matchesPattern other (some otherHostname) = matchesPattern pattern (some hostname) := by
  have hother : startsWith other "*." = false := by
    rw [startsWith_wildcard_of_eqIgnoreAsciiCase hpattern, hexact]
  rw [matchesPattern_exact hexact, matchesPattern_exact hother,
    isEmpty_of_eqIgnoreAsciiCase hpattern, eqIgnoreAsciiCase, eqIgnoreAsciiCase,
    beq_iff_eq.mp hpattern, beq_iff_eq.mp hhostname]

/-- A pattern that agrees up to case with a matching one matches, unless it is
a wildcard. -/
theorem matchesPattern_of_eqIgnoreAsciiCase {pattern other : String} {hostname : Option String}
    (h : eqIgnoreAsciiCase pattern other = true) (hplain : startsWith pattern "*." = false)
    (hmatch : matchesPattern pattern hostname = true) : matchesPattern other hostname = true := by
  cases hostname with
  | none =>
    rw [matchesPattern, isEmpty_of_eqIgnoreAsciiCase h] at hmatch
    rw [matchesPattern]
    exact hmatch
  | some name =>
    have hother : eqIgnoreAsciiCase other pattern = true := by
      rw [eqIgnoreAsciiCase_iff, eqIgnoreAsciiCase_iff.mp h]
    have hname : eqIgnoreAsciiCase name name = true := eqIgnoreAsciiCase_iff.mpr rfl
    rw [matchesPattern_exact_congr hplain hother hname, hmatch]

/-- A wildcard matches the hostnames that end with the dot and its suffix, as both
are spelled. -/
theorem matchesPattern_wildcard {suffix hostname : String} :
    matchesPattern ("*." ++ suffix) (some hostname) = true ↔
      ('.' :: suffix.toList) <:+ hostname.toList := by
  have hfilled : ("*." ++ suffix).isEmpty = false := by
    rw [Bool.eq_false_iff, Ne, String.isEmpty_iff, ← String.toList_eq_nil_iff,
      String.toList_append]
    exact List.cons_ne_nil '*' _
  have hrest : stripStart ("*." ++ suffix) "*." = some suffix := by
    rw [stripStart_eq_some, String.toList_append]
  rw [matchesPattern, hfilled, hrest, if_neg Bool.false_ne_true]
  dsimp only
  constructor
  · intro h
    cases hend : stripEnd hostname suffix with
    | none =>
      rw [hend] at h
      cases h
    | some before =>
      rw [hend] at h
      obtain ⟨labels, hlabels⟩ := List.getLast?_eq_some_iff.mp (beq_iff_eq.mp h)
      refine ⟨labels, ?_⟩
      rw [stripEnd_eq_some.mp hend, hlabels, List.append_assoc]
      rfl
  · intro h
    obtain ⟨labels, hlabels⟩ := h
    have hend : stripEnd hostname suffix = some (String.ofList (labels ++ ['.'])) := by
      rw [stripEnd_eq_some, String.toList_ofList, ← hlabels, List.append_assoc]
      rfl
    rw [hend]
    dsimp only
    rw [beq_iff_eq, String.toList_ofList, List.getLast?_concat]

/-- What starts like a wildcard is one. -/
theorem wildcard_of_startsWith {pattern : String} (h : startsWith pattern "*." = true) :
    ∃ suffix, pattern = "*." ++ suffix := by
  obtain ⟨rest, hrest⟩ := List.isPrefixOf_iff_prefix.mp h
  refine ⟨String.ofList rest, ?_⟩
  rw [← String.toList_inj, String.toList_append, String.toList_ofList (l := rest), hrest]

/-- A wildcard in another case is a wildcard over its suffix in another case. -/
theorem wildcard_of_eqIgnoreAsciiCase {pattern suffix : String}
    (h : eqIgnoreAsciiCase pattern ("*." ++ suffix) = true) :
    ∃ other, pattern = "*." ++ other ∧ eqIgnoreAsciiCase other suffix = true := by
  have hstart : startsWith pattern "*." = true := by
    rw [startsWith_wildcard_of_eqIgnoreAsciiCase h, startsWith, String.toList_append]
    exact List.isPrefixOf_iff_prefix.mpr (List.prefix_append _ _)
  obtain ⟨other, hpattern⟩ := wildcard_of_startsWith hstart
  refine ⟨other, hpattern, ?_⟩
  rw [eqIgnoreAsciiCase_iff, hpattern, String.toList_append, String.toList_append, List.map_append,
    List.map_append, List.append_cancel_left_eq] at h
  exact eqIgnoreAsciiCase_iff.mpr h

/-- The hostname ends with a dot and the suffix, up to case. -/
def EndsBelow (suffix hostname : String) : Prop :=
  ∃ before, eqIgnoreAsciiCase hostname (before ++ "." ++ suffix) = true

/-- Something stands before the dot, too. -/
def IsSubdomain (suffix hostname : String) : Prop :=
  ∃ before, before ≠ "" ∧ eqIgnoreAsciiCase hostname (before ++ "." ++ suffix) = true

/-- What matching without regard to case is for one pattern and hostname. -/
structure CaseInsensitive (pattern hostname : String) : Prop where
  /-- Other cases of both give the same answer. -/
  variants : ∀ otherPattern otherHostname, eqIgnoreAsciiCase otherPattern pattern = true →
    eqIgnoreAsciiCase otherHostname hostname = true →
    matchesPattern otherPattern (some otherHostname) = matchesPattern pattern (some hostname)
  /-- A wildcard matches the subdomains of its suffix. -/
  wildcard : ∀ suffix, suffix ≠ "" → pattern = "*." ++ suffix →
    (matchesPattern pattern (some hostname) = true ↔ IsSubdomain suffix hostname)

/-- The suffix of a wildcard has no case, and something stands before the dot. -/
def Caseless (suffix hostname : String) : Prop :=
  (∀ c ∈ suffix.toList, c.isAlpha = false) ∧ (suffix = "" ∨ hostname ≠ "." ++ suffix)

section

variable {suffix hostname : String}

/-- The lowered characters of a hostname below a suffix. -/
theorem endsBelow_iff : EndsBelow suffix hostname ↔
    ('.' :: suffix.toList.map Char.toLower) <:+ hostname.toList.map Char.toLower := by
  constructor
  · intro h
    obtain ⟨before, hbefore⟩ := h
    refine ⟨before.toList.map Char.toLower, ?_⟩
    rw [eqIgnoreAsciiCase_iff.mp hbefore, String.toList_append, String.toList_append,
      List.map_append, List.map_append, List.append_assoc]
    rfl
  · intro h
    obtain ⟨before, hbefore⟩ := h
    refine ⟨String.ofList (hostname.toList.take before.length), ?_⟩
    have htaken : (hostname.toList.take before.length).map Char.toLower = before := by
      rw [List.map_take, ← hbefore, List.take_left]
    rw [eqIgnoreAsciiCase_iff, String.toList_append, String.toList_append, String.toList_ofList,
      List.map_append, List.map_append, htaken, List.append_assoc, ← hbefore]
    rfl

/-- A matching hostname ends below the suffix. -/
theorem endsBelow_of_matches (h : matchesPattern ("*." ++ suffix) (some hostname) = true) :
    EndsBelow suffix hostname := by
  rw [endsBelow_iff]
  exact (matchesPattern_wildcard.mp h).map Char.toLower

/-- Ending below a suffix does not depend on the case of either. -/
theorem endsBelow_congr {otherSuffix otherHostname : String}
    (hsuffix : eqIgnoreAsciiCase otherSuffix suffix = true)
    (hhostname : eqIgnoreAsciiCase otherHostname hostname = true) :
    EndsBelow otherSuffix otherHostname ↔ EndsBelow suffix hostname := by
  rw [endsBelow_iff, endsBelow_iff, eqIgnoreAsciiCase_iff.mp hsuffix,
    eqIgnoreAsciiCase_iff.mp hhostname]

/-- A text without letters has no other case. -/
theorem eq_of_caseless (hcaseless : ∀ c ∈ suffix.toList, c.isAlpha = false) {cs : List Char}
    (h : cs.map Char.toLower = suffix.toList.map Char.toLower) : cs = suffix.toList := by
  revert h
  generalize suffix.toList = ds at hcaseless
  induction ds generalizing cs with
  | nil => exact List.map_eq_nil_iff.mp
  | cons d ds ih =>
    intro h
    cases cs with
    | nil => cases h
    | cons c cs =>
      rw [List.map_cons, List.map_cons, List.cons_eq_cons] at h
      have hhead := eq_of_toLower_eq_toLower (hcaseless d List.mem_cons_self) h.1
      have htail := ih (fun x hx => hcaseless x (List.mem_cons_of_mem d hx)) h.2
      rw [hhead, htail]

/-- A wildcard over a suffix without letters matches every hostname below it. -/
theorem matches_of_endsBelow (hcaseless : ∀ c ∈ suffix.toList, c.isAlpha = false)
    (h : EndsBelow suffix hostname) :
    matchesPattern ("*." ++ suffix) (some hostname) = true := by
  rw [matchesPattern_wildcard]
  obtain ⟨before, hbefore⟩ := h
  have hlower := eqIgnoreAsciiCase_iff.mp hbefore
  rw [String.toList_append, String.toList_append, List.map_append, List.map_append,
    List.append_assoc] at hlower
  obtain ⟨left, right, hhostname, -, hright⟩ := List.map_eq_append_iff.mp hlower
  obtain ⟨dot, rest, hsplit, hdot, hrest⟩ := List.map_eq_append_iff.mp hright
  have hrestEq := eq_of_caseless hcaseless hrest
  have hdotEq : dot = ".".toList := by
    refine eq_of_caseless ?_ hdot
    intro c hc
    rw [List.mem_singleton.mp hc]
    rfl
  rw [hhostname, hsplit, hdotEq, hrestEq]
  exact List.suffix_append _ _

/-- In a hostname that a wildcard matches, only its spelling of the suffix is below. -/
theorem caseless_of_variants
    (hvariants : ∀ otherPattern, eqIgnoreAsciiCase otherPattern ("*." ++ suffix) = true →
      matchesPattern otherPattern (some hostname) = true)
    (hmatch : matchesPattern ("*." ++ suffix) (some hostname) = true) :
    ∀ c ∈ suffix.toList, c.isAlpha = false := by
  intro c hc
  by_contra halpha
  obtain ⟨d, hne, hd⟩ := exists_other_case (Bool.not_eq_false _ ▸ halpha)
  obtain ⟨left, right, hsplit⟩ := List.append_of_mem hc
  have hother : eqIgnoreAsciiCase ("*." ++ String.ofList (left ++ d :: right)) ("*." ++ suffix) =
      true := by
    rw [eqIgnoreAsciiCase_iff, String.toList_append, String.toList_append, hsplit, List.map_append,
      List.map_append, List.append_cancel_left_eq, String.toList_ofList, List.map_append,
      List.map_append, List.map_cons, List.map_cons, hd]
  have hspelled := matchesPattern_wildcard.mp (hvariants _ hother)
  have hwritten := matchesPattern_wildcard.mp hmatch
  rw [String.toList_ofList] at hspelled
  have hlength : ('.' :: (left ++ d :: right)).length = ('.' :: suffix.toList).length := by
    rw [hsplit, List.length_cons, List.length_cons, List.length_append, List.length_append,
      List.length_cons, List.length_cons]
  have heq := List.IsSuffix.eq_of_length
    (List.suffix_of_suffix_length_le hspelled hwritten hlength.le) hlength
  rw [hsplit, List.cons_eq_cons, List.append_cancel_left_eq, List.cons_eq_cons] at heq
  exact hne heq.2.1

end

/-- The case of a wildcard and of the hostname does not count under the condition. -/
theorem variants_of_caseless {suffix hostname other otherHostname : String}
    (h : EndsBelow suffix hostname → Caseless suffix hostname)
    (hcase : eqIgnoreAsciiCase other ("*." ++ suffix) = true)
    (hhostname : eqIgnoreAsciiCase otherHostname hostname = true) :
    matchesPattern other (some otherHostname) =
      matchesPattern ("*." ++ suffix) (some hostname) := by
  obtain ⟨otherSuffix, hotherPattern, hsuffix⟩ := wildcard_of_eqIgnoreAsciiCase hcase
  subst hotherPattern
  have hbelow := endsBelow_congr hsuffix hhostname
  rw [Bool.eq_iff_iff]
  constructor
  · intro hmatch
    have hends := hbelow.mp (endsBelow_of_matches hmatch)
    exact matches_of_endsBelow (h hends).1 hends
  · intro hmatch
    have hends := endsBelow_of_matches hmatch
    have hcaseless := (h hends).1
    have hspelled : otherSuffix = suffix := by
      rw [← String.toList_inj]
      exact eq_of_caseless hcaseless (eqIgnoreAsciiCase_iff.mp hsuffix)
    rw [hspelled]
    exact matches_of_endsBelow hcaseless (hspelled ▸ hbelow.mpr hends)

/-- A wildcard matches the subdomains of its suffix under the condition. -/
theorem wildcard_of_caseless {suffix hostname : String} (hne : suffix ≠ "")
    (h : EndsBelow suffix hostname → Caseless suffix hostname) :
    matchesPattern ("*." ++ suffix) (some hostname) = true ↔ IsSubdomain suffix hostname := by
  constructor
  · intro hmatch
    have hends := endsBelow_of_matches hmatch
    obtain ⟨before, hbefore⟩ := matchesPattern_wildcard.mp hmatch
    refine ⟨String.ofList before, ?_, ?_⟩
    · intro hempty
      rcases (h hends).2 with hsuffix | hhostname
      · exact hne hsuffix
      · apply hhostname
        rw [← String.toList_inj, ← hbefore, String.ofList_eq_empty_iff.mp hempty,
          String.toList_append]
        rfl
    · rw [eqIgnoreAsciiCase_iff, ← hbefore, String.toList_append, String.toList_append,
        String.toList_ofList, List.append_assoc]
      rfl
  · intro hbelow
    obtain ⟨before, -, hbefore⟩ := hbelow
    have hends : EndsBelow suffix hostname := ⟨before, hbefore⟩
    exact matches_of_endsBelow (h hends).1 hends

/-- Where case does not count for a wildcard, the condition holds. -/
theorem caseless_of_caseInsensitive {suffix hostname : String}
    (h : CaseInsensitive ("*." ++ suffix) hostname) (hbelow : EndsBelow suffix hostname) :
    Caseless suffix hostname := by
  obtain ⟨before, hbefore⟩ := hbelow
  have hspelled : matchesPattern ("*." ++ suffix) (some (before ++ "." ++ suffix)) = true := by
    rw [matchesPattern_wildcard, String.toList_append, String.toList_append, List.append_assoc]
    exact List.suffix_append _ _
  have hsame : ∀ text : String, eqIgnoreAsciiCase text text = true :=
    fun text => eqIgnoreAsciiCase_iff.mpr rfl
  have hother : eqIgnoreAsciiCase (before ++ "." ++ suffix) hostname = true := by
    rw [eqIgnoreAsciiCase_iff, eqIgnoreAsciiCase_iff.mp hbefore]
  have hmatch : matchesPattern ("*." ++ suffix) (some hostname) = true := by
    rw [← h.variants _ _ (hsame ("*." ++ suffix)) hother, hspelled]
  refine ⟨?_, ?_⟩
  · refine caseless_of_variants ?_ hmatch
    intro other hcase
    rw [← hmatch]
    exact h.variants other hostname hcase (hsame hostname)
  · by_contra hboth
    rw [not_or, not_not] at hboth
    obtain ⟨hsuffix, hhostname⟩ := hboth
    obtain ⟨first, hfirst, hlonger⟩ := (h.wildcard suffix hsuffix rfl).mp hmatch
    have hlength := congrArg List.length (eqIgnoreAsciiCase_iff.mp hlonger)
    rw [List.length_map, List.length_map, hhostname, String.toList_append, String.toList_append,
      String.toList_append, List.length_append, List.length_append, List.length_append] at hlength
    apply hfirst
    rw [← String.toList_eq_nil_iff, ← List.length_eq_zero_iff]
    omega

/-- Case does not count for a pattern and a hostname exactly when the pattern is no
wildcard, the hostname does not end below its suffix, or the suffix has no letter and
the hostname is more than a dot and that suffix. -/
theorem pattern_case_insensitive_iff (pattern hostname : String) :
    CaseInsensitive pattern hostname ↔
      ∀ suffix, pattern = "*." ++ suffix → EndsBelow suffix hostname →
        Caseless suffix hostname := by
  constructor
  · intro h suffix hpattern hbelow
    subst hpattern
    exact caseless_of_caseInsensitive h hbelow
  · intro h
    refine ⟨?_, ?_⟩
    · intro other otherHostname hcase hhostname
      cases hwild : startsWith pattern "*." with
      | false => exact matchesPattern_exact_congr hwild hcase hhostname
      | true =>
        obtain ⟨suffix, hpattern⟩ := wildcard_of_startsWith hwild
        subst hpattern
        exact variants_of_caseless (h suffix rfl) hcase hhostname
    · intro suffix hne hpattern
      subst hpattern
      exact wildcard_of_caseless hne (h suffix rfl)

/-- A hostname below a wildcard is not matched when one letter is in another case. -/
theorem wildcard_counts_case :
    ¬ ∀ pattern hostname : String, CaseInsensitive pattern hostname := by
  intro h
  have hwildcard := (h "*.example.com" "foo.Example.com").wildcard "example.com"
    (by decide) (by decide)
  have hbelow : IsSubdomain "example.com" "foo.Example.com" := ⟨"foo", by decide, by decide⟩
  have hmatch := hwildcard.mpr hbelow
  have hnot : matchesPattern "*.example.com" (some "foo.Example.com") = false := by decide
  rw [hnot] at hmatch
  cases hmatch

end LfpPipe.PatternCase
