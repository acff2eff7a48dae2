import LfpPipe.ClientSession
import LfpPipe.ConfigExpansion

/-!
# Which rule serves a request path

A path prefix matches on a segment boundary once its trailing slashes are
removed, but the most specific rule is the one with the longest prefix as it is
written. The two orders agree where no matching prefix is longer only through its
trailing slashes; there the order of the rules does not matter either.
-/

namespace LfpPipe.PathSelection

open RustText Fallible GreatestElements SharedConfig SharedRouting ConfigExpansion
open ClientAuthorizer ClientSession

/-- A path that is the given text or goes on after it with a slash. -/
def SegmentPrefix (text path : String) : Prop :=
  path = text ∨ (text.toList ++ ['/']) <+: path.toList

/-- A segment prefix is a beginning of the path. -/
theorem SegmentPrefix.prefix_toList {text path : String} (h : SegmentPrefix text path) :
    text.toList <+: path.toList := by
  rcases h with rfl | hslash
  · exact List.prefix_rfl
  · exact (List.prefix_append text.toList ['/']).trans hslash

/-- Segment prefixes of one path with the same size are the same. -/
theorem SegmentPrefix.eq_of_size_eq {text other path : String} (h : SegmentPrefix text path)
    (hother : SegmentPrefix other path) (hsize : text.utf8ByteSize = other.utf8ByteSize) :
    text = other := by
  have hcases : ∀ {short long : String}, short.toList <+: long.toList →
      short.utf8ByteSize = long.utf8ByteSize → short = long := by
    intro short long hwritten heq
    obtain ⟨rest, hrest⟩ := hwritten
    have hlong : long = short ++ String.ofList rest := by
      rw [← String.toList_inj, String.toList_append, String.toList_ofList, hrest]
    rw [hlong, String.utf8ByteSize_append] at heq
    have hempty : String.ofList rest = "" := by
      rw [← String.utf8ByteSize_eq_zero_iff]
      omega
    rw [hlong, hempty, String.append_empty]
  rcases List.prefix_or_prefix_of_prefix h.prefix_toList hother.prefix_toList with hle | hge
  · exact hcases hle hsize
  · exact (hcases hge hsize.symm).symm

/-- A text starts with a slash. -/
theorem startsWith_slash {s : String} : startsWith s "/" = true ↔ ['/'] <+: s.toList :=
  List.isPrefixOf_iff_prefix

/-- What a prefix matches: for the root every path that starts with a slash, and
for another prefix the paths that its trimmed text is a segment prefix of. -/
theorem matchesPathPrefix_iff {pathPrefix path : String} :
    matchesPathPrefix pathPrefix path = true ↔
      (pathPrefix = "/" → startsWith path "/" = true) ∧
      (pathPrefix ≠ "/" → SegmentPrefix (trimEndMatches '/' pathPrefix) path) := by
  rw [matchesPathPrefix]
  by_cases hroot : pathPrefix = "/"
  · rw [if_pos (beq_iff_eq.mpr hroot)]
    constructor
    · intro h
      exact ⟨fun _ => h, fun hne => absurd hroot hne⟩
    · intro h
      exact h.1 hroot
  · have hother : ¬ (pathPrefix == "/") = true := by
      rw [beq_iff_eq]
      exact hroot
    rw [if_neg hother]
    dsimp only
    rw [Bool.or_eq_true, beq_iff_eq, Option.any_eq_true]
    have hslash : (∃ rest, stripStart path (trimEndMatches '/' pathPrefix) = some rest ∧
        startsWith rest "/" = true) ↔
        ((trimEndMatches '/' pathPrefix).toList ++ ['/']) <+: path.toList := by
      constructor
      · intro h
        obtain ⟨rest, hrest, hstart⟩ := h
        obtain ⟨after, hafter⟩ := startsWith_slash.mp hstart
        refine ⟨after, ?_⟩
        rw [stripStart_eq_some.mp hrest, ← hafter, List.append_assoc]
      · intro h
        obtain ⟨after, hafter⟩ := h
        refine ⟨String.ofList ('/' :: after), ?_, ?_⟩
        · rw [stripStart_eq_some, String.toList_ofList, ← hafter, List.append_assoc]
          rfl
        · rw [startsWith_slash, String.toList_ofList]
          exact ⟨after, rfl⟩
    rw [hslash]
    constructor
    · intro h
      exact ⟨fun heq => absurd heq hroot, fun _ => h⟩
    · intro h
      exact h.2 hroot

/-- A matching prefix without its trailing slashes is a segment prefix. -/
theorem segmentPrefix_of_matches {pathPrefix path : String}
    (h : matchesPathPrefix pathPrefix path = true) :
    SegmentPrefix (trimEndMatches '/' pathPrefix) path := by
  by_cases hroot : pathPrefix = "/"
  · have hstart := startsWith_slash.mp ((matchesPathPrefix_iff.mp h).1 hroot)
    have hempty : trimEndMatches '/' pathPrefix = "" := by
      rw [hroot]
      rfl
    rw [hempty]
    exact .inr hstart
  · exact (matchesPathPrefix_iff.mp h).2 hroot

/-- Prefixes of one size that are the same without trailing slashes are the same. -/
theorem eq_of_trimEndMatches_eq {c : Char} {left right : String}
    (htrimmed : trimEndMatches c left = trimEndMatches c right)
    (hsize : left.utf8ByteSize = right.utf8ByteSize) : left = right := by
  have hparts : ∀ s : String, s = trimEndMatches c s ++
      String.ofList (List.replicate (countEndMatches c s) c) := by
    intro s
    rw [← String.toList_inj, String.toList_append, String.toList_ofList]
    exact toList_eq_trimEndMatches_append c s
  have hrun : ∀ count : ℕ,
      (String.ofList (List.replicate count c)).utf8ByteSize = count * c.utf8Size := by
    intro count
    induction count with
    | zero => rw [Nat.zero_mul]; rfl
    | succ count ih =>
      have hcons : String.ofList (List.replicate (count + 1) c) =
          String.singleton c ++ String.ofList (List.replicate count c) := by
        rw [← String.toList_inj, String.toList_append, String.toList_ofList, String.toList_ofList,
          String.toList_singleton]
        rfl
      rw [hcons, String.utf8ByteSize_append, ih, String.utf8ByteSize_singleton, Nat.succ_mul,
        Nat.add_comm]
  have hcount : countEndMatches c left = countEndMatches c right := by
    have hleft := congrArg String.utf8ByteSize (hparts left)
    have hright := congrArg String.utf8ByteSize (hparts right)
    rw [String.utf8ByteSize_append, hrun] at hleft hright
    rw [htrimmed, hsize, hright] at hleft
    have hequal := Nat.add_left_cancel hleft
    exact (Nat.eq_of_mul_eq_mul_right (Char.utf8Size_pos c) hequal).symm
  rw [hparts left, hparts right, htrimmed, hcount]

/-- Elements with the same value are the same when no value occurs twice. -/
theorem eq_of_nodup_filterMap {α β : Type} {f : α → Option β} {xs : List α}
    (h : (xs.filterMap f).Nodup) {x y : α} (hx : x ∈ xs) (hy : y ∈ xs) {b : β}
    (hfx : f x = some b) (hfy : f y = some b) : x = y := by
  induction xs with
  | nil => cases hx
  | cons z zs ih =>
    have hlater : ∀ {w : α}, w ∈ zs → f w = some b → b ∈ zs.filterMap f :=
      fun hw hfw => List.mem_filterMap.mpr ⟨_, hw, hfw⟩
    rcases List.mem_cons.mp hx with rfl | hxlater
    · rw [List.filterMap_cons_some hfx, List.nodup_cons] at h
      rcases List.mem_cons.mp hy with rfl | hylater
      · rfl
      · exact absurd (hlater hylater hfy) h.1
    · rcases List.mem_cons.mp hy with rfl | hylater
      · rw [List.filterMap_cons_some hfy, List.nodup_cons] at h
        exact absurd (hlater hxlater hfx) h.1
      · refine ih ?_ hxlater hylater
        cases hz : f z with
        | none =>
          rw [List.filterMap_cons_none hz] at h
          exact h
        | some c =>
          rw [List.filterMap_cons_some hz, List.nodup_cons] at h
          exact h.2

/-- The prefixes of the rules that match a path. -/
def matchingPrefixes (rules : List BackendRule) (path : String) : List String :=
  (rules.filterMap fun rule => rule.pathPrefix).filter fun pathPrefix =>
    matchesPathPrefix pathPrefix path

/-- Size of a prefix without its trailing slashes. -/
def trimmedSize (pathPrefix : String) : ℕ := (trimEndMatches '/' pathPrefix).utf8ByteSize

/-- No matching prefix is the longest one as written unless it also is without
its trailing slashes. -/
def WrittenSizesAgree (rules : List BackendRule) (path : String) : Prop :=
  ∀ pathPrefix, Greatest String.utf8ByteSize (matchingPrefixes rules path) pathPrefix →
    Greatest trimmedSize (matchingPrefixes rules path) pathPrefix

section

variable {Key : Type}

/-- The size by which the most specific rule is chosen. -/
def writtenSize (backend : BackendRuntime Key) : ℕ :=
  (backend.rule.pathPrefix.map String.utf8ByteSize).getD 0

/-- What validation and the hostname make of the rules of a connection. -/
structure PathRules (backends : List (BackendRuntime Key)) (hostname : Option String) : Prop where
  /-- All rules match the hostname. -/
  matching : ∀ backend ∈ backends, backend.matchesHostname hostname = true
  /-- No prefix occurs twice. -/
  distinct : (backends.filterMap fun backend => backend.rule.pathPrefix).Nodup
  /-- One rule has no prefix. -/
  fallback : ∃ fallback, (backends.filter fun backend => backend.rule.pathPrefix.isNone) =
    [fallback]

/-- The rules of an accepted configuration with a path rule. -/
theorem pathRules_of_accepted {config : ClientConfig} {backends : List (BackendRuntime Key)}
    {hostname : Option String} (hvalid : validateClientConfig config = .ok ())
    (hpaths : ∃ rule ∈ config.backendRules, rule.pathPrefix.isSome = true)
    (hrules : backends.map BackendRuntime.rule = config.backendRules)
    (hmatching : ∀ rule ∈ config.backendRules, matchesPattern rule.pattern hostname = true) :
    PathRules backends hostname := by
  simp only [validateClientConfig, bind_eq_ok, ensure_eq_ok] at hvalid
  obtain ⟨_, -, _, hcount, _, hprefixes, -⟩ := hvalid
  have hsome : (config.backendRules.any fun rule => rule.pathPrefix.isSome) = true :=
    List.any_eq_true.mpr hpaths
  rw [hsome, Bool.not_true, Bool.false_or, beq_iff_eq, ← hrules, List.filter_map,
    List.length_map] at hcount
  have hdistinct := (validateRules_eq_ok.mp hprefixes).2.2
  rw [← hrules, List.filterMap_map] at hdistinct
  refine ⟨?_, hdistinct, List.length_eq_one_iff.mp hcount⟩
  intro backend hm
  refine hmatching backend.rule ?_
  rw [← hrules]
  exact List.mem_map_of_mem hm

/-- Another order of the rules is as good. -/
theorem PathRules.perm {backends others : List (BackendRuntime Key)} {hostname : Option String}
    (h : PathRules backends hostname) (hperm : others.Perm backends) :
    PathRules others hostname where
  matching backend hm := h.matching backend (hperm.mem_iff.mp hm)
  distinct := (hperm.filterMap _).nodup_iff.mpr h.distinct
  fallback := by
    obtain ⟨fallback, hfallback⟩ := h.fallback
    refine ⟨fallback, ?_⟩
    have hfilter := hperm.filter fun backend => backend.rule.pathPrefix.isNone
    rw [hfallback] at hfilter
    exact List.perm_singleton.mp hfilter

/-- The prefixes of the backends that match a path. -/
theorem mem_matchingPrefixes {backends : List (BackendRuntime Key)} {path pathPrefix : String} :
    pathPrefix ∈ matchingPrefixes (backends.map BackendRuntime.rule) path ↔
      ∃ backend ∈ backends, backend.rule.pathPrefix = some pathPrefix ∧
        matchesPathPrefix pathPrefix path = true := by
  rw [matchingPrefixes, List.mem_filter, List.mem_filterMap]
  constructor
  · intro h
    obtain ⟨⟨rule, hrule, hwritten⟩, hpath⟩ := h
    obtain ⟨backend, hm, rfl⟩ := List.mem_map.mp hrule
    exact ⟨backend, hm, hwritten, hpath⟩
  · intro h
    obtain ⟨backend, hm, hwritten, hpath⟩ := h
    exact ⟨⟨backend.rule, List.mem_map_of_mem hm, hwritten⟩, hpath⟩

/-- The same prefixes match in another order. -/
theorem mem_matchingPrefixes_perm {backends others : List (BackendRuntime Key)}
    (hperm : others.Perm backends) {path pathPrefix : String} :
    pathPrefix ∈ matchingPrefixes (others.map BackendRuntime.rule) path ↔
      pathPrefix ∈ matchingPrefixes (backends.map BackendRuntime.rule) path := by
  rw [mem_matchingPrefixes, mem_matchingPrefixes]
  constructor
  · intro h
    obtain ⟨backend, hm, hwritten⟩ := h
    exact ⟨backend, hperm.mem_iff.mp hm, hwritten⟩
  · intro h
    obtain ⟨backend, hm, hwritten⟩ := h
    exact ⟨backend, hperm.mem_iff.mpr hm, hwritten⟩

/-- A backend matches a path when its prefix does. -/
theorem PathRules.matchesPath_iff {backends : List (BackendRuntime Key)}
    {hostname : Option String} (h : PathRules backends hostname) {backend : BackendRuntime Key}
    (hm : backend ∈ backends) {path : String} :
    backend.matchesPath hostname path = true ↔ ∃ pathPrefix,
      backend.rule.pathPrefix = some pathPrefix ∧ matchesPathPrefix pathPrefix path = true := by
  rw [BackendRuntime.matchesPath, h.matching backend hm, Bool.true_and, Option.any_eq_true]

/-- The backends whose prefix matches. -/
def matchingBackends (backends : List (BackendRuntime Key)) (hostname : Option String)
    (path : String) : List (BackendRuntime Key) :=
  backends.filter fun backend => backend.matchesPath hostname path

/-- The selection is the last of the matching backends with the longest prefix. -/
theorem selectRuntimeForPath_eq (backends : List (BackendRuntime Key)) (hostname : Option String)
    (path : String) :
    selectRuntimeForPath backends hostname path =
      (maxByKey writtenSize (matchingBackends backends hostname path)).or
        (backends.find? fun backend => backend.isFallback hostname) := rfl

/-- Where a prefix matches, the selected backend has the longest one as written. -/
theorem PathRules.select_path {backends : List (BackendRuntime Key)} {hostname : Option String}
    (h : PathRules backends hostname) {path : String}
    (hne : matchingPrefixes (backends.map BackendRuntime.rule) path ≠ []) :
    ∃ backend ∈ backends, ∃ pathPrefix,
      selectRuntimeForPath backends hostname path = some backend ∧
      backend.rule.pathPrefix = some pathPrefix ∧
      Greatest String.utf8ByteSize (matchingPrefixes (backends.map BackendRuntime.rule) path)
        pathPrefix := by
  obtain ⟨first, hfirst⟩ := List.exists_mem_of_ne_nil _ hne
  obtain ⟨found, hfound, hwritten, hpath⟩ := mem_matchingPrefixes.mp hfirst
  have hsome : maxByKey writtenSize (matchingBackends backends hostname path) ≠ none := by
    rw [Ne, maxByKey_eq_none_iff]
    have hmatching : found ∈ matchingBackends backends hostname path :=
      List.mem_filter.mpr ⟨hfound, (h.matchesPath_iff hfound).mpr ⟨first, hwritten, hpath⟩⟩
    exact List.ne_nil_of_mem hmatching
  obtain ⟨backend, hbackend⟩ := Option.ne_none_iff_exists'.mp hsome
  have hgreatest := greatest_of_maxByKey hbackend
  obtain ⟨hm, hmatches⟩ := List.mem_filter.mp hgreatest.mem
  obtain ⟨pathPrefix, hbest, hbestPath⟩ := (h.matchesPath_iff hm).mp hmatches
  refine ⟨backend, hm, pathPrefix, ?_, hbest, ?_, ?_⟩
  · rw [selectRuntimeForPath_eq, hbackend, Option.some_or]
  · exact mem_matchingPrefixes.mpr ⟨backend, hm, hbest, hbestPath⟩
  · intro other hother
    obtain ⟨owner, howner, hownerPrefix, hownerPath⟩ := mem_matchingPrefixes.mp hother
    have hmatching : owner ∈ matchingBackends backends hostname path :=
      List.mem_filter.mpr ⟨howner, (h.matchesPath_iff howner).mpr ⟨other, hownerPrefix, hownerPath⟩⟩
    have hle := hgreatest.le owner hmatching
    rw [writtenSize, writtenSize, hownerPrefix, hbest] at hle
    exact hle

/-- Where no prefix matches, the rule without one is selected. -/
theorem PathRules.select_fallback {backends : List (BackendRuntime Key)}
    {hostname : Option String} (h : PathRules backends hostname) {path : String}
    (hempty : matchingPrefixes (backends.map BackendRuntime.rule) path = [])
    {fallback : BackendRuntime Key}
    (hfallback : (backends.filter fun backend => backend.rule.pathPrefix.isNone) = [fallback]) :
    selectRuntimeForPath backends hostname path = some fallback := by
  have hnone : maxByKey writtenSize (matchingBackends backends hostname path) = none := by
    rw [maxByKey_eq_none_iff, List.eq_nil_iff_forall_not_mem]
    intro backend hmatching
    obtain ⟨hm, hmatches⟩ := List.mem_filter.mp hmatching
    obtain ⟨pathPrefix, hwritten, hpath⟩ := (h.matchesPath_iff hm).mp hmatches
    have hlisted := mem_matchingPrefixes.mpr ⟨backend, hm, hwritten, hpath⟩
    rw [hempty] at hlisted
    cases hlisted
  have hsame : backends.filter (fun backend => backend.isFallback hostname) = [fallback] := by
    rw [← hfallback]
    refine List.filter_congr ?_
    intro backend hm
    rw [BackendRuntime.isFallback, h.matching backend hm, Bool.true_and]
  rw [selectRuntimeForPath_eq, hnone, Option.none_or, ← List.head?_filter, hsame]
  rfl

/-- The selected runtime has the rule that is selected among the rules. -/
theorem selectRuntimeForPath_rule (backends : List (BackendRuntime Key))
    (hostname : Option String) (path : String) :
    (selectRuntimeForPath backends hostname path).map BackendRuntime.rule =
      selectBackendForPath (backends.map BackendRuntime.rule) hostname path := by
  have hfallback : (fun rule : BackendRule => rule.pathPrefix.isNone &&
      matchesPattern rule.pattern hostname) ∘
        (BackendRuntime.rule : BackendRuntime Key → BackendRule) =
      fun backend => backend.isFallback hostname := by
    funext backend
    exact Bool.and_comm _ _
  rw [selectRuntimeForPath_eq, selectBackendForPath, List.filter_map, maxByKey_map,
    List.find?_map, hfallback, ← Option.map_or]
  rfl

/-- The most specific backend wins, in any order of the backends. -/
structure SelectsMostSpecific (backends : List (BackendRuntime Key)) (hostname : Option String)
    (path : String) : Prop where
  /-- Both selections return the same rule. -/
  same_rule : (selectRuntimeForPath backends hostname path).map BackendRuntime.rule =
    selectBackendForPath (backends.map BackendRuntime.rule) hostname path
  /-- Where a prefix matches, the selected one is, without its trailing slashes,
  the longest segment prefix of the path. -/
  path_rule : matchingPrefixes (backends.map BackendRuntime.rule) path ≠ [] →
    ∃ backend pathPrefix, selectRuntimeForPath backends hostname path = some backend ∧
      backend.rule.pathPrefix = some pathPrefix ∧
      SegmentPrefix (trimEndMatches '/' pathPrefix) path ∧
      Greatest trimmedSize (matchingPrefixes (backends.map BackendRuntime.rule) path) pathPrefix
  /-- Otherwise the one rule without a prefix is selected. -/
  fallback : matchingPrefixes (backends.map BackendRuntime.rule) path = [] →
    ∃ fallback, (backends.filter fun backend => backend.rule.pathPrefix.isNone) = [fallback] ∧
      selectRuntimeForPath backends hostname path = some fallback
  /-- The order of the rules does not matter. -/
  permuted : ∀ others, others.Perm backends →
    selectRuntimeForPath others hostname path = selectRuntimeForPath backends hostname path

/-- Where the sizes agree, the most specific backend wins. -/
theorem PathRules.selects {backends : List (BackendRuntime Key)} {hostname : Option String}
    (h : PathRules backends hostname) {path : String}
    (hagree : WrittenSizesAgree (backends.map BackendRuntime.rule) path) :
    SelectsMostSpecific backends hostname path where
  same_rule := selectRuntimeForPath_rule backends hostname path
  path_rule hne := by
    obtain ⟨backend, -, pathPrefix, hselect, hwritten, hgreatest⟩ := h.select_path hne
    obtain ⟨_, _, _, hpath⟩ := mem_matchingPrefixes.mp hgreatest.mem
    exact ⟨backend, pathPrefix, hselect, hwritten, segmentPrefix_of_matches hpath,
      hagree pathPrefix hgreatest⟩
  fallback hempty := by
    obtain ⟨fallback, hfallback⟩ := h.fallback
    exact ⟨fallback, hfallback, h.select_fallback hempty hfallback⟩
  permuted others hperm := by
    have hothers := h.perm hperm
    by_cases hempty : matchingPrefixes (backends.map BackendRuntime.rule) path = []
    · obtain ⟨fallback, hfallback⟩ := h.fallback
      have hsame : (others.filter fun backend => backend.rule.pathPrefix.isNone) = [fallback] := by
        have hfilter := hperm.filter fun backend => backend.rule.pathPrefix.isNone
        rw [hfallback] at hfilter
        exact List.perm_singleton.mp hfilter
      have hnone : matchingPrefixes (others.map BackendRuntime.rule) path = [] := by
        rw [List.eq_nil_iff_forall_not_mem]
        intro pathPrefix hm
        rw [mem_matchingPrefixes_perm hperm, hempty] at hm
        cases hm
      rw [h.select_fallback hempty hfallback, hothers.select_fallback hnone hsame]
    · have hne : matchingPrefixes (others.map BackendRuntime.rule) path ≠ [] := by
        obtain ⟨pathPrefix, hm⟩ := List.exists_mem_of_ne_nil _ hempty
        exact List.ne_nil_of_mem ((mem_matchingPrefixes_perm hperm).mpr hm)
      obtain ⟨backend, hm, pathPrefix, hselect, hwritten, hgreatest⟩ := h.select_path hempty
      obtain ⟨other, hother, otherPrefix, hotherSelect, hotherPrefix, hotherGreatest⟩ :=
        hothers.select_path hne
      have hmoved := hotherGreatest.congr fun p => mem_matchingPrefixes_perm hperm
      have htrimmed := hagree pathPrefix hgreatest
      have hotherTrimmed := hagree otherPrefix hmoved
      have hsize : pathPrefix.utf8ByteSize = otherPrefix.utf8ByteSize :=
        le_antisymm (hmoved.le pathPrefix hgreatest.mem) (hgreatest.le otherPrefix hmoved.mem)
      have htrimmedSize : trimmedSize pathPrefix = trimmedSize otherPrefix :=
        le_antisymm (hotherTrimmed.le pathPrefix htrimmed.mem)
          (htrimmed.le otherPrefix hotherTrimmed.mem)
      obtain ⟨_, _, _, hpath⟩ := mem_matchingPrefixes.mp hgreatest.mem
      obtain ⟨_, _, _, hotherPath⟩ := mem_matchingPrefixes.mp hmoved.mem
      have htext := (segmentPrefix_of_matches hpath).eq_of_size_eq
        (segmentPrefix_of_matches hotherPath) htrimmedSize
      rw [← eq_of_trimEndMatches_eq htext hsize] at hotherPrefix
      have hsame : backend = other :=
        eq_of_nodup_filterMap h.distinct hm (hperm.mem_iff.mp hother) hwritten hotherPrefix
      rw [hselect, hotherSelect, hsame]

/-- A backend that has the longest prefix as written is selected in some order. -/
theorem PathRules.exists_order {backends : List (BackendRuntime Key)} {hostname : Option String}
    (h : PathRules backends hostname) {path pathPrefix : String}
    (hgreatest : Greatest String.utf8ByteSize
      (matchingPrefixes (backends.map BackendRuntime.rule) path) pathPrefix) :
    ∃ others, others.Perm backends ∧ ∃ backend,
      selectRuntimeForPath others hostname path = some backend ∧
      backend.rule.pathPrefix = some pathPrefix := by
  obtain ⟨backend, hm, hwritten, hpath⟩ := mem_matchingPrefixes.mp hgreatest.mem
  obtain ⟨before, after, hsplit⟩ := List.append_of_mem hm
  have hperm : (before ++ after ++ [backend]).Perm backends := by
    rw [hsplit, List.append_assoc]
    exact List.perm_append_comm.append_left before
  refine ⟨before ++ after ++ [backend], hperm, backend, ?_, hwritten⟩
  have hmatches : backend.matchesPath hostname path = true :=
    (h.matchesPath_iff hm).mpr ⟨pathPrefix, hwritten, hpath⟩
  have hlast : matchingBackends (before ++ after ++ [backend]) hostname path =
      matchingBackends (before ++ after) hostname path ++ [backend] := by
    have hkept : [backend].filter (fun backend => backend.matchesPath hostname path) = [backend] :=
      List.filter_cons_of_pos hmatches
    rw [matchingBackends, List.filter_append, hkept]
    rfl
  rw [selectRuntimeForPath_eq, hlast, maxByKey_concat, Option.some_or]
  intro other hother
  obtain ⟨hearlier, hotherMatches⟩ := List.mem_filter.mp hother
  have hotherMem : other ∈ backends :=
    hperm.mem_iff.mp (List.mem_append_left [backend] hearlier)
  obtain ⟨otherPrefix, hotherPrefix, hotherPath⟩ := (h.matchesPath_iff hotherMem).mp hotherMatches
  have hle := hgreatest.le otherPrefix
    (mem_matchingPrefixes.mpr ⟨other, hotherMem, hotherPrefix, hotherPath⟩)
  rw [writtenSize, writtenSize, hotherPrefix, hwritten]
  exact hle

/-- Among the rules of an accepted configuration that all match the hostname, the
most specific one is selected, in any order, exactly when no matching prefix is
the longest only through its trailing slashes. -/
theorem most_specific_selected_iff {config : ClientConfig} {backends : List (BackendRuntime Key)}
    {hostname : Option String} (hvalid : validateClientConfig config = .ok ())
    (hpaths : ∃ rule ∈ config.backendRules, rule.pathPrefix.isSome = true)
    (hrules : backends.map BackendRuntime.rule = config.backendRules)
    (hmatching : ∀ rule ∈ config.backendRules, matchesPattern rule.pattern hostname = true)
    (path : String) :
    SelectsMostSpecific backends hostname path ↔ WrittenSizesAgree config.backendRules path := by
  have hpathRules := pathRules_of_accepted hvalid hpaths hrules hmatching
  rw [← hrules]
  constructor
  · intro hselects pathPrefix hgreatest
    obtain ⟨others, hperm, backend, hselect, hwritten⟩ := hpathRules.exists_order hgreatest
    rw [hselects.permuted others hperm] at hselect
    obtain ⟨selected, selectedPrefix, hselected, hselectedPrefix, -, htrimmed⟩ :=
      hselects.path_rule (List.ne_nil_of_mem hgreatest.mem)
    rw [hselected] at hselect
    cases hselect
    rw [hwritten] at hselectedPrefix
    cases hselectedPrefix
    exact htrimmed
  · intro hagree
    exact hpathRules.selects hagree

end

/-- A rule of one hostname. -/
def pathRule (pathPrefix : Option String) : BackendRule :=
  ⟨"docs.example", pathPrefix, true, true, ":8080", none, none, none⟩

/-- A flat file with a fallback and some path rules. -/
def pathConfig (prefixes : List String) : ClientConfig where
  clientId := "docs-client"
  natsUrl := "nats://control.example"
  natsTokenFile := none
  oauth := none
  acme := some ⟨"docs.example", [], "cache", false, none⟩
  authorization := none
  tcpPassthrough := false
  relayMode := .auto
  requestSubject := defaultRequestSubject
  claimAckTimeoutMs := defaultClaimAckTimeoutMs
  backendRules := pathRule none :: prefixes.map fun pathPrefix => pathRule (some pathPrefix)

/-- Its backends. -/
def pathBackends (prefixes : List String) : List (BackendRuntime Unit) :=
  ⟨pathRule none, none⟩ :: prefixes.map fun pathPrefix => ⟨pathRule (some pathPrefix), none⟩

/-- Of two nested path rules the inner one is selected, in any order. -/
theorem most_specific_selected_nested :
    SelectsMostSpecific (pathBackends ["/app", "/app/b"]) (some "docs.example") "/app/b/c" := by
  have hvalid : validateClientConfig (pathConfig ["/app", "/app/b"]) = .ok () := by decide +kernel
  have hmatching : ∀ rule ∈ (pathConfig ["/app", "/app/b"]).backendRules,
      matchesPattern rule.pattern (some "docs.example") = true := by decide +kernel
  have hpaths : ∃ rule ∈ (pathConfig ["/app", "/app/b"]).backendRules,
      rule.pathPrefix.isSome = true := by decide +kernel
  refine (most_specific_selected_iff hvalid hpaths rfl hmatching "/app/b/c").mpr ?_
  have hprefixes : matchingPrefixes (pathConfig ["/app", "/app/b"]).backendRules "/app/b/c" =
      ["/app", "/app/b"] := by decide +kernel
  intro pathPrefix hgreatest
  rw [hprefixes] at hgreatest ⊢
  have hinner : pathPrefix = "/app/b" := by
    rcases List.mem_pair.mp hgreatest.mem with rfl | rfl
    · exact absurd (hgreatest.le "/app/b" (by decide)) (by decide +kernel)
    · rfl
  rw [hinner]
  refine ⟨by decide, ?_⟩
  intro other hother
  rcases List.mem_pair.mp hother with rfl | rfl <;> decide +kernel

/-- Trailing slashes let a prefix win over a more specific one. -/
theorem trailing_slashes_win :
    validateClientConfig (pathConfig ["/app///", "/app/b"]) = .ok () ∧
    (∀ rule ∈ (pathConfig ["/app///", "/app/b"]).backendRules,
      matchesPattern rule.pattern (some "docs.example") = true) ∧
    ¬ SelectsMostSpecific (pathBackends ["/app///", "/app/b"]) (some "docs.example")
      "/app/b/c" := by
  refine ⟨by decide +kernel, by decide +kernel, ?_⟩
  intro h
  have hprefixes : matchingPrefixes
      ((pathBackends ["/app///", "/app/b"]).map BackendRuntime.rule) "/app/b/c" =
      ["/app///", "/app/b"] := by decide +kernel
  have hrule : selectBackendForPath
      ((pathBackends ["/app///", "/app/b"]).map BackendRuntime.rule) (some "docs.example")
      "/app/b/c" = some (pathRule (some "/app///")) := by decide +kernel
  obtain ⟨backend, pathPrefix, hselect, hwritten, -, hgreatest⟩ :=
    h.path_rule (by rw [hprefixes]; exact List.cons_ne_nil _ _)
  have hsame := h.same_rule
  rw [hselect, hrule, Option.map_some, Option.some.injEq] at hsame
  rw [hsame] at hwritten
  cases hwritten
  rw [hprefixes] at hgreatest
  have hle := hgreatest.le "/app/b" (.tail _ (.head _))
  revert hle
  decide +kernel

end LfpPipe.PathSelection
