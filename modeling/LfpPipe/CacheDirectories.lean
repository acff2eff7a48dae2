import Mathlib.Data.List.Infix
import LfpPipe.ClientSession
import LfpPipe.SegmentPaths

/-!
# Directories of certificates below their cache

The directory of a certificate is named after its hostname, whose characters are
replaced one by one. What a path means is told by its segments. Translated from
`domain_cache_dir`, `prepare_cache_dir` and `AcmeRuntime::start` of
`client/src/acme.rs`; the directories of a file system are a state here, without
symbolic links.
-/

namespace LfpPipe.CacheDirectories

open RustText Fallible SharedConfig ClientAuthorizer ClientSession SegmentPaths

/-- A directory, by the names that lead to it. -/
abbrev Location := List String

/-- What a segment of a file path does. -/
def pathKind (segment : String) : Kind :=
  if segment = "" ∨ segment = "." then .drop else if segment = ".." then .up else .name

/-- Where a path starts, the last name first: at the top or in the working
directory. -/
def origin (cwd : Location) (path : String) : List String :=
  if startsWith path "/" then [] else cwd.reverse

/-- The directory that a path leads to. -/
def locate (cwd : Location) (path : String) : Location :=
  resolve pathKind (origin cwd path) (split '/' path)

/-- The directories on the way to a path, one for every beginning of it. -/
def way (cwd : Location) (path : String) : List Location :=
  ((split '/' path).inits.filter fun segments => !segments.isEmpty).map fun segments =>
    resolve pathKind (origin cwd path) segments

/-- The directories of a file system with their permissions. -/
structure Directories where
  /-- Permissions, nothing for a directory that does not exist. -/
  modes : Location → Option ℕ

/-- Give a directory permissions. -/
def Directories.set (tree : Directories) (dir : Location) (mode : ℕ) : Directories :=
  ⟨fun other => if other = dir then some mode else tree.modes other⟩

/-- Answers of the operating system. -/
structure Disk where
  /-- Permissions of a new directory, or why there is none. -/
  mkdir : Location → Except AnyError ℕ
  /-- Change permissions. -/
  chmod : Location → Except AnyError Unit

/-- Create the directories that are missing, from the top. -/
def createDirAll (disk : Disk) : List Location → Directories → Except AnyError Unit × Directories
  | [], tree => (.ok (), tree)
  | dir :: rest, tree =>
    match tree.modes dir with
    | some _ => createDirAll disk rest tree
    | none =>
      match disk.mkdir dir with
      | .error error => (.error error, tree)
      | .ok mode => createDirAll disk rest (tree.set dir mode)

/-- Create a cache directory for its owner only. -/
def prepareCacheDir (disk : Disk) (cwd : Location) (path : String) (tree : Directories) :
    Except AnyError Unit × Directories :=
  match createDirAll disk (way cwd path) tree with
  | (.error error, created) =>
    (withContext ("failed to create ACME cache directory " ++ path) (.error error), created)
  | (.ok (), created) =>
    match disk.chmod (locate cwd path) with
    | .error error =>
      (withContext ("failed to secure ACME cache directory permissions " ++ path) (.error error),
        created)
    | .ok () => (.ok (), created.set (locate cwd path) 0o700)

variable {Key : Type}

/-- Start certificate management on a file system. -/
def startOnDisk (env : LoadEnv Key) (disk : Disk) (cwd : Location) (config : ClientAcmeConfig)
    (backends : List (BackendRuntime Key)) (relayMode : RelayMode) (tcpPassthrough : Bool)
    (tree : Directories) : Except AnyError (AcmeRuntime Key) × Directories :=
  if relayMode = .splice then
    (.error ["automatic TLS termination cannot use splice relay mode; use auto or buffered"], tree)
  else
    match env.expandHome config.cacheDir with
    | .error error => (.error error, tree)
    | .ok cacheRoot =>
      let cacheDir := domainCacheDir cacheRoot config.domain
      match prepareCacheDir disk cwd cacheDir tree with
      | (.error error, prepared) => (.error error, prepared)
      | (.ok (), prepared) => (.ok ⟨config, cacheDir, backends, tcpPassthrough⟩, prepared)

/-- A directory one name below the root of the cache. -/
def Inside (cwd : Location) (root : String) (dir : Location) : Prop :=
  ∃ name, pathKind name = .name ∧ '/' ∉ name.toList ∧ dir = locate cwd root ++ [name]

/-- The certificates of a hostname stay below the root of the cache. -/
structure StaysBelow (Key : Type) (cwd : Location) (root domain : String) : Prop where
  /-- Their directory is one name below the root. -/
  below : Inside cwd root (locate cwd (domainCacheDir root domain))
  /-- A start changes nothing but a directory there, and creates what is missing on
  the way to the root. -/
  start : ∀ (env : LoadEnv Key) (disk : Disk) (config : ClientAcmeConfig)
    (backends : List (BackendRuntime Key)) (relayMode : RelayMode) (tcpPassthrough : Bool)
    (tree : Directories), config.domain = domain → env.expandHome config.cacheDir = .ok root →
    ∀ dir, (startOnDisk env disk cwd config backends relayMode tcpPassthrough tree).2.modes dir ≠
      tree.modes dir → Inside cwd root dir ∨ dir ∈ way cwd root ∧ tree.modes dir = none

/-- Only missing directories of the list are created. -/
theorem createDirAll_modes {disk : Disk} {dirs : List Location} {tree : Directories}
    {dir : Location} (h : (createDirAll disk dirs tree).2.modes dir ≠ tree.modes dir) :
    dir ∈ dirs ∧ tree.modes dir = none := by
  induction dirs generalizing tree with
  | nil => exact absurd rfl h
  | cons first rest ih =>
    rw [createDirAll] at h
    cases hfirst : tree.modes first with
    | some mode =>
      rw [hfirst] at h
      obtain ⟨hm, hmissing⟩ := ih h
      exact ⟨List.mem_cons_of_mem first hm, hmissing⟩
    | none =>
      rw [hfirst] at h
      cases hmkdir : disk.mkdir first with
      | error error =>
        rw [hmkdir] at h
        exact absurd rfl h
      | ok mode =>
        rw [hmkdir] at h
        by_cases hsame : dir = first
        · rw [hsame]
          exact ⟨List.mem_cons_self, hfirst⟩
        · have hother : (tree.set first mode).modes dir = tree.modes dir := if_neg hsame
          rw [← hother] at h
          obtain ⟨hm, hmissing⟩ := ih h
          exact ⟨List.mem_cons_of_mem first hm, hother.symm.trans hmissing⟩

/-- Preparing a directory changes it, and creates what is missing on the way. -/
theorem prepareCacheDir_modes {disk : Disk} {cwd : Location} {path : String}
    {tree : Directories} {dir : Location}
    (h : (prepareCacheDir disk cwd path tree).2.modes dir ≠ tree.modes dir) :
    dir = locate cwd path ∨ dir ∈ way cwd path ∧ tree.modes dir = none := by
  rw [prepareCacheDir] at h
  cases hcreated : createDirAll disk (way cwd path) tree with
  | mk answer created =>
    have hway : created.modes dir ≠ tree.modes dir →
        dir ∈ way cwd path ∧ tree.modes dir = none := by
      intro hchanged
      have hlist := @createDirAll_modes disk (way cwd path) tree dir
      rw [hcreated] at hlist
      exact hlist hchanged
    rw [hcreated] at h
    cases answer with
    | error error => exact .inr (hway h)
    | ok done =>
      dsimp only at h
      cases hchmod : disk.chmod (locate cwd path) with
      | error error =>
        rw [hchmod] at h
        exact .inr (hway h)
      | ok changed =>
        rw [hchmod] at h
        by_cases hsame : dir = locate cwd path
        · exact .inl hsame
        · have hother : (created.set (locate cwd path) 0o700).modes dir = created.modes dir :=
            if_neg hsame
          rw [← hother] at hway
          exact .inr (hway h)

/-- A start changes what preparing its directory changes. -/
theorem startOnDisk_modes {env : LoadEnv Key} {disk : Disk} {cwd : Location}
    {config : ClientAcmeConfig} {backends : List (BackendRuntime Key)} {relayMode : RelayMode}
    {tcpPassthrough : Bool} {tree : Directories} {root : String} {dir : Location}
    (hroot : env.expandHome config.cacheDir = .ok root)
    (h : (startOnDisk env disk cwd config backends relayMode tcpPassthrough tree).2.modes dir ≠
      tree.modes dir) :
    dir = locate cwd (domainCacheDir root config.domain) ∨
      dir ∈ way cwd (domainCacheDir root config.domain) ∧ tree.modes dir = none := by
  have hprepare := @prepareCacheDir_modes disk cwd (domainCacheDir root config.domain) tree dir
  rw [startOnDisk] at h
  by_cases hsplice : relayMode = .splice
  · rw [if_pos hsplice] at h
    exact absurd rfl h
  · rw [if_neg hsplice, hroot] at h
    dsimp only at h
    cases hprepared : prepareCacheDir disk cwd (domainCacheDir root config.domain) tree with
    | mk answer prepared =>
      rw [hprepared] at h hprepare
      cases answer with
      | error error => exact hprepare h
      | ok done => exact hprepare h

/-- The characters of a directory name are kept ones and underscores. -/
theorem mem_domainComponent {domain : String} {c : Char}
    (h : c ∈ (domainComponent domain).toList) :
    c ∈ domain.toList ∧ (c.isAlphanum || c == '.' || c == '-') = true ∨ c = '_' := by
  rw [domainComponent, String.toList_ofList] at h
  obtain ⟨original, hm, hc⟩ := List.mem_map.mp h
  split at hc
  · rename_i hkept
    subst hc
    exact .inl ⟨hm, hkept⟩
  · exact .inr hc.symm

/-- A directory name has no slash. -/
theorem slash_not_mem_domainComponent (domain : String) :
    '/' ∉ (domainComponent domain).toList := by
  intro h
  rcases mem_domainComponent h with ⟨-, hkept⟩ | hunderscore
  · exact absurd hkept (by decide)
  · exact absurd hunderscore (by decide)

/-- A directory name of dots is the hostname itself. -/
theorem domainComponent_eq_dots {domain dots : String} (hdots : ∀ c ∈ dots.toList, c = '.')
    (h : domainComponent domain = dots) : domain = dots := by
  have hchars : domain.toList.map (fun c =>
      if c.isAlphanum || c == '.' || c == '-' then c else '_') = dots.toList := by
    rw [← h, domainComponent, String.toList_ofList]
  have hsame : domain.toList.map (fun c =>
      if c.isAlphanum || c == '.' || c == '-' then c else '_') = domain.toList.map id := by
    refine List.map_congr_left fun c hc => ?_
    have hdot : (if c.isAlphanum || c == '.' || c == '-' then c else '_') = '.' := by
      refine hdots _ ?_
      rw [← hchars]
      exact List.mem_map.mpr ⟨c, hc, rfl⟩
    split
    · rfl
    · rename_i hrefused
      rw [if_neg hrefused] at hdot
      exact absurd hdot (by decide)
  rw [List.map_id] at hsame
  rw [← String.toList_inj, ← hsame, hchars]

/-- The directory name of a hostname that is neither blank nor a dot segment is a
name. -/
theorem pathKind_domainComponent {domain : String} (hblank : isBlank domain = false)
    (hdot : domain ≠ ".") (hdots : domain ≠ "..") : pathKind (domainComponent domain) = .name := by
  have hempty : domainComponent domain ≠ "" := by
    intro h
    have hdomain := domainComponent_eq_dots (fun c hc => by cases hc) h
    rw [hdomain] at hblank
    exact absurd hblank (by decide)
  have hone : domainComponent domain ≠ "." := fun h =>
    hdot (domainComponent_eq_dots (fun _ hc => List.mem_singleton.mp hc) h)
  have htwo : domainComponent domain ≠ ".." := fun h =>
    hdots (domainComponent_eq_dots (fun _ hc => List.eq_of_mem_replicate (n := 2) hc) h)
  rw [pathKind, if_neg (not_or.mpr ⟨hempty, hone⟩), if_neg htwo]

/-- An empty segment at the end of a path leads nowhere. -/
theorem resolve_append_empty (stack segments : List String) :
    resolve pathKind stack (segments ++ [""]) = resolve pathKind stack segments := by
  have hdrop : pathKind "" = .drop := by decide
  rw [resolve_append, resolve, hdrop]
  dsimp only
  rw [resolve, List.reverse_reverse]

/-- A path that goes on starts where it started. -/
theorem origin_append {cwd : Location} {path : String} (hne : path.isEmpty = false)
    (more : String) : origin cwd (path ++ more) = origin cwd path := by
  have hstart : startsWith (path ++ more) "/" = startsWith path "/" := by
    rw [startsWith, startsWith, String.toList_append]
    cases hpath : path.toList with
    | nil =>
      rw [String.toList_eq_nil_iff] at hpath
      rw [hpath] at hne
      exact absurd hne (by decide)
    | cons first rest =>
      have hslash : "/".toList = ['/'] := rfl
      rw [hslash, List.cons_append, List.isPrefixOf_cons_cons, List.isPrefixOf_cons_cons,
        List.isPrefixOf_nil_left, List.isPrefixOf_nil_left]
  rw [origin, origin, hstart]

/-- The directory of a hostname has its name as the last segment, behind those
that lead to the root. -/
theorem split_domainCacheDir (cwd : Location) (root domain : String) :
    origin cwd (domainCacheDir root domain) = origin cwd root ∧
    ∃ front, split '/' (domainCacheDir root domain) = front ++ [domainComponent domain] ∧
      front <+: split '/' root ∧
      ∀ stack, resolve pathKind stack front = resolve pathKind stack (split '/' root) := by
  have hcomponent : split '/' (domainComponent domain) = [domainComponent domain] :=
    split_of_not_mem (slash_not_mem_domainComponent domain)
  have hnothing : split '/' "" = [""] := by decide
  by_cases hempty : root.isEmpty = true
  · have hroot := String.isEmpty_iff.mp hempty
    subst hroot
    have hdir : domainCacheDir "" domain = domainComponent domain := by
      rw [domainCacheDir, hempty]
      exact String.empty_append
    have hrelative : startsWith (domainComponent domain) "/" = false := by
      rw [← Bool.not_eq_true, startsWith, List.isPrefixOf_iff_prefix]
      intro hfirst
      have hslash : '/' ∈ (domainComponent domain).toList := hfirst.subset List.mem_cons_self
      exact slash_not_mem_domainComponent domain hslash
    rw [hdir, origin, origin, hrelative, hcomponent, hnothing]
    refine ⟨rfl, [], rfl, List.nil_prefix, fun stack => ?_⟩
    exact (resolve_append_empty stack []).symm
  · have hfilled : root.isEmpty = false := Bool.not_eq_true _ ▸ hempty
    by_cases hlast : root.toList.getLast? = some '/'
    · obtain ⟨before, hbefore⟩ := List.getLast?_eq_some_iff.mp hlast
      have hroot : root = String.ofList before ++ String.singleton '/' := by
        rw [← String.toList_inj, String.toList_append, String.toList_ofList,
          String.toList_singleton, hbefore]
      have hdir : domainCacheDir root domain = root ++ domainComponent domain := by
        rw [domainCacheDir, hlast, beq_self_eq_true, Bool.or_true, if_pos rfl]
      have hsplit : split '/' root = split '/' (String.ofList before) ++ [""] := by
        rw [← hnothing, ← split_append_separator, String.append_empty, ← hroot]
      rw [hdir, origin_append hfilled]
      refine ⟨rfl, split '/' (String.ofList before), ?_, ?_, fun stack => ?_⟩
      · rw [← hcomponent, ← split_append_separator, ← hroot]
      · rw [hsplit]
        exact List.prefix_append _ _
      · rw [hsplit, resolve_append_empty]
    · have hdir : domainCacheDir root domain =
          root ++ String.singleton '/' ++ domainComponent domain := by
        rw [domainCacheDir, hfilled, beq_eq_false_iff_ne.mpr hlast]
        rfl
      rw [hdir, String.append_assoc, origin_append hfilled, ← String.append_assoc,
        split_append_separator, hcomponent]
      exact ⟨rfl, split '/' root, rfl, List.prefix_refl _, fun _ => rfl⟩

/-- Where the directory of a hostname is. -/
theorem locate_domainCacheDir (cwd : Location) (root domain : String) :
    locate cwd (domainCacheDir root domain) =
      resolve pathKind (locate cwd root).reverse [domainComponent domain] := by
  obtain ⟨horigin, front, hsplit, -, hresolve⟩ := split_domainCacheDir cwd root domain
  rw [locate, horigin, hsplit, resolve_append, hresolve, locate]

/-- The way to the directory is the way to the root and the directory. -/
theorem way_domainCacheDir {cwd : Location} {root domain : String} {dir : Location}
    (h : dir ∈ way cwd (domainCacheDir root domain)) :
    dir ∈ way cwd root ∨ dir = locate cwd (domainCacheDir root domain) := by
  obtain ⟨horigin, front, hsplit, hfront, -⟩ := split_domainCacheDir cwd root domain
  rw [way, List.mem_map] at h
  obtain ⟨segments, hm, rfl⟩ := h
  rw [List.mem_filter, List.mem_inits, hsplit, List.prefix_concat_iff] at hm
  obtain ⟨hall | hpart, hsome⟩ := hm
  · rw [hall, ← hsplit]
    exact .inr rfl
  · refine .inl (List.mem_map.mpr ⟨segments, List.mem_filter.mpr ⟨?_, hsome⟩, by rw [horigin]⟩)
    exact (List.mem_inits segments (split '/' root)).mpr (hpart.trans hfront)

/-- The certificates of a configured hostname stay below the root of the cache
exactly when the hostname is no dot segment. -/
theorem staysBelow_iff (cwd : Location) (root : String) {domain : String}
    (hblank : isBlank domain = false) :
    StaysBelow Key cwd root domain ↔ domain ≠ "." ∧ domain ≠ ".." := by
  constructor
  · intro h
    obtain ⟨name, -, -, hinside⟩ := h.below
    rw [locate_domainCacheDir] at hinside
    have hlength := congrArg List.length hinside
    rw [length_resolve, List.length_reverse, List.length_append, List.length_singleton] at hlength
    constructor
    · rintro rfl
      have hdepth : depth pathKind (locate cwd root).length [domainComponent "."] =
          (locate cwd root).length := rfl
      omega
    · rintro rfl
      have hdepth : depth pathKind (locate cwd root).length [domainComponent ".."] =
          (locate cwd root).length - 1 := rfl
      omega
  · rintro ⟨hdot, hdots⟩
    have hname := pathKind_domainComponent hblank hdot hdots
    have hinside : Inside cwd root (locate cwd (domainCacheDir root domain)) := by
      refine ⟨domainComponent domain, hname, slash_not_mem_domainComponent domain, ?_⟩
      rw [locate_domainCacheDir, resolve, hname]
      dsimp only
      rw [resolve, List.reverse_cons, List.reverse_reverse]
    refine ⟨hinside, ?_⟩
    intro env disk config backends relayMode tcpPassthrough tree hdomain hroot dir hchanged
    subst hdomain
    rcases startOnDisk_modes hroot hchanged with hsame | ⟨hway, hmissing⟩
    · rw [hsame]
      exact .inl hinside
    · rcases way_domainCacheDir hway with hroad | hsame
      · exact .inr ⟨hroad, hmissing⟩
      · rw [hsame]
        exact .inl hinside

/-- A hostname of labels keeps its certificates below the root. -/
theorem staysBelow_docs : StaysBelow Unit [] "/var/cache" "docs.example" :=
  (@staysBelow_iff Unit [] "/var/cache" "docs.example" (by decide)).mpr ⟨by decide, by decide⟩

/-- A disk that never fails. -/
def sampleDisk : Disk := ⟨fun _ => .ok 0o755, fun _ => .ok ()⟩

/-- Every directory is there and open. -/
def sampleTree : Directories := ⟨fun _ => some 0o755⟩

/-- Two dots as the hostname are the directory above the root, whose permissions a
start changes; one dot is the root. -/
theorem dots_leave_root :
    isBlank ".." = false ∧ domainCacheDir "/var/cache" ".." = "/var/cache/.." ∧
    locate [] (domainCacheDir "/var/cache" "..") = ["var"] ∧
    locate [] (domainCacheDir "/var/cache" ".") = locate [] "/var/cache" ∧
    (startOnDisk sampleEnv sampleDisk [] ⟨"..", [], "/var/cache", false, none⟩ [] .buffered false
      sampleTree).2.modes ["var"] = some 0o700 ∧
    ¬ StaysBelow Unit [] "/var/cache" ".." := by
  refine ⟨by decide, by decide, by decide, by decide, by decide, ?_⟩
  intro h
  obtain ⟨name, -, -, hinside⟩ := h.below
  have hup : locate [] (domainCacheDir "/var/cache" "..") = ["var"] := by decide
  have hroot : locate [] "/var/cache" = ["var", "cache"] := by decide
  rw [hup, hroot] at hinside
  have hnames := List.tail_eq_of_cons_eq hinside
  exact List.cons_ne_nil "cache" [name] hnames.symm

end LfpPipe.CacheDirectories
