import LfpPipe.ClientProxy
import LfpPipe.PathSelection

/-!
# Paths below a stripped prefix

Matching, stripping and the redirect to the canonical prefix each remove trailing
slashes on their own. A matching path can always be stripped, and what is left
continues the prefix. The redirect adds a slash to a path that is the prefix
itself; the same rules match the longer path, so the same rule is selected, and
the longer path is not redirected again.
-/

namespace LfpPipe.PrefixRewriting

open RustText Fallible HttpMessages SharedConfig SharedRouting ClientSession ClientProxy
open PathSelection

/-- The target that a text is read as; the query follows the first question mark. -/
def readTarget (text : String) : Uri :=
  match splitOnce '?' text with
  | some (path, query) => ⟨path, some query⟩
  | none => ⟨text, none⟩

/-- A target without a path below a prefix, or the rest of its path below it. -/
structure Stripped (pathPrefix : String) (uri rewritten : Uri) : Prop where
  /-- The query is kept. -/
  query : rewritten.query = uri.query
  /-- The rest is a path. -/
  slash : startsWith rewritten.path "/" = true
  /-- It continues the prefix, or nothing is left. -/
  path : trimEndMatches '/' pathPrefix ++ rewritten.path = uri.path ∨
    (uri.path = trimEndMatches '/' pathPrefix ∧ rewritten.path = "/")

/-- A written path that ends with a slash is the path. -/
theorem path_slash (path : String) (query : Option String) :
    (Uri.mk (path ++ "/") query).path = path ++ "/" := by
  apply Uri.path_of_written
  intro hempty
  have hlength := congrArg String.length hempty
  rw [String.length_append] at hlength
  exact absurd hlength (Nat.succ_ne_zero _)

/-- A matching path can be stripped. -/
theorem stripUriPrefix_of_matches {pathPrefix : String} {uri : Uri}
    (h : matchesPathPrefix pathPrefix uri.path = true) :
    ∃ rewritten, stripUriPrefix uri pathPrefix = .ok rewritten ∧
      Stripped pathPrefix uri rewritten := by
  rw [stripUriPrefix]
  rcases segmentPrefix_of_matches h with heq | hslash
  · have hrest : stripStart uri.path (trimEndMatches '/' pathPrefix) = some "" := by
      rw [stripStart_eq_some, heq]
      exact (List.append_nil _).symm
    have hroot : startsWith "/" "/" = true := by
      rw [startsWith_slash]
      exact List.prefix_rfl
    rw [hrest]
    exact ⟨⟨"/", uri.query⟩, rfl, rfl, hroot, .inr ⟨heq, rfl⟩⟩
  · obtain ⟨after, hafter⟩ := hslash
    have hrest : stripStart uri.path (trimEndMatches '/' pathPrefix) =
        some (String.ofList ('/' :: after)) := by
      rw [stripStart_eq_some, String.toList_ofList, ← hafter, List.append_assoc]
      rfl
    have hstart : startsWith (String.ofList ('/' :: after)) "/" = true := by
      rw [startsWith_slash, String.toList_ofList]
      exact ⟨after, rfl⟩
    have hnonempty : (String.ofList ('/' :: after)).isEmpty = false := by
      rw [Bool.eq_false_iff, Ne, String.isEmpty_iff, ← String.toList_eq_nil_iff,
        String.toList_ofList]
      exact List.cons_ne_nil '/' after
    have hpath : (Uri.mk (String.ofList ('/' :: after)) uri.query).path =
        String.ofList ('/' :: after) := by
      apply Uri.path_of_written
      rw [Ne, ← String.isEmpty_iff, Bool.not_eq_true]
      exact hnonempty
    have hkept : (some (String.ofList ('/' :: after))).filter
        (fun value => value.isEmpty || startsWith value "/") =
        some (String.ofList ('/' :: after)) := by
      rw [Option.filter_some, hstart, Bool.or_true, if_pos rfl]
    rw [hrest, hkept]
    refine ⟨⟨String.ofList ('/' :: after), uri.query⟩, ?_, rfl, hpath.symm ▸ hstart, .inl ?_⟩
    · change Except.ok (Uri.mk (if (String.ofList ('/' :: after)).isEmpty then "/"
        else String.ofList ('/' :: after)) uri.query) = _
      rw [hnonempty]
      rfl
    · rw [hpath, ← String.toList_inj, String.toList_append, String.toList_ofList, ← hafter,
        List.append_assoc]
      rfl

section

variable {prefixText path : String}

/-- A slash behind a path that does not end with one changes no match. -/
theorem segmentPrefix_slash (htext : prefixText.toList.getLast? ≠ some '/') :
    SegmentPrefix prefixText (path ++ "/") ↔ SegmentPrefix prefixText path := by
  have hpath : (path ++ "/").toList = path.toList ++ ['/'] := by
    rw [String.toList_append]
    rfl
  have hne : path ++ "/" ≠ prefixText := by
    intro heq
    rw [← heq, hpath, List.getLast?_concat] at htext
    exact htext rfl
  rw [SegmentPrefix, SegmentPrefix, hpath, List.prefix_concat_iff, List.append_cancel_right_eq]
  constructor
  · intro h
    rcases h with heq | heq | hslash
    · exact absurd heq hne
    · exact .inl (String.toList_inj.mp heq.symm)
    · exact .inr hslash
  · intro h
    rcases h with heq | hslash
    · exact .inr (.inl (congrArg String.toList heq.symm))
    · exact .inr (.inr hslash)

/-- The same prefixes match a path and the path with a slash behind it. -/
theorem matchesPathPrefix_slash (hne : path ≠ "") (pathPrefix : String) :
    matchesPathPrefix pathPrefix (path ++ "/") = matchesPathPrefix pathPrefix path := by
  have hstart : startsWith (path ++ "/") "/" = true ↔ startsWith path "/" = true := by
    rw [startsWith_slash, startsWith_slash, String.toList_append]
    cases hchars : path.toList with
    | nil => exact absurd (String.toList_eq_nil_iff.mp hchars) hne
    | cons c cs =>
      rw [List.cons_append, List.cons_prefix_cons, List.cons_prefix_cons]
      exact and_congr_right fun _ => iff_of_true List.nil_prefix List.nil_prefix
  rw [Bool.eq_iff_iff, matchesPathPrefix_iff, matchesPathPrefix_iff, hstart,
    segmentPrefix_slash (getLast_trimEndMatches '/' pathPrefix)]

end

section

variable {Key : Type}

/-- A slash behind a path changes no selection. -/
theorem selectRuntimeForPath_slash {path : String} (hne : path ≠ "")
    (backends : List (BackendRuntime Key)) (hostname : Option String) :
    selectRuntimeForPath backends hostname (path ++ "/") =
      selectRuntimeForPath backends hostname path := by
  have hmatches : (fun backend : BackendRuntime Key =>
      backend.matchesPath hostname (path ++ "/")) =
      fun backend => backend.matchesPath hostname path := by
    funext backend
    have hprefix : (fun pathPrefix => matchesPathPrefix pathPrefix (path ++ "/")) =
        fun pathPrefix => matchesPathPrefix pathPrefix path :=
      funext (matchesPathPrefix_slash hne)
    rw [BackendRuntime.matchesPath, BackendRuntime.matchesPath, hprefix]
  rw [selectRuntimeForPath_eq, selectRuntimeForPath_eq, matchingBackends, matchingBackends,
    hmatches]

/-- What a redirect to the canonical prefix is: the path is the prefix without
its trailing slashes, and the location is the path with one slash. -/
theorem canonicalPrefixRedirect_eq_some {uri : Uri} {rule : BackendRule} {response : AuthResponse}
    (h : canonicalPrefixRedirect uri rule = .ok (some response)) :
    uri.path ≠ "" ∧ uri.path.toList.getLast? ≠ some '/' ∧
      ∃ location text, response.headers.get "location" = some location ∧
        fromUtf8 location = some text ∧
        text = match uri.query with
          | some query => uri.path ++ "/?" ++ query
          | none => uri.path ++ "/" := by
  rw [canonicalPrefixRedirect] at h
  split at h
  · cases h
  · obtain ⟨trimmed, htrimmed, hredirect⟩ := bind_eq_ok.mp h
    rw [requiredPrefix] at htrimmed
    obtain ⟨pathPrefix, -, hprefix⟩ := bind_eq_ok.mp htrimmed
    rw [prefixRedirect] at hredirect
    split at hredirect
    · cases hredirect
    · rename_i hcheck
      rw [Bool.or_eq_true, Bool.or_eq_true, not_or, not_or, bne_iff_ne, not_not,
        String.isEmpty_iff] at hcheck
      obtain ⟨⟨hnonempty, -⟩, hpath⟩ := hcheck
      obtain ⟨target, htarget, hresponse⟩ := bind_eq_ok.mp hredirect
      cases hresponse
      cases hprefix
      refine ⟨hpath ▸ hnonempty, ?_, target, _, ?_,
        fromUtf8_of_fromStr (orMissing_eq_ok.mp htarget), ?_⟩
      · rw [hpath]
        exact getLast_trimEndMatches '/' pathPrefix
      · rfl
      · cases uri.query with
        | none => exact congrArg (· ++ "/") hpath.symm
        | some query => exact congrArg (· ++ "/?" ++ query) hpath.symm

/-- The target of a redirect is read as it was written. -/
theorem readTarget_slash {path : String} (h : '?' ∉ path.toList) (query : Option String) :
    readTarget (match query with
      | some query => path ++ "/?" ++ query
      | none => path ++ "/") = ⟨path ++ "/", query⟩ := by
  have hpath : '?' ∉ (path ++ "/").toList := by
    rw [String.toList_append, List.mem_append]
    intro hm
    rcases hm with hpath | hslash
    · exact h hpath
    · revert hslash
      decide
  cases query with
  | none =>
    dsimp only
    rw [readTarget, splitOnce_of_not_mem hpath]
  | some query =>
    have htext : path ++ "/?" ++ query = path ++ "/" ++ String.singleton '?' ++ query := by
      rw [← String.toList_inj]
      simp only [String.toList_append, String.toList_singleton, List.append_assoc]
      rfl
    dsimp only
    rw [readTarget, htext, splitOnce_append hpath]

/-- What was redirected is not redirected again. -/
theorem canonicalPrefixRedirect_slash {uri : Uri} {rule : BackendRule} {response : AuthResponse}
    (h : canonicalPrefixRedirect uri rule = .ok (some response)) :
    canonicalPrefixRedirect ⟨uri.path ++ "/", uri.query⟩ rule = .ok none := by
  rw [canonicalPrefixRedirect] at h ⊢
  split
  · rfl
  · rename_i hstrips
    rw [if_neg hstrips] at h
    obtain ⟨trimmed, htrimmed, -⟩ := bind_eq_ok.mp h
    obtain ⟨pathPrefix, -, hprefix⟩ := bind_eq_ok.mp htrimmed
    cases hprefix
    have hother : (uri.path ++ "/" != trimEndMatches '/' pathPrefix) = true := by
      rw [bne_iff_ne]
      intro heq
      have hends := getLast_trimEndMatches '/' pathPrefix
      rw [← heq, String.toList_append] at hends
      exact hends List.getLast?_concat
    apply bind_eq_ok.mpr
    refine ⟨trimEndMatches '/' pathPrefix, htrimmed, ?_⟩
    rw [prefixRedirect, path_slash, hother, Bool.or_true, if_pos rfl]

/-- A request for a matching path can be stripped, and what is left continues the
prefix; and a redirect to the canonical prefix leads to a target that selects the
same backend and is not redirected again. A path has no question mark. -/
theorem prefix_rewriting_agrees :
    (∀ (pathPrefix : String) (uri : Uri), matchesPathPrefix pathPrefix uri.path = true →
      ∃ rewritten, stripUriPrefix uri pathPrefix = .ok rewritten ∧
        Stripped pathPrefix uri rewritten) ∧
    (∀ (backends : List (BackendRuntime Key)) (hostname : Option String) (uri : Uri)
      (backend : BackendRuntime Key) (response : AuthResponse), '?' ∉ uri.path.toList →
      selectRuntimeForPath backends hostname uri.path = some backend →
      canonicalPrefixRedirect uri backend.rule = .ok (some response) →
      ∃ location text, response.headers.get "location" = some location ∧
        fromUtf8 location = some text ∧ (readTarget text).query = uri.query ∧
        selectRuntimeForPath backends hostname (readTarget text).path = some backend ∧
        canonicalPrefixRedirect (readTarget text) backend.rule = .ok none) := by
  refine ⟨fun pathPrefix uri h => stripUriPrefix_of_matches h, ?_⟩
  intro backends hostname uri backend response hquestion hselect hredirect
  obtain ⟨hne, hlast, location, text, hlocation, htext, hwritten⟩ :=
    canonicalPrefixRedirect_eq_some hredirect
  have hread := readTarget_slash hquestion uri.query
  rw [← hwritten] at hread
  refine ⟨location, text, hlocation, htext, ?_, ?_, ?_⟩
  · rw [hread]
  · rw [hread, path_slash, selectRuntimeForPath_slash hne, hselect]
  · rw [hread]
    exact canonicalPrefixRedirect_slash hredirect

end

end LfpPipe.PrefixRewriting
