import LfpPipe.GreatestElements
import LfpPipe.SharedConfig

/-!
# Hostname and path selection

Translated from `shared/src/routing.rs`. Patterns are exact, a wildcard over
one suffix, or empty for connections without a name. Path prefixes match on
a segment boundary and the longest one wins.
-/

namespace LfpPipe.SharedRouting

open RustText GreatestElements SharedConfig

/-- One label of a hostname that can stand in a subject. -/
def validLabel (label : String) : Bool :=
  !(label.isEmpty || 63 < label.utf8ByteSize || label.toList.head? == some '-' ||
    label.toList.getLast? == some '-' ||
    !label.toList.all fun c => c.isAlphanum || c == '-')

/-- Build a hostname-specific subject by reversing its DNS labels. -/
def hostnameRequestSubject (subject hostname : String) : Option String :=
  let labels := split '.' (toAsciiLowercase (trimEndMatches '.' hostname))
  if labels.length < 2 || labels.any fun label => !validLabel label then none
  else some (trimEndMatches '.' subject ++ "." ++ String.intercalate "." labels.reverse)

/-- Test an exact, wildcard or default pattern against a detected hostname.
The byte before a matched wildcard suffix is a dot exactly when the last
character before it is. -/
def matchesPattern (pattern : String) (hostname : Option String) : Bool :=
  if pattern.isEmpty then hostname.isNone
  else
    match hostname with
    | none => false
    | some name =>
      match stripStart pattern "*." with
      | some rest =>
        match stripEnd name rest with
        | some before => before.toList.getLast? == some '.'
        | none => false
      | none => eqIgnoreAsciiCase pattern name

/-- Match an HTTP request path on a URL-segment boundary. -/
def matchesPathPrefix (pathPrefix path : String) : Bool :=
  if pathPrefix == "/" then startsWith path "/"
  else
    let trimmed := trimEndMatches '/' pathPrefix
    path == trimmed || (stripStart path trimmed).any fun rest => startsWith rest "/"

/-- The last element with the greatest key. -/
def maxByKey {α : Type*} (key : α → ℕ) : List α → Option α
  | [] => none
  | x :: xs =>
    match maxByKey key xs with
    | none => some x
    | some best => if key x ≤ key best then some best else some x

/-- The greatest element is one of the list. -/
theorem mem_of_maxByKey {α : Type*} {key : α → ℕ} {xs : List α} {best : α}
    (h : maxByKey key xs = some best) : best ∈ xs := by
  induction xs generalizing best with
  | nil => cases h
  | cons x xs ih =>
    rw [maxByKey] at h
    cases hm : maxByKey key xs with
    | none =>
      rw [hm] at h
      cases h
      exact List.mem_cons_self
    | some other =>
      rw [hm] at h
      dsimp only at h
      split at h
      · cases h
        exact List.mem_cons_of_mem x (ih hm)
      · cases h
        exact List.mem_cons_self

/-- Some element has the greatest key, unless there is none. -/
theorem maxByKey_eq_none_iff {α : Type*} {key : α → ℕ} {xs : List α} :
    maxByKey key xs = none ↔ xs = [] := by
  cases xs with
  | nil => exact iff_of_true rfl rfl
  | cons x xs =>
    rw [maxByKey]
    refine iff_of_false ?_ (List.cons_ne_nil x xs)
    cases maxByKey key xs with
    | none => exact Option.some_ne_none x
    | some best =>
      dsimp only
      split
      · exact Option.some_ne_none best
      · exact Option.some_ne_none x

/-- The last element with the greatest key is a greatest element. -/
theorem greatest_of_maxByKey {α : Type*} {key : α → ℕ} {xs : List α} {best : α}
    (h : maxByKey key xs = some best) : Greatest key xs best := by
  refine ⟨mem_of_maxByKey h, ?_⟩
  induction xs generalizing best with
  | nil => cases h
  | cons x xs ih =>
    rw [maxByKey] at h
    cases hm : maxByKey key xs with
    | none =>
      rw [hm] at h
      cases h
      intro other hother
      rw [maxByKey_eq_none_iff.mp hm, List.mem_singleton] at hother
      rw [hother]
    | some last =>
      rw [hm] at h
      have hlast := ih hm
      dsimp only at h
      intro other hother
      split at h
      · rename_i hle
        cases h
        rcases List.mem_cons.mp hother with rfl | hlater
        · exact hle
        · exact hlast other hlater
      · rename_i hle
        cases h
        rcases List.mem_cons.mp hother with rfl | hlater
        · exact le_refl _
        · have hother := hlast other hlater
          omega

/-- A greatest element at the end of a list is the one that is found. -/
theorem maxByKey_concat {α : Type*} {key : α → ℕ} {xs : List α} {last : α}
    (h : ∀ x ∈ xs, key x ≤ key last) : maxByKey key (xs ++ [last]) = some last := by
  induction xs with
  | nil => rfl
  | cons x xs ih =>
    have hlater := ih fun other hother => h other (List.mem_cons_of_mem x hother)
    rw [List.cons_append, maxByKey, hlater]
    dsimp only
    rw [if_pos (h x List.mem_cons_self)]

/-- The element with the greatest key is found through a map. -/
theorem maxByKey_map {α β : Type*} (key : β → ℕ) (f : α → β) (xs : List α) :
    maxByKey key (xs.map f) = (maxByKey (fun x => key (f x)) xs).map f := by
  induction xs with
  | nil => rfl
  | cons x xs ih =>
    rw [List.map_cons, maxByKey, maxByKey, ih]
    cases maxByKey (fun x => key (f x)) xs with
    | none => rfl
    | some best =>
      rw [Option.map_some]
      dsimp only
      split
      · rfl
      · rfl

/-- The most specific path rule, or else the first rule without a path. -/
def selectBackendForPath (rules : List BackendRule) (hostname : Option String) (path : String) :
    Option BackendRule :=
  (maxByKey (fun rule => (rule.pathPrefix.map String.utf8ByteSize).getD 0)
    (rules.filter fun rule => matchesPattern rule.pattern hostname &&
      rule.pathPrefix.any fun pathPrefix => matchesPathPrefix pathPrefix path)).or
    (rules.find? fun rule => rule.pathPrefix.isNone && matchesPattern rule.pattern hostname)

example : matchesPattern "*.example.com" (some "foo.example.com") = true := by decide

example : matchesPathPrefix "/api" "/api-other" = false := by decide

end LfpPipe.SharedRouting
