import LfpPipe.GoText
import LfpPipe.SharedRouting

/-!
# Route entitlements and subjects of the control plane

Translated from `controlplane/internal/routeauth/routeauth.go`. A hostname is
normalized before it is compared or mapped: one trailing dot is removed, the
IDNA profile maps it to ASCII and every label is checked. The profile itself
is a parameter of which two facts are known: accepted outputs consist of
lowercase letters, digits, hyphens and dots, and they are mapped to
themselves. An error is its message.
-/

namespace LfpPipe.RouteAuth

open RustText GoText

/-- A character that hostnames in ASCII form consist of. -/
def HostnameChar (c : Char) : Prop :=
  c = '.' ∨ c = '-' ∨ c.isLower = true ∨ c.isDigit = true

/-- The lookup profile of the IDNA package. -/
structure Idna where
  /-- Map a hostname to ASCII, or reject it. -/
  toASCII : String → Option String
  /-- Accepted outputs are lowercase letter-digit-hyphen labels. -/
  toASCII_chars : ∀ {value ascii : String}, toASCII value = some ascii →
    ∀ c ∈ ascii.toList, HostnameChar c
  /-- An accepted output is mapped to itself. -/
  toASCII_output : ∀ {value ascii : String}, toASCII value = some ascii →
    toASCII ascii = some ascii

instance (c : Char) : Decidable (HostnameChar c) := inferInstanceAs (Decidable (_ ∨ _))

/-- The profile on hostnames that are in ASCII form already. -/
def plainIdna : Idna where
  toASCII value :=
    if value.toList.all fun c => decide (HostnameChar c) then some value else none
  toASCII_chars h := by
    split at h
    · rename_i hchars
      cases h
      exact forall_mem_of_all hchars
    · cases h
  toASCII_output h := by
    split at h
    · rename_i hchars
      cases h
      rw [if_pos hchars]
    · cases h

section

variable (table : LowerTable) (idna : Idna)

/-- A label that the normalization refuses. -/
def invalidLabel (label : String) : Bool :=
  label == "" || 63 < label.utf8ByteSize || hasPrefix label "-" || hasSuffix label "-"

/-- Return a lowercase ASCII hostname without a trailing dot. -/
def normalizeHostname (value : String) : Except String String :=
  match idna.toASCII (trimSuffix (toLower table (trimSpace value)) ".") with
  | none => .error "hostname is invalid"
  | some ascii =>
    if ascii == "" || containsAny ascii [' ', '*', '>', '\t', '\r', '\n'] then
      .error "hostname is invalid"
    else if (split '.' ascii).any invalidLabel then .error "hostname is invalid"
    else .ok ascii

/-- Keep the longer of the entitlement found so far and the next one, when
that one covers the route and lies at or below the configured parent. -/
def considerEntitlement (route parent matched entitlement : String) : String :=
  match normalizeHostname table idna (trimPrefix (trimSpace entitlement) "route:") with
  | .error _ => matched
  | .ok value =>
    if value != parent && !hasSuffix value ("." ++ parent) then matched
    else if (route == value || hasSuffix route ("." ++ value)) &&
        matched.utf8ByteSize < value.utf8ByteSize then value
    else matched

/-- Return the normalized route and the most specific entitlement that covers it. -/
def matchStrictSubdomain (entitlements : List String) (requested parent : String) :
    Except String (String × String) :=
  match normalizeHostname table idna requested with
  | .error message => .error message
  | .ok route =>
    match normalizeHostname table idna parent with
    | .error message => .error ("configured route suffix: " ++ message)
    | .ok parent =>
      if route == parent || !hasSuffix route ("." ++ parent) then
        .error ("route must be a strict subdomain of " ++ parent)
      else
        let matched := entitlements.foldl (considerEntitlement table idna route parent) ""
        if matched == "" then .error ("no entitlement covers " ++ route)
        else .ok (route, matched)

/-- Require an entitlement that covers a strict descendant of the parent. -/
def authorizeStrictSubdomain (entitlements : List String) (requested parent : String) :
    Except String String :=
  (matchStrictSubdomain table idna entitlements requested parent).map Prod.fst

/-- Return the fully qualified reversed-domain request subject. -/
def subject (subjectPrefix hostname : String) : Except String String :=
  match normalizeHostname table idna hostname with
  | .error message => .error message
  | .ok hostname =>
    .ok (trimSuffix subjectPrefix "." ++ "." ++
      String.intercalate "." (split '.' hostname).reverse)

/-- The characters that stay in a client identifier. -/
def clientIDChar (c : Char) : Bool := c.isLower || c.isDigit || c == '_' || c == '-'

/-- Convert a display name into a stable inbox token. -/
def clientID (value : String) : Except String String :=
  let value := trimChar '-'
    (String.ofList (replaceRuns clientIDChar '-' false (toLower table value).toList))
  if value.utf8ByteSize < 2 || 48 < value.utf8ByteSize then
    .error "client name must produce 2 to 48 URL-safe characters"
  else .ok value

end

section

variable {table : LowerTable} {idna : Idna}

/-- Codes of the hostname characters. -/
theorem hostnameChar_toNat {c : Char} (h : HostnameChar c) :
    c.toNat = 46 ∨ c.toNat = 45 ∨ (97 ≤ c.toNat ∧ c.toNat ≤ 122) ∨
      (48 ≤ c.toNat ∧ c.toNat ≤ 57) := by
  rcases h with h | h | h | h
  · rw [h]
    exact Or.inl rfl
  · rw [h]
    exact Or.inr (Or.inl rfl)
  · exact Or.inr (Or.inr (Or.inl (isLower_iff.mp h)))
  · rw [Char.isDigit, Bool.and_eq_true, decide_eq_true_eq, decide_eq_true_eq] at h
    exact Or.inr (Or.inr (Or.inr ⟨UInt32.le_iff_toNat_le.mp h.1, UInt32.le_iff_toNat_le.mp h.2⟩))

/-- Such a character is its own lower case. -/
theorem hostnameChar_toLower {c : Char} (h : HostnameChar c) : c.toLower = c := by
  have hn := hostnameChar_toNat h
  apply toLower_of_not_isUpper
  rw [← Bool.not_eq_true, isUpper_iff]
  omega

/-- Such a character is not white space. -/
theorem hostnameChar_isWhitespace {c : Char} (h : HostnameChar c) : isWhitespace c = false := by
  have hn := hostnameChar_toNat h
  simp only [isWhitespace, Bool.or_eq_false_iff, Bool.and_eq_false_iff, decide_eq_false_iff_not,
    beq_eq_false_iff_ne]
  omega

/-- What the normalization has checked of a hostname it returns. -/
structure Normalized (idna : Idna) (hostname : String) : Prop where
  /-- The profile maps it to itself. -/
  mapped : idna.toASCII hostname = some hostname
  /-- It is not empty. -/
  nonempty : hostname ≠ ""
  /-- Only lowercase letters, digits, hyphens and dots occur. -/
  chars : ∀ c ∈ hostname.toList, HostnameChar c
  /-- Every label passed the label check. -/
  labels : ∀ label ∈ split '.' hostname, invalidLabel label = false

/-- A returned hostname is normalized. -/
theorem normalizeHostname_ok {value hostname : String}
    (h : normalizeHostname table idna value = .ok hostname) : Normalized idna hostname := by
  rw [normalizeHostname] at h
  split at h
  · cases h
  · rename_i ascii hascii
    split at h
    · cases h
    · rename_i hempty
      split at h
      · cases h
      · rename_i hlabels
        cases h
        rw [Bool.or_eq_true, not_or, beq_iff_eq] at hempty
        rw [List.any_eq_true, not_exists] at hlabels
        refine ⟨idna.toASCII_output hascii, hempty.1, idna.toASCII_chars hascii, ?_⟩
        intro label hl
        have hx := hlabels label
        rw [not_and, Bool.not_eq_true] at hx
        exact hx hl

namespace Normalized

variable {hostname : String}

/-- No label of a normalized hostname is empty, so it does not end with a dot. -/
theorem getLast_ne (h : Normalized idna hostname) : hostname.toList.getLast? ≠ some '.' := by
  intro hlast
  have hlabel := h.labels "" (empty_mem_split_of_getLast hlast)
  exact absurd hlabel (by decide)

/-- A normalized hostname is in lower case. -/
theorem lowercase (h : Normalized idna hostname) : toAsciiLowercase hostname = hostname := by
  have hmap : hostname.toList.map Char.toLower = hostname.toList := by
    have hid : ∀ c ∈ hostname.toList, c.toLower = id c :=
      fun c hc => hostnameChar_toLower (h.chars c hc)
    rw [List.map_congr_left hid, List.map_id]
  rw [toAsciiLowercase, hmap, String.ofList_toList]

/-- None of the refused characters occurs. -/
theorem containsAny_refused (h : Normalized idna hostname) :
    containsAny hostname [' ', '*', '>', '\t', '\r', '\n'] = false := by
  rw [containsAny, List.any_eq_false]
  intro c hc hmem
  have hn := hostnameChar_toNat (h.chars c hc)
  rw [List.contains_iff_mem] at hmem
  simp only [List.mem_cons, List.not_mem_nil, or_false] at hmem
  rcases hmem with rfl | rfl | rfl | rfl | rfl | rfl <;> revert hn <;> decide

/-- Every label of a normalized hostname can stand in a subject. -/
theorem validLabel (h : Normalized idna hostname) :
    ∀ label ∈ split '.' hostname, SharedRouting.validLabel label = true := by
  intro label hl
  have hinvalid := h.labels label hl
  simp only [invalidLabel, Bool.or_eq_false_iff] at hinvalid
  obtain ⟨⟨⟨hempty, hlen⟩, hstart⟩, hend⟩ := hinvalid
  have hchars : ∀ c ∈ label.toList, (c.isAlphanum || c == '-') = true := by
    intro c hc
    obtain ⟨piece, hp, rfl⟩ := List.mem_map.mp hl
    rw [String.toList_ofList] at hc
    have hdot := not_mem_of_mem_splitChars hp
    rcases h.chars c (mem_of_mem_splitChars hp hc) with hx | hx | hx | hx
    · exact absurd (hx ▸ hc) hdot
    · simp [hx]
    · have hletter : c.isAlpha = true := isAlpha_iff.mpr (Or.inr hx)
      simp [Char.isAlphanum, hletter]
    · simp [Char.isAlphanum, hx]
  have hfirst : (label.toList.head? == some '-') = false := by
    rw [hasPrefix] at hstart
    cases hs : label.toList with
    | nil => rfl
    | cons c cs =>
      rw [hs] at hstart
      rw [List.head?_cons, beq_eq_false_iff_ne, Ne, Option.some.injEq]
      intro hc
      rw [hc] at hstart
      exact absurd hstart (by simp)
  have hlast : (label.toList.getLast? == some '-') = false := by
    rw [beq_eq_false_iff_ne]
    intro hx
    obtain ⟨before, hb⟩ := List.getLast?_eq_some_iff.mp hx
    rw [hasSuffix, Bool.eq_false_iff, Ne, List.isSuffixOf_iff_suffix] at hend
    exact hend ⟨before, hb.symm⟩
  have hne : label.isEmpty = false := by
    rw [Bool.eq_false_iff, Ne, String.isEmpty_iff]
    exact beq_eq_false_iff_ne.mp hempty
  rw [SharedRouting.validLabel, hne, hlen, hfirst, hlast, List.all_eq_true.mpr hchars]
  rfl

/-- A normalized hostname is normalized to itself. -/
theorem normalizeHostname_eq (h : Normalized idna hostname) :
    normalizeHostname table idna hostname = .ok hostname := by
  have hspace : trimSpace hostname = hostname :=
    trimSpace_of_no_space fun c hc => hostnameChar_isWhitespace (h.chars c hc)
  have hlower : toLower table hostname = hostname := by
    apply toLower_of_lower
    intro c hc
    have hn := hostnameChar_toNat (h.chars c hc)
    exact ⟨by omega, hostnameChar_toLower (h.chars c hc)⟩
  have hempty : (hostname == "") = false := beq_eq_false_iff_ne.mpr h.nonempty
  have hany : (split '.' hostname).any invalidLabel = false := by
    rw [List.any_eq_false]
    intro label hl
    rw [h.labels label hl]
    exact Bool.false_ne_true
  rw [normalizeHostname, hspace, hlower, trimSuffix_dot_of_getLast_ne h.getLast_ne, h.mapped]
  dsimp only
  rw [hempty, h.containsAny_refused, hany]
  rfl

end Normalized

/-- An entitlement at or below the parent that owns the route. -/
structure Covers (idna : Idna) (parent route entitlement : String) : Prop where
  /-- It is normalized. -/
  normalized : Normalized idna entitlement
  /-- It lies in the configured namespace. -/
  belowParent : entitlement = parent ∨ hasSuffix entitlement ("." ++ parent) = true
  /-- It is the route or one of its ancestors. -/
  ownsRoute : route = entitlement ∨ hasSuffix route ("." ++ entitlement) = true

/-- One more entitlement leaves a covering one, or none found yet. -/
theorem considerEntitlement_covers {parent route matched entitlement : String}
    (h : matched = "" ∨ Covers idna parent route matched) :
    considerEntitlement table idna route parent matched entitlement = "" ∨
      Covers idna parent route
        (considerEntitlement table idna route parent matched entitlement) := by
  rw [considerEntitlement]
  split
  · exact h
  · rename_i value hvalue
    split
    · exact h
    · rename_i hparent
      split
      · rename_i hroute
        rw [Bool.and_eq_true, Bool.or_eq_true, beq_iff_eq] at hroute
        refine Or.inr ⟨normalizeHostname_ok hvalue, ?_, hroute.1⟩
        by_cases hp : value = parent
        · exact Or.inl hp
        · right
          rw [Bool.and_eq_true, not_and, bne_iff_ne] at hparent
          simpa using hparent hp
      · exact h

/-- The whole search finds a covering entitlement, or none. -/
theorem foldl_considerEntitlement_covers {parent route matched : String}
    {entitlements : List String} (h : matched = "" ∨ Covers idna parent route matched) :
    entitlements.foldl (considerEntitlement table idna route parent) matched = "" ∨
      Covers idna parent route
        (entitlements.foldl (considerEntitlement table idna route parent) matched) := by
  induction entitlements generalizing matched with
  | nil => exact h
  | cons entitlement entitlements ih =>
    rw [List.foldl_cons]
    exact ih (considerEntitlement_covers h)

/-- What a successful match has established of its route and entitlement. -/
structure Matched (table : LowerTable) (idna : Idna) (requested parent route entitlement : String) :
    Prop where
  /-- The route is the normalized request. -/
  route_eq : normalizeHostname table idna requested = .ok route
  /-- The parent normalizes, lies strictly above the route, and the entitlement
  covers the route below it. -/
  parent_ok : ∃ root, normalizeHostname table idna parent = .ok root ∧
    (route == root || !hasSuffix route ("." ++ root)) = false ∧
    Covers idna root route entitlement

/-- A successful match returns a route and an entitlement that covers it. -/
theorem matchStrictSubdomain_ok {entitlements : List String}
    {requested parent route entitlement : String}
    (h : matchStrictSubdomain table idna entitlements requested parent = .ok (route, entitlement)) :
    Matched table idna requested parent route entitlement := by
  rw [matchStrictSubdomain] at h
  split at h
  · cases h
  · rename_i normalized hrequested
    split at h
    · cases h
    · rename_i root hparent
      split at h
      · cases h
      · rename_i hstrict
        dsimp only at h
        split at h
        · cases h
        · rename_i hfound
          cases h
          rw [beq_iff_eq] at hfound
          have hcovers : Covers idna root route
              (entitlements.foldl (considerEntitlement table idna route root) "") :=
            (foldl_considerEntitlement_covers (Or.inl rfl)).resolve_left hfound
          exact ⟨hrequested, root, hparent, Bool.eq_false_iff.mpr hstrict, hcovers⟩

/-- The matched entitlement alone authorizes the matched route again. -/
theorem authorizeStrictSubdomain_matched {requested parent route entitlement : String}
    (h : Matched table idna requested parent route entitlement) :
    authorizeStrictSubdomain table idna [entitlement] route parent = .ok route := by
  obtain ⟨root, hroot, hstrict, hcovers⟩ := h.parent_ok
  have hroute := normalizeHostname_ok h.route_eq
  have hent := hcovers.normalized
  have hspace : trimSpace entitlement = entitlement :=
    trimSpace_of_no_space fun c hc => hostnameChar_isWhitespace (hent.chars c hc)
  have hmark : trimPrefix entitlement "route:" = entitlement := by
    rw [trimPrefix, stripStart, startsWith, if_neg]
    · rfl
    · intro hstart
      obtain ⟨rest, hrest⟩ := List.isPrefixOf_iff_prefix.mp hstart
      have hcolon : ':' ∈ entitlement.toList := by
        rw [← hrest]
        exact List.mem_append_left rest (by decide)
      exact absurd (hent.chars ':' hcolon) (by decide)
  have hbelow : (entitlement != root && !hasSuffix entitlement ("." ++ root)) = false := by
    rcases hcovers.belowParent with hb | hb
    · rw [hb, bne_self_eq_false, Bool.false_and]
    · rw [hb, Bool.not_true, Bool.and_false]
  have howns : (route == entitlement || hasSuffix route ("." ++ entitlement)) = true := by
    rcases hcovers.ownsRoute with ho | ho
    · rw [ho, beq_self_eq_true, Bool.true_or]
    · rw [ho, Bool.or_true]
  have hlong : "".utf8ByteSize < entitlement.utf8ByteSize := by
    rw [String.utf8ByteSize_empty, Nat.pos_iff_ne_zero, Ne, String.utf8ByteSize_eq_zero_iff]
    exact hent.nonempty
  have hconsider : considerEntitlement table idna route root "" entitlement = entitlement := by
    rw [considerEntitlement, hspace, hmark, hent.normalizeHostname_eq]
    dsimp only
    rw [hbelow, howns, decide_eq_true hlong]
    rfl
  have hne : (entitlement == "") = false := beq_eq_false_iff_ne.mpr hent.nonempty
  rw [authorizeStrictSubdomain, matchStrictSubdomain, hroute.normalizeHostname_eq, hroot]
  dsimp only
  rw [hstrict, List.foldl_cons, List.foldl_nil, hconsider, hne]
  rfl

/-- A client identifier is what the conversion leaves, when its length is in range. -/
theorem clientID_eq_ok {value id : String} :
    clientID table value = .ok id ↔
      trimChar '-' (String.ofList (replaceRuns clientIDChar '-' false
        (toLower table value).toList)) = id ∧ 2 ≤ id.utf8ByteSize ∧ id.utf8ByteSize ≤ 48 := by
  rw [clientID]
  generalize trimChar '-' (String.ofList (replaceRuns clientIDChar '-' false
    (toLower table value).toList)) = kept
  constructor
  · intro h
    split at h
    · cases h
    · rename_i hlength
      cases h
      rw [Bool.or_eq_true, not_or, decide_eq_true_eq, decide_eq_true_eq, not_lt, not_lt] at hlength
      exact ⟨rfl, hlength⟩
  · rintro ⟨rfl, hshort, hlong⟩
    rw [decide_eq_false (Nat.not_lt.mpr hshort), decide_eq_false (Nat.not_lt.mpr hlong)]
    rfl

/-- An accepted client identifier consists of the characters that stay. -/
theorem clientID_chars {value id : String} (h : clientID table value = .ok id) :
    ∀ c ∈ id.toList, clientIDChar c = true := by
  intro c hc
  obtain ⟨rfl, -, -⟩ := clientID_eq_ok.mp h
  have hmem := mem_of_mem_trimChar hc
  rw [String.toList_ofList] at hmem
  rcases mem_replaceRuns hmem with hkeep | hdash
  · exact hkeep
  · rw [hdash]
    decide

/-- An accepted client identifier has two bytes or more. -/
theorem clientID_ne_empty {value id : String} (h : clientID table value = .ok id) : id ≠ "" := by
  rintro rfl
  obtain ⟨-, hshort, -⟩ := clientID_eq_ok.mp h
  exact absurd hshort (by decide)

/-- A character that stays is its own lower case. -/
theorem clientIDChar_toLower {c : Char} (h : clientIDChar c = true) :
    c.toNat < 128 ∧ c.toLower = c := by
  rw [clientIDChar, Bool.or_eq_true, Bool.or_eq_true, Bool.or_eq_true, beq_iff_eq, beq_iff_eq] at h
  rcases h with ((h | h) | h) | h
  · have hn := hostnameChar_toNat (Or.inr (Or.inr (Or.inl h)))
    exact ⟨by omega, hostnameChar_toLower (Or.inr (Or.inr (Or.inl h)))⟩
  · have hn := hostnameChar_toNat (Or.inr (Or.inr (Or.inr h)))
    exact ⟨by omega, hostnameChar_toLower (Or.inr (Or.inr (Or.inr h)))⟩
  · rw [h]
    exact ⟨by decide, by decide⟩
  · rw [h]
    exact ⟨by decide, by decide⟩

/-- An accepted client identifier is converted to itself, whatever the lower case of
other characters is by then. -/
theorem clientID_idempotent {other : LowerTable} {value id : String}
    (h : clientID table value = .ok id) : clientID other id = .ok id := by
  have hchars := clientID_chars h
  obtain ⟨hid, hlength⟩ := clientID_eq_ok.mp h
  have hlower : toLower other id = id := toLower_of_lower fun c hc =>
    clientIDChar_toLower (hchars c hc)
  have htrim : trimChar '-' id = id := by
    rw [← hid, trimChar_trimChar]
  rw [clientID_eq_ok, hlower, replaceRuns_of_keep '-' hchars, String.ofList_toList]
  exact ⟨htrim, hlength⟩

end

end LfpPipe.RouteAuth
