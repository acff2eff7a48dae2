import LfpPipe.SharedConfig

/-!
# Verified claims, roles and identities

The claims of a verified token are JSON. Role checks and the identity that
is forwarded to a backend are translated from `client/src/authorization.rs`.
-/

namespace LfpPipe.ClientIdentity

open RustText Fallible SharedConfig

/-- A decoded JSON value. Of a number only its unsigned integer reading is
used, which is absent for negative and fractional numbers. -/
inductive Value where
  | null
  | bool (value : Bool)
  | number (asU64 : Option ℕ)
  | string (value : String)
  | array (values : List Value)
  | object (fields : List (String × Value))

/-- The value of an object field. -/
def Value.get : Value → String → Option Value
  | .object fields, key => fields.lookup key
  | _, _ => none

/-- The text of a string value. -/
def Value.asStr : Value → Option String
  | .string value => some value
  | _ => none

/-- The unsigned integer reading of a number. -/
def Value.asU64 : Value → Option ℕ
  | .number value => value
  | _ => none

/-- Authentication facts forwarded only after credentials were verified. -/
structure AuthenticatedIdentity where
  /-- Stable subject. -/
  subject : String
  /-- Preferred login name. -/
  username : String
  /-- Display name. -/
  name : Option String
  /-- Mail address. -/
  email : Option String
  /-- Sorted group names. -/
  groups : List String
  /-- Expiry in seconds. -/
  expiresUnix : ℕ
  deriving DecidableEq, Repr

/-- Why a credential was refused. -/
inductive Denial where
  | unauthorized (error : AnyError)
  | forbidden (error : AnyError)
  deriving DecidableEq, Repr

/-- Follow a claim path; no component may be empty. -/
def claimAt (value : Value) : List String → Except AnyError Value
  | [] => .ok value
  | component :: rest => do
    ensure (!component.isEmpty) "roles_claim contains an empty path component"
    let inner ← orMissing "JWT role claim is missing" (value.get component)
    claimAt inner rest

/-- The distinct strings of a role claim. -/
def claimStrings (claims : Value) (path : String) : Except AnyError (List String) := do
  let value ← claimAt claims (split '.' path)
  match value with
  | .string role => .ok [role]
  | .array roles => do
    let values ← collect
      (fun role => orMissing "JWT role claim array must contain strings" role.asStr) roles
    .ok values.eraseDups
  | _ => .error ["JWT role claim must be a string or string array"]

/-- Whether the presented roles meet a requirement. -/
def rolesSatisfied (policy : ClientAuthorizationConfig) (roles : List String) : Bool :=
  match policy.roleMatch with
  | .any => policy.requiredRoles.any fun required => roles.contains required
  | .all => policy.requiredRoles.all fun required => roles.contains required

/-- Check the role requirement of a policy against verified claims. -/
def validateRoles (claims : Value) (policy : ClientAuthorizationConfig) : Except Denial Unit :=
  if policy.requiredRoles.isEmpty then .ok ()
  else
    match claimStrings claims policy.rolesClaim with
    | .error error => .error (.forbidden error)
    | .ok roles =>
      if rolesSatisfied policy roles then .ok ()
      else .error (.forbidden ["required JWT role is missing"])

/-- The strings of a string or array claim, repetitions kept. -/
def claimValueStrings : Value → Except AnyError (List String)
  | .string value => .ok [value]
  | .array values =>
    collect (fun value => orMissing "identity claim array must contain strings" value.asStr) values
  | _ => .error ["identity claim must be a string or string array"]

/-- Group names from the role claim, or else from the groups claim. -/
def identityGroups (claims : Value) (rolesClaim : String) : Except AnyError (List String) :=
  match claimStrings claims rolesClaim with
  | .ok values => .ok values
  | .error _ =>
    match claims.get "groups" with
    | none => .ok []
    | some value => claimValueStrings value

/-- An identity value may not break a header line. -/
def withoutNewline (value : String) : Except AnyError Unit :=
  ensure (!containsAny value ['\r', '\n']) "identity claim contains a newline"

/-- Read the forwarded identity from verified claims. -/
def identityFromClaims (claims : Value) (rolesClaim : String) :
    Except AnyError AuthenticatedIdentity := do
  let subject ← orMissing "identity token has no string sub claim"
    ((claims.get "sub").bind Value.asStr)
  let email := (claims.get "email").bind Value.asStr
  let name := (claims.get "name").bind Value.asStr
  let username := ((["preferred_username", "name"].findSome? fun key =>
    (claims.get key).bind Value.asStr).or email).getD subject
  let unsorted ← identityGroups claims rolesClaim
  let groups := unsorted.mergeSort fun left right => decide (left ≤ right)
  let expiresUnix := ((claims.get "exp").bind Value.asU64).getD 0
  checkAll withoutNewline (subject :: username :: (name.toList ++ email.toList ++ groups))
  .ok ⟨subject, username, name, email, groups, expiresUnix⟩

/-- A claim object with one string claim, as tests use it. -/
example : claimStrings (.object [("realm_access", .object [("roles",
    .array [.string "service-user", .string "admin"])])]) "realm_access.roles" =
    .ok ["service-user", "admin"] := by decide

/-- Passing claims satisfy a nonempty requirement through the role claim. -/
theorem validateRoles_eq_ok {claims : Value} {policy : ClientAuthorizationConfig} {u : Unit} :
    validateRoles claims policy = .ok u ↔ policy.requiredRoles = [] ∨
      ∃ roles, claimStrings claims policy.rolesClaim = .ok roles ∧
        rolesSatisfied policy roles = true := by
  unfold validateRoles
  by_cases he : policy.requiredRoles.isEmpty = true
  · have hnil := List.isEmpty_iff.mp he
    simp [hnil]
  · have hnil : policy.requiredRoles ≠ [] := fun h => he (List.isEmpty_iff.mpr h)
    rw [if_neg he]
    cases hc : claimStrings claims policy.rolesClaim with
    | error error => simp [hnil]
    | ok roles => by_cases hr : rolesSatisfied policy roles = true <;> simp [hnil, hr]

end LfpPipe.ClientIdentity
