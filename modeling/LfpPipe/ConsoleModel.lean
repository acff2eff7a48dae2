import LfpPipe.ConfigDecoding

/-!
# Route summaries of the management console

Translated from `configRoutes` of `controlplane/web/src/console-model.ts`.
The console reads the same parsed document as the client, without types: a
value of another type counts as missing. For each path it joins the path's
own policy table with the nearest parent table that has a key.
-/

namespace LfpPipe.ConsoleModel

open TomlValues

/-- A table of settings. -/
abbrev ConfigTable := List (String × Toml)

/-- A table; everything else counts as an empty one. -/
def object : Option Toml → ConfigTable
  | some (.table entries) => entries
  | _ => []

/-- A text; everything else counts as empty. -/
def string : Option Toml → String
  | some (.string value) => value
  | _ => ""

/-- The texts of an array. -/
def strings (value : Option Toml) : List String := (items value).filterMap Toml.asText

/-- The first text unless it is empty, else the second. -/
def orText (first second : String) : String := if first.isEmpty then second else first

/-- Join two tables; the keys of the second win. -/
def spread (base override : ConfigTable) : ConfigTable := override ++ base

/-- Exactly the flag `false`. -/
def isFalse : Option Toml → Bool
  | some (.boolean false) => true
  | _ => false

/-- Whether a value counts as true in a condition. -/
def truthy : Option Toml → Bool
  | none => false
  | some (.string value) => !value.isEmpty
  | some (.integer value) => value != 0
  | some (.float (.finite mantissa _)) => mantissa != 0
  | some (.float (.infinity _)) => true
  | some (.float .nan) => false
  | some (.boolean value) => value
  | some (.datetime _) => true
  | some (.array _) => true
  | some (.table _) => true

/-- One path of a summary. -/
structure PathSummary where
  /-- Its prefix. -/
  path : String
  /-- Its destination. -/
  backend : String
  /-- Whether it is shown as protected. -/
  isProtected : Bool
  /-- The accepted credentials. -/
  methods : List String
  /-- The required roles. -/
  roles : List String
  deriving DecidableEq, Repr

/-- One route as the console shows it. -/
structure RouteSummary (Principal : Type) where
  /-- The service principal of the document. -/
  principal : Principal
  /-- Its hostname. -/
  hostname : String
  /-- Its destination of raw traffic. -/
  backend : String
  /-- Its destination of plaintext HTTP. -/
  httpBackend : String
  /-- Whether TLS is terminated locally. -/
  tls : Bool
  /-- Its paths. -/
  paths : List PathSummary
  deriving DecidableEq, Repr

/-- The policy settings shown for one path. -/
def resolvedAuthorization (inherited own : ConfigTable) : ConfigTable := spread inherited own

/-- Whether a path is shown as protected. -/
def protectedPath (inherited own : ConfigTable) : Bool :=
  (!inherited.isEmpty || !own.isEmpty) &&
    !isFalse ((resolvedAuthorization inherited own).lookup "enabled")

/-- The credentials shown for one path. -/
def pathMethods (inherited own : ConfigTable) : List String :=
  let resolved := resolvedAuthorization inherited own
  if protectedPath inherited own then
    [if isFalse (resolved.lookup "bearer") then "" else "Bearer",
      if truthy (resolved.lookup "oidc") then "OIDC" else ""].filter fun method => !method.isEmpty
  else []

/-- The summary of one path. -/
def pathSummary (defaults route inherited : ConfigTable) (value : Toml) : PathSummary :=
  let path := object (some value)
  let own := object (path.lookup "authorization")
  { path := orText (string (path.lookup "path_prefix")) "/"
    backend := orText (orText (string (path.lookup "backend_addr"))
      (string (route.lookup "http_backend_addr"))) (string (defaults.lookup "http_backend_addr"))
    isProtected := protectedPath inherited own
    methods := pathMethods inherited own
    roles := strings ((resolvedAuthorization inherited own).lookup "required_roles") }

/-- The table that paths of a route inherit: the nearest one with a key. -/
def inheritedAuthorization (defaultAuthorization routeAuthorization : ConfigTable) : ConfigTable :=
  if routeAuthorization.isEmpty then defaultAuthorization else routeAuthorization

/-- The summary of one route. -/
def routeSummary {Principal : Type} (principal : Principal) (defaults : ConfigTable)
    (value : Toml) : RouteSummary Principal :=
  let route := object (some value)
  let defaultAcme := object (defaults.lookup "acme")
  let routeAcme := object (route.lookup "acme")
  let defaultTls := !defaultAcme.isEmpty && !isFalse (defaultAcme.lookup "enabled")
  let inherited := inheritedAuthorization (object (defaults.lookup "authorization"))
    (object (route.lookup "authorization"))
  { principal := principal
    hostname := string (route.lookup "hostname")
    backend :=
      orText (string (route.lookup "backend_addr")) (string (defaults.lookup "backend_addr"))
    httpBackend := orText (string (route.lookup "http_backend_addr"))
      (string (defaults.lookup "http_backend_addr"))
    tls := if (routeAcme.lookup "enabled").isNone then defaultTls
      else !isFalse (routeAcme.lookup "enabled")
    paths := (items (route.lookup "path_routes")).map (pathSummary defaults route inherited) }

/-- The routes of a document; a text that cannot be parsed has none. -/
def configRoutes {Principal : Type} (principal : Principal) (parsed : Option Toml) :
    List (RouteSummary Principal) :=
  match parsed with
  | none => []
  | some value =>
    let document := object (some value)
    (items (document.lookup "routes")).map
      (routeSummary principal (object (document.lookup "defaults")))

/-- Settings of a table are those of the value. -/
theorem lookup_object (value : Option Toml) (key : String) :
    (object value).lookup key = entry value key := by
  cases value with
  | none => rfl
  | some value => cases value <;> rfl

/-- The keys of the joined table: the second table first. -/
theorem lookup_spread (base override : ConfigTable) (key : String) :
    (spread base override).lookup key = (override.lookup key).or (base.lookup key) := by
  rw [spread, List.lookup_append]

end LfpPipe.ConsoleModel
