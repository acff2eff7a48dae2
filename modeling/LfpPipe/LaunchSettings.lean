import Mathlib.Algebra.Group.Nat.Defs
import Mathlib.Logic.Function.Basic
import LfpPipe.LayeredSettings
import LfpPipe.SharedConfig
import LfpPipe.TomlValues

/-!
# Command-line options and environment variables

What both programs do before they read their file, translated from
`shared/src/cli.rs`. Listed variables that are not set are read from the file
that a second variable names, and every option is taken from the command line
or else from its variable. The command line and the parsing of option values
are those of the argument parser; texts of its messages are left out.
-/

namespace LfpPipe.LaunchSettings

open RustText Fallible SharedConfig TomlValues LayeredSettings

/-- What a process is started with. -/
structure Launch where
  /-- Values on the command line, by the long name of their option. -/
  options : String → Option String
  /-- Variables of the environment. -/
  environment : String → Option String
  /-- Read a text file. -/
  readToString : String → Except AnyError String
  /-- Whether there is a file at a path. -/
  pathExists : String → Bool

/-- Variables that may be read from a file. -/
def fileBackedEnvironment : List String :=
  ["LFP_PIPE_CONFIG", "RUST_LOG", "LFP_PIPE_PUBLIC_LISTEN", "LFP_PIPE_DATA_LISTEN",
    "LFP_PIPE_ADVERTISED_DATA_ADDR", "LFP_PIPE_NATS_URL", "LFP_PIPE_NATS_TOKEN_FILE",
    "LFP_PIPE_RELAY_MODE", "LFP_PIPE_REQUEST_SUBJECT", "LFP_PIPE_DOMAIN_SUBJECT_ROUTING",
    "LFP_PIPE_CLAIM_TIMEOUT_MS", "LFP_PIPE_PENDING_TIMEOUT_MS", "LFP_PIPE_CLIENT_ID",
    "LFP_PIPE_CLAIM_ACK_TIMEOUT_MS", "LFP_PIPE_TRAY", "LFP_PIPE_OAUTH_USERNAME",
    "LFP_PIPE_OAUTH_CLIENT_SECRET_FILE"]

/-- A text without the line endings at its end. -/
def trimLineEndings (text : String) : String :=
  String.ofList (dropEndWhile (fun c => c == '\r' || c == '\n') text.toList)

/-- The value of a variable: the one it has, else the content of its file. -/
def loadFileBackedValue (readToString : String → Except AnyError String) (name : String)
    (direct filePath : Option String) : Except AnyError (Option String) :=
  match direct with
  | some value => .ok (some value)
  | none =>
    match filePath with
    | none => .ok none
    | some path => do
      let value ← withContext ("read " ++ name ++ "_FILE from " ++ path) (readToString path)
      .ok (some (trimLineEndings value))

/-- Set a variable, which panics on a text that the system cannot hold. -/
def setVar (environment : String → Option String) (name value : String) :
    Except AnyError (String → Option String) := do
  ensure (!value.toList.contains (Char.ofNat 0)) ("failed to set environment variable " ++ name)
  .ok (Function.update environment name (some value))

/-- Set listed variables from their files, one after the other. -/
def hydrateNames (readToString : String → Except AnyError String) :
    List String → (String → Option String) → Except AnyError (String → Option String)
  | [], environment => .ok environment
  | name :: names, environment => do
    let value ← loadFileBackedValue readToString name (environment name)
      (environment (name ++ "_FILE"))
    match value with
    | none => hydrateNames readToString names environment
    | some value => do
      let environment ← setVar environment name value
      hydrateNames readToString names environment

/-- The environment after the listed variables have been set. -/
def hydrateFileBackedEnvironment (launch : Launch) :
    Except AnyError (String → Option String) :=
  hydrateNames launch.readToString fileBackedEnvironment launch.environment

/-- An option with one value. -/
structure Arg (α : Type) where
  /-- Long name on the command line. -/
  long : String
  /-- Its environment variable. -/
  env : String
  /-- Read the value. -/
  parse : String → Option α

/-- The value of an option: a command-line value hides the variable. -/
def Arg.get {α : Type} (arg : Arg α) (launch : Launch) (environment : String → Option String) :
    Except AnyError (Option α) :=
  match (launch.options arg.long).or (environment arg.env) with
  | none => .ok none
  | some text => do
    let value ← orMissing ("invalid value for --" ++ arg.long) (arg.parse text)
    .ok (some value)

/-- Values of text options. -/
def parseText (text : String) : Option String := some text

/-- Values of path options. -/
def parsePath (text : String) : Option String := if text.isEmpty then none else some text

/-- Values of switches that are written out. -/
def parseBool (text : String) : Option Bool :=
  if text == "true" then some true else if text == "false" then some false else none

/-- A number of 64 bits in decimal digits. -/
def digitsValue (digits : List Char) : Option ℕ :=
  if digits.isEmpty || !digits.all Char.isDigit then none
  else
    let value := digits.foldl (fun total digit => 10 * total + (digit.toNat - 48)) 0
    if value < 2 ^ 64 then some value else none

/-- Values of counts and durations, with an optional sign. -/
def parseU64 (text : String) : Option ℕ :=
  match text.toList with
  | '+' :: digits => digitsValue digits
  | digits => digitsValue digits

/-- Values of the copy implementation. -/
def parseRelayMode : String → Option RelayMode
  | "auto" => some .auto
  | "buffered" => some .buffered
  | "splice" => some .splice
  | _ => none

/-- When the client has a tray. -/
inductive DesktopMode where
  | auto
  | always
  | never
  deriving DecidableEq, Repr

/-- Values of the tray option. -/
def parseDesktopMode : String → Option DesktopMode
  | "auto" => some .auto
  | "always" => some .always
  | "never" => some .never
  | _ => none

/-- Where a program finds its file. -/
def configArg : Arg String := ⟨"config", "LFP_PIPE_CONFIG", parsePath⟩

/-- Which messages it logs. -/
def logFilterArg : Arg String := ⟨"log-filter", "RUST_LOG", parseText⟩

/-- The control-message server. -/
def natsUrlArg : Arg String := ⟨"nats-url", "LFP_PIPE_NATS_URL", parseText⟩

/-- A file with a bearer token for it. -/
def natsTokenFileArg : Arg String := ⟨"nats-token-file", "LFP_PIPE_NATS_TOKEN_FILE", parseText⟩

/-- The copy implementation. -/
def relayModeArg : Arg RelayMode := ⟨"relay-mode", "LFP_PIPE_RELAY_MODE", parseRelayMode⟩

/-- The subject of connection requests. -/
def requestSubjectArg : Arg String :=
  ⟨"request-subject", "LFP_PIPE_REQUEST_SUBJECT", parseText⟩

def defaultLogFilter : String := "info,async_nats=warn"

/-- Options that both programs have. -/
structure CommonOptions where
  /-- Path of the file. -/
  config : Option String
  /-- Log directives. -/
  logFilter : String
  deriving DecidableEq, Repr

/-- Read the options that both programs have. -/
def CommonOptions.parse (launch : Launch) (environment : String → Option String) :
    Except AnyError CommonOptions := do
  let config ← configArg.get launch environment
  let logFilter ← logFilterArg.get launch environment
  .ok ⟨config, logFilter.getD defaultLogFilter⟩

/-- Where a setting may come from before the file is read, highest precedence
first. -/
inductive Layer where
  /-- The command line. -/
  | option
  /-- The environment. -/
  | environment
  /-- A file that the environment names. -/
  | environmentFile
  deriving DecidableEq, Repr

/-- The documented order. -/
def Layer.all : List Layer := [.option, .environment, .environmentFile]

/-- The content of the file of a listed variable. -/
def Launch.fileText (launch : Launch) (name : String) : Option String :=
  if name ∈ fileBackedEnvironment then
    (launch.environment (name ++ "_FILE")).bind fun path =>
      (launch.readToString path).toOption.map trimLineEndings
  else none

/-- The environment after the listed variables have been set. -/
def Launch.hydrated (launch : Launch) (name : String) : Option String :=
  (launch.environment name).or (launch.fileText name)

/-- The text that a layer has for an option. -/
def Launch.text {α : Type} (launch : Launch) (arg : Arg α) : Layer → Option String
  | .option => launch.options arg.long
  | .environment => launch.environment arg.env
  | .environmentFile => launch.fileText arg.env

/-- What a layer defines: nothing, a text that is no value, or a value. -/
def Launch.define {α : Type} (launch : Launch) (arg : Arg α) (layer : Layer) :
    Option (Option α) :=
  (launch.text arg layer).map arg.parse

/-- The value of a setting in the form that all settings share. -/
inductive Value where
  /-- A text. -/
  | text (value : String)
  /-- A text that may be missing. -/
  | maybe (value : Option String)
  /-- A copy implementation. -/
  | mode (value : RelayMode)
  /-- A switch. -/
  | flag (value : Bool)
  /-- A count or a duration. -/
  | count (value : ℕ)
  deriving DecidableEq, Repr

/-- An option whose value is used in another form. -/
def Arg.map {α β : Type} (f : α → β) (arg : Arg α) : Arg β :=
  ⟨arg.long, arg.env, fun text => (arg.parse text).map f⟩

/-- An empty text stands for none. -/
def nonEmpty (text : String) : Option String := if text.isEmpty then none else some text

/-- An option has no value, or the one of its first layer. -/
def Launch.Resolves {α : Type} (launch : Launch) (arg : Arg α) (value : Option α) : Prop :=
  FirstDefined (launch.define arg) Layer.all (value.map some)

/-- A variable can be set to a text. -/
def Settable (text : String) : Prop := Char.ofNat 0 ∉ text.toList

/-- The value that a variable is set to, if it can be. -/
def Loaded (readToString : String → Except AnyError String)
    (environment : String → Option String) (name : String) (value : Option String) : Prop :=
  loadFileBackedValue readToString name (environment name) (environment (name ++ "_FILE")) =
    .ok value ∧ ∀ text, value = some text → Settable text

/-- Every listed variable can be loaded. -/
def Launch.Loads (launch : Launch) : Prop :=
  ∀ name ∈ fileBackedEnvironment, ∃ value,
    Loaded launch.readToString launch.environment name value

/-- A variable can be set exactly to the texts that the system can hold. -/
theorem setVar_eq_ok {environment changed : String → Option String} {name value : String} :
    setVar environment name value = .ok changed ↔
      Settable value ∧ changed = Function.update environment name (some value) := by
  simp only [setVar, bind_eq_ok, ensure_eq_ok, Bool.not_eq_true', List.contains_eq_mem,
    decide_eq_false_iff_not, Except.ok.injEq, Settable]
  constructor
  · rintro ⟨_, hsettable, h⟩
    exact ⟨hsettable, h.symm⟩
  · rintro ⟨hsettable, h⟩
    exact ⟨(), hsettable, h.symm⟩

/-- Setting the first listed variable changes that variable only. -/
theorem hydrateNames_cons {readToString : String → Except AnyError String} {name : String}
    {names : List String} {environment final : String → Option String} :
    hydrateNames readToString (name :: names) environment = .ok final ↔
      ∃ changed, Loaded readToString environment name (changed name) ∧
        (∀ other, other ≠ name → changed other = environment other) ∧
        hydrateNames readToString names changed = .ok final := by
  rw [hydrateNames, bind_eq_ok]
  constructor
  · rintro ⟨value, hvalue, h⟩
    cases value with
    | none =>
      have habsent : environment name = none := by
        cases hdirect : environment name with
        | none => rfl
        | some text =>
          rw [hdirect] at hvalue
          cases hvalue
      refine ⟨environment, ⟨?_, ?_⟩, fun other _ => rfl, h⟩
      · rw [hvalue, habsent]
      · intro text htext
        rw [habsent] at htext
        cases htext
    | some value =>
      obtain ⟨changed, hset, h⟩ := bind_eq_ok.mp h
      obtain ⟨hsettable, rfl⟩ := setVar_eq_ok.mp hset
      refine ⟨_, ⟨?_, ?_⟩, fun other hother => Function.update_of_ne hother .., h⟩
      · rw [hvalue, Function.update_self]
      · intro text htext
        rw [Function.update_self] at htext
        cases htext
        exact hsettable
  · rintro ⟨changed, ⟨hvalue, hsettable⟩, hothers, h⟩
    refine ⟨changed name, hvalue, ?_⟩
    cases hname : changed name with
    | none =>
      have habsent : environment name = none := by
        cases hdirect : environment name with
        | none => rfl
        | some text =>
          rw [hdirect, hname] at hvalue
          cases hvalue
      have hsame : changed = environment := by
        funext other
        by_cases hother : other = name
        · rw [hother, hname, habsent]
        · exact hothers other hother
      rw [hsame] at h
      exact h
    | some value =>
      have hsame : changed = Function.update environment name (some value) := by
        funext other
        by_cases hother : other = name
        · rw [hother, hname, Function.update_self]
        · rw [hothers other hother, Function.update_of_ne hother]
      rw [hsame] at h
      exact bind_eq_ok.mpr ⟨_, setVar_eq_ok.mpr ⟨hsettable value hname, rfl⟩, h⟩

/-- Listed variables get the values that they have at the start, as long as no
listed variable is the file of another. -/
theorem hydrateNames_eq_ok {readToString : String → Except AnyError String}
    {names : List String} {environment final : String → Option String} (hnodup : names.Nodup)
    (hfiles : ∀ name ∈ names, ∀ other ∈ names, name ≠ other ++ "_FILE") :
    hydrateNames readToString names environment = .ok final ↔
      (∀ name ∈ names, Loaded readToString environment name (final name)) ∧
        ∀ name, name ∉ names → final name = environment name := by
  induction names generalizing environment with
  | nil =>
    rw [hydrateNames, Except.ok.injEq]
    constructor
    · rintro rfl
      exact ⟨fun name hname => absurd hname List.not_mem_nil, fun name _ => rfl⟩
    · rintro ⟨-, hothers⟩
      exact funext fun name => (hothers name List.not_mem_nil).symm
  | cons name names ih =>
    obtain ⟨hnew, hnodup⟩ := List.nodup_cons.mp hnodup
    have hlater : ∀ m ∈ names, ∀ other ∈ names, m ≠ other ++ "_FILE" := fun m hm other hother =>
      hfiles m (List.mem_cons_of_mem _ hm) other (List.mem_cons_of_mem _ hother)
    have hloaded : ∀ changed : String → Option String,
        (∀ other, other ≠ name → changed other = environment other) → ∀ m ∈ names, ∀ value,
        Loaded readToString changed m value ↔ Loaded readToString environment m value := by
      intro changed hothers m hm value
      have hm' : m ≠ name := fun hsame => hnew (hsame ▸ hm)
      have hfile : m ++ "_FILE" ≠ name := fun hsame =>
        hfiles name List.mem_cons_self m (List.mem_cons_of_mem _ hm) hsame.symm
      rw [Loaded, hothers m hm', hothers _ hfile, Loaded]
    rw [hydrateNames_cons]
    constructor
    · rintro ⟨changed, hfirst, hothers, h⟩
      obtain ⟨hrest, hsame⟩ := (ih hnodup hlater).mp h
      refine ⟨fun m hm => ?_, fun m hm => ?_⟩
      · rcases List.mem_cons.mp hm with rfl | hm
        · rw [hsame _ hnew]
          exact hfirst
        · exact (hloaded changed hothers m hm _).mp (hrest m hm)
      · obtain ⟨hne, hnot⟩ := not_or.mp (mt List.mem_cons.mpr hm)
        rw [hsame m hnot, hothers m hne]
    · rintro ⟨hall, hsame⟩
      have hothers : ∀ other, other ≠ name →
          Function.update environment name (final name) other = environment other :=
        fun other hother => Function.update_of_ne hother ..
      refine ⟨Function.update environment name (final name), ?_, hothers, ?_⟩
      · rw [Function.update_self]
        exact hall name List.mem_cons_self
      · refine (ih hnodup hlater).mpr ⟨fun m hm => ?_, fun m hm => ?_⟩
        · exact (hloaded _ hothers m hm _).mpr (hall m (List.mem_cons_of_mem _ hm))
        · by_cases hname : m = name
          · rw [hname, Function.update_self]
          · rw [hothers m hname]
            exact hsame m (fun hmem => (List.mem_cons.mp hmem).elim hname hm)

/-- Listed variables are different. -/
theorem nodup_fileBackedEnvironment : fileBackedEnvironment.Nodup := by decide

/-- No listed variable names the file of another one. -/
theorem ne_file_of_mem :
    ∀ name ∈ fileBackedEnvironment, ∀ other ∈ fileBackedEnvironment, name ≠ other ++ "_FILE" := by
  decide

/-- A listed variable is set to its value, else to the content of its file. -/
theorem Loaded.eq_hydrated {launch : Launch} {name : String} {value : Option String}
    (hname : name ∈ fileBackedEnvironment)
    (h : Loaded launch.readToString launch.environment name value) :
    value = launch.hydrated name := by
  obtain ⟨h, -⟩ := h
  rw [Launch.hydrated]
  cases hdirect : launch.environment name with
  | some text =>
    rw [hdirect] at h
    cases h
    rfl
  | none =>
    rw [hdirect] at h
    rw [Option.none_or, Launch.fileText, if_pos hname]
    cases hpath : launch.environment (name ++ "_FILE") with
    | none =>
      rw [hpath] at h
      cases h
      rfl
    | some path =>
      rw [hpath] at h
      obtain ⟨content, hcontent, h⟩ := bind_eq_ok.mp h
      rw [Option.bind_some, withContext_eq_ok.mp hcontent]
      cases h
      rfl

/-- The listed variables are set when all of them can be loaded. -/
theorem hydrate_eq_ok {launch : Launch} {environment : String → Option String} :
    hydrateFileBackedEnvironment launch = .ok environment ↔
      launch.Loads ∧ environment = launch.hydrated := by
  rw [hydrateFileBackedEnvironment,
    hydrateNames_eq_ok nodup_fileBackedEnvironment ne_file_of_mem]
  constructor
  · rintro ⟨hlisted, hothers⟩
    refine ⟨fun name hname => ⟨_, hlisted name hname⟩, funext fun name => ?_⟩
    by_cases hname : name ∈ fileBackedEnvironment
    · exact (hlisted name hname).eq_hydrated hname
    · rw [hothers name hname, Launch.hydrated, Launch.fileText, if_neg hname, Option.or_none]
  · rintro ⟨hloads, rfl⟩
    refine ⟨fun name hname => ?_, fun name hname => ?_⟩
    · obtain ⟨value, hvalue⟩ := hloads name hname
      rw [←hvalue.eq_hydrated hname]
      exact hvalue
    · rw [Launch.hydrated, Launch.fileText, if_neg hname, Option.or_none]

section

variable {α : Type} {launch : Launch} {arg : Arg α}

/-- The first definition is the first text. -/
theorem findSome?_define :
    Layer.all.findSome? (launch.define arg) =
      ((launch.options arg.long).or
        ((launch.environment arg.env).or (launch.fileText arg.env))).map arg.parse := by
  rw [Layer.all, findSome?_cons_or, findSome?_cons_or, findSome?_cons_or, List.findSome?_nil,
    Option.or_none]
  simp only [Launch.define, Launch.text]
  cases launch.options arg.long with
  | some text => rfl
  | none =>
    cases launch.environment arg.env with
    | some text => rfl
    | none => rfl

/-- An option is taken from the first layer that has it. -/
theorem get_eq_ok {value : Option α} :
    arg.get launch launch.hydrated = .ok value ↔ launch.Resolves arg value := by
  rw [Launch.Resolves, firstDefined_iff, findSome?_define, Arg.get, Launch.hydrated]
  cases (launch.options arg.long).or
      ((launch.environment arg.env).or (launch.fileText arg.env)) with
  | none => cases value <;> simp
  | some text =>
    rw [Option.map_some]
    constructor
    · intro h
      obtain ⟨parsed, hparsed, h⟩ := bind_eq_ok.mp h
      cases h
      rw [orMissing_eq_ok.mp hparsed]
      rfl
    · intro h
      cases value with
      | none => cases h
      | some value =>
        have hparsed : arg.parse text = some value := (Option.some.inj h).symm
        exact bind_eq_ok.mpr ⟨value, orMissing_eq_ok.mpr hparsed, rfl⟩

/-- The layers determine the value of an option. -/
theorem Launch.Resolves.unique {value other : Option α} (h : launch.Resolves arg value)
    (hother : launch.Resolves arg other) : value = other := by
  have hsame : value.map some = other.map some := h.eq_findSome?.trans hother.eq_findSome?.symm
  exact Option.map_injective (fun _ _ => Option.some.inj) hsame

/-- A value in another form comes from the same layer. -/
theorem Launch.Resolves.map {β : Type} {value : Option α} (f : α → β)
    (h : launch.Resolves arg value) : launch.Resolves (arg.map f) (value.map f) := by
  rw [Launch.Resolves, firstDefined_iff, findSome?_define] at h ⊢
  have hmap : (value.map f).map some = (value.map some).map (Option.map f) := by
    cases value <;> rfl
  rw [hmap, h, Option.map_map]
  rfl

/-- A fallback in another form. -/
theorem getD_map_write {α : Type} (write : α → Value) (value : Option α) (fallback : α) :
    write (value.getD fallback) = (value.map write).getD (write fallback) := by
  cases value <;> rfl

/-- A fallback of a text that may be removed. -/
theorem getD_map_maybe (value fallback : Option String) :
    Value.maybe ((value.map nonEmpty).getD fallback) =
      (value.map (.maybe ∘ nonEmpty)).getD (.maybe fallback) := by
  cases value <;> rfl

/-- A value in another form was a value. -/
theorem exists_resolves_of_map {β : Type} {f : α → β} {value : Option β}
    (h : launch.Resolves (arg.map f) value) : ∃ found, launch.Resolves arg found := by
  simp only [Launch.Resolves, firstDefined_iff, findSome?_define] at h ⊢
  cases htext : (launch.options arg.long).or
      ((launch.environment arg.env).or (launch.fileText arg.env)) with
  | none => exact ⟨none, rfl⟩
  | some text =>
    have hparsed : value.map some = some ((arg.parse text).map f) := by
      rw [h]
      exact congrArg (Option.map fun text => (arg.parse text).map f) htext
    obtain ⟨other, -, hother⟩ := Option.map_eq_some_iff.mp hparsed
    obtain ⟨found, hfound, -⟩ := Option.map_eq_some_iff.mp hother.symm
    exact ⟨some found, by rw [Option.map_some, Option.map_some, hfound]⟩

end

end LfpPipe.LaunchSettings
