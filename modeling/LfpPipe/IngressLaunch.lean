import LfpPipe.ConfigDecoding
import LfpPipe.LaunchSettings
import LfpPipe.SniRoutes

/-!
# How the ingress is started

`IngressCli` of `shared/src/cli.rs` with the loading of the ingress file and
its overrides in `shared/src/config.rs`. The documented order of precedence is
command line, environment, file named by the environment, TOML file, default.
It holds for every setting, and there are settings exactly when the file and all
first definitions can be read. The run that follows may still refuse them. The
TOML reader is a parameter.
-/

namespace LfpPipe.IngressLaunch

open Fallible SharedConfig TomlValues ConfigDecoding LayeredSettings LaunchSettings SniRoutes

/-- All settings of the ingress. -/
structure IngressConfig extends SharedConfig.IngressConfig where
  /-- Address of public connections. -/
  publicListen : String
  /-- Address of callbacks. -/
  dataListen : String
  /-- Reachable callback address. -/
  advertisedDataAddr : Option String
  /-- Control-message server. -/
  natsUrl : String
  /-- File with a bearer token for it. -/
  natsTokenFile : Option String
  /-- Stream-copy implementation. -/
  relayMode : RelayMode
  /-- Wait for the first claim. -/
  claimTimeoutMs : ℕ
  /-- Wait for the bytes that name a host. -/
  ingressHandshakeTimeoutMs : ℕ
  /-- Wait for a callback prefix. -/
  callbackHandshakeTimeoutMs : ℕ
  deriving DecidableEq

def defaultClaimTimeoutMs : ℕ := 3000

def defaultPendingTimeoutMs : ℕ := 10000

def defaultIngressHandshakeTimeoutMs : ℕ := 15000

def defaultCallbackHandshakeTimeoutMs : ℕ := 15000

def defaultMaxIngressConnections : ℕ := 0

def defaultMaxCallbackHandshakes : ℕ := 0

/-- The copy implementation in a file of one shape: its name, or a table whose only
key is the name, with nothing in it. -/
def relayModeFromToml : Toml → Option RelayMode
  | .table [(name, .table [])] => RelayMode.fromToml (.string name)
  | .table [(name, .array [])] => RelayMode.fromToml (.string name)
  | value => RelayMode.fromToml value

/-- One direct route of the file. -/
def sniPassthroughRouteFromToml (value : Toml) : Option SniPassthroughRoute := do
  let field ← value.fields ["hostname", "backend_addr"]
  let hostname ← required Toml.asText (field "hostname")
  let backendAddr ← required Toml.asText (field "backend_addr")
  some ⟨hostname, backendAddr⟩

/-- The file of an ingress. -/
def IngressConfig.fromToml (value : Toml) : Option IngressConfig := do
  let field ← value.fields ["public_listen", "data_listen", "advertised_data_addr", "nats_url",
    "nats_token_file", "relay_mode", "request_subject", "domain_subject_routing",
    "claim_timeout_ms", "pending_timeout_ms", "ingress_handshake_timeout_ms",
    "callback_handshake_timeout_ms", "max_ingress_connections", "max_callback_handshakes",
    "sni_passthrough_routes"]
  let publicListen ← required Toml.asText (field "public_listen")
  let dataListen ← required Toml.asText (field "data_listen")
  let advertisedDataAddr ← optional Toml.asText (field "advertised_data_addr")
  let natsUrl ← required Toml.asText (field "nats_url")
  let natsTokenFile ← optional Toml.asText (field "nats_token_file")
  let relayMode ← defaulted .auto relayModeFromToml (field "relay_mode")
  let requestSubject ← defaulted defaultRequestSubject Toml.asText (field "request_subject")
  let domainSubjectRouting ← defaulted false Toml.asFlag (field "domain_subject_routing")
  let claimTimeoutMs ← defaulted defaultClaimTimeoutMs Toml.asCount (field "claim_timeout_ms")
  let pendingTimeoutMs ←
    defaulted defaultPendingTimeoutMs Toml.asCount (field "pending_timeout_ms")
  let ingressHandshakeTimeoutMs ← defaulted defaultIngressHandshakeTimeoutMs Toml.asCount
    (field "ingress_handshake_timeout_ms")
  let callbackHandshakeTimeoutMs ← defaulted defaultCallbackHandshakeTimeoutMs Toml.asCount
    (field "callback_handshake_timeout_ms")
  let maxIngressConnections ← defaulted defaultMaxIngressConnections Toml.asCount
    (field "max_ingress_connections")
  let maxCallbackHandshakes ← defaulted defaultMaxCallbackHandshakes Toml.asCount
    (field "max_callback_handshakes")
  let sniPassthroughRoutes ←
    defaulted [] (Toml.asList sniPassthroughRouteFromToml) (field "sni_passthrough_routes")
  some ⟨⟨requestSubject, domainSubjectRouting, pendingTimeoutMs, maxIngressConnections,
    maxCallbackHandshakes, sniPassthroughRoutes⟩, publicListen, dataListen, advertisedDataAddr,
    natsUrl, natsTokenFile, relayMode, claimTimeoutMs, ingressHandshakeTimeoutMs,
    callbackHandshakeTimeoutMs⟩

/-- Values of options that replace those of the file. -/
structure IngressOverrides where
  /-- Address of public connections. -/
  publicListen : Option String
  /-- Address of callbacks. -/
  dataListen : Option String
  /-- Reachable callback address; an empty one removes it. -/
  advertisedDataAddr : Option String
  /-- Control-message server. -/
  natsUrl : Option String
  /-- File with a bearer token; an empty one removes it. -/
  natsTokenFile : Option String
  /-- Stream-copy implementation. -/
  relayMode : Option RelayMode
  /-- Subject of connection requests. -/
  requestSubject : Option String
  /-- One subject for each hostname. -/
  domainSubjectRouting : Option Bool
  /-- Wait for the first claim. -/
  claimTimeoutMs : Option ℕ
  /-- Lifetime of a pending connection. -/
  pendingTimeoutMs : Option ℕ
  /-- Wait for the bytes that name a host. -/
  ingressHandshakeTimeoutMs : Option ℕ
  /-- Wait for a callback prefix. -/
  callbackHandshakeTimeoutMs : Option ℕ
  /-- Limit of public connections. -/
  maxIngressConnections : Option ℕ
  /-- Limit of callback handshakes. -/
  maxCallbackHandshakes : Option ℕ
  deriving DecidableEq

/-- Replace the values of the file. -/
def IngressConfig.withOverrides (config : IngressConfig) (overrides : IngressOverrides) :
    IngressConfig :=
  { config with
    publicListen := overrides.publicListen.getD config.publicListen
    dataListen := overrides.dataListen.getD config.dataListen
    advertisedDataAddr :=
      (overrides.advertisedDataAddr.map nonEmpty).getD config.advertisedDataAddr
    natsUrl := overrides.natsUrl.getD config.natsUrl
    natsTokenFile := (overrides.natsTokenFile.map nonEmpty).getD config.natsTokenFile
    relayMode := overrides.relayMode.getD config.relayMode
    requestSubject := overrides.requestSubject.getD config.requestSubject
    domainSubjectRouting := overrides.domainSubjectRouting.getD config.domainSubjectRouting
    claimTimeoutMs := overrides.claimTimeoutMs.getD config.claimTimeoutMs
    pendingTimeoutMs := overrides.pendingTimeoutMs.getD config.pendingTimeoutMs
    ingressHandshakeTimeoutMs :=
      overrides.ingressHandshakeTimeoutMs.getD config.ingressHandshakeTimeoutMs
    callbackHandshakeTimeoutMs :=
      overrides.callbackHandshakeTimeoutMs.getD config.callbackHandshakeTimeoutMs
    maxIngressConnections := overrides.maxIngressConnections.getD config.maxIngressConnections
    maxCallbackHandshakes := overrides.maxCallbackHandshakes.getD config.maxCallbackHandshakes }

def publicListenArg : Arg String := ⟨"public-listen", "LFP_PIPE_PUBLIC_LISTEN", parseText⟩

def dataListenArg : Arg String := ⟨"data-listen", "LFP_PIPE_DATA_LISTEN", parseText⟩

def advertisedDataAddrArg : Arg String :=
  ⟨"advertised-data-addr", "LFP_PIPE_ADVERTISED_DATA_ADDR", parseText⟩

def domainSubjectRoutingArg : Arg Bool :=
  ⟨"domain-subject-routing", "LFP_PIPE_DOMAIN_SUBJECT_ROUTING", parseBool⟩

def claimTimeoutMsArg : Arg ℕ := ⟨"claim-timeout-ms", "LFP_PIPE_CLAIM_TIMEOUT_MS", parseU64⟩

def pendingTimeoutMsArg : Arg ℕ :=
  ⟨"pending-timeout-ms", "LFP_PIPE_PENDING_TIMEOUT_MS", parseU64⟩

def ingressHandshakeTimeoutMsArg : Arg ℕ :=
  ⟨"ingress-handshake-timeout-ms", "LFP_PIPE_INGRESS_HANDSHAKE_TIMEOUT_MS", parseU64⟩

def callbackHandshakeTimeoutMsArg : Arg ℕ :=
  ⟨"callback-handshake-timeout-ms", "LFP_PIPE_CALLBACK_HANDSHAKE_TIMEOUT_MS", parseU64⟩

def maxIngressConnectionsArg : Arg ℕ :=
  ⟨"max-ingress-connections", "LFP_PIPE_MAX_INGRESS_CONNECTIONS", parseU64⟩

def maxCallbackHandshakesArg : Arg ℕ :=
  ⟨"max-callback-handshakes", "LFP_PIPE_MAX_CALLBACK_HANDSHAKES", parseU64⟩

/-- The options of the ingress, which become overrides under their own names. -/
structure IngressCli extends IngressOverrides where
  /-- Options that both programs have. -/
  common : CommonOptions

/-- Read the options. -/
def IngressCli.parse (launch : Launch) (environment : String → Option String) :
    Except AnyError IngressCli := do
  let common ← CommonOptions.parse launch environment
  let publicListen ← publicListenArg.get launch environment
  let dataListen ← dataListenArg.get launch environment
  let advertisedDataAddr ← advertisedDataAddrArg.get launch environment
  let natsUrl ← natsUrlArg.get launch environment
  let natsTokenFile ← natsTokenFileArg.get launch environment
  let relayMode ← relayModeArg.get launch environment
  let requestSubject ← requestSubjectArg.get launch environment
  let domainSubjectRouting ← domainSubjectRoutingArg.get launch environment
  let claimTimeoutMs ← claimTimeoutMsArg.get launch environment
  let pendingTimeoutMs ← pendingTimeoutMsArg.get launch environment
  let ingressHandshakeTimeoutMs ← ingressHandshakeTimeoutMsArg.get launch environment
  let callbackHandshakeTimeoutMs ← callbackHandshakeTimeoutMsArg.get launch environment
  let maxIngressConnections ← maxIngressConnectionsArg.get launch environment
  let maxCallbackHandshakes ← maxCallbackHandshakesArg.get launch environment
  .ok ⟨⟨publicListen, dataListen, advertisedDataAddr, natsUrl, natsTokenFile, relayMode,
    requestSubject, domainSubjectRouting, claimTimeoutMs, pendingTimeoutMs,
    ingressHandshakeTimeoutMs, callbackHandshakeTimeoutMs, maxIngressConnections,
    maxCallbackHandshakes⟩, common⟩

/-- What an ingress runs with. -/
structure RuntimeConfig where
  /-- Its settings. -/
  config : IngressConfig
  /-- Which messages it logs. -/
  logFilter : String
  deriving DecidableEq

section

variable (toml : String → Except AnyError (List (String × Toml)))

/-- Read and check the file of an ingress. -/
def loadIngressConfig (readToString : String → Except AnyError String) (path : String) :
    Except AnyError IngressConfig := do
  let raw ← withContext ("failed to read ingress config " ++ path) (readToString path)
  let entries ← withContext ("failed to parse ingress config " ++ path) (toml raw)
  let config ← withContext ("failed to parse ingress config " ++ path)
    (orMissing "missing field or invalid type" (IngressConfig.fromToml (.table entries)))
  withContext ("invalid ingress config " ++ path)
    (validateIngressConfig config.toIngressConfig)
  .ok config

/-- Put the options over the file. -/
def IngressCli.load (launch : Launch) (cli : IngressCli) : Except AnyError RuntimeConfig := do
  let configPath ← orMissing "ingress requires --config or LFP_PIPE_CONFIG" cli.common.config
  let config ← loadIngressConfig toml launch.readToString configPath
  .ok ⟨config.withOverrides cli.toIngressOverrides, cli.common.logFilter⟩

/-- What an ingress runs with when it is started. -/
def parseIngressRuntime (launch : Launch) : Except AnyError RuntimeConfig := do
  let environment ← hydrateFileBackedEnvironment launch
  let cli ← IngressCli.parse launch environment
  cli.load toml launch

end

/-- One setting: where it is written, how it is read and what it is when it is
written nowhere. -/
structure Setting where
  /-- Key in the file. -/
  key : String
  /-- Its option. -/
  arg : Arg Value
  /-- Read it from the file. -/
  read : Toml → Option Value
  /-- Its default; without one it has to be in the file. -/
  fallback : Option Value
  /-- Its value. -/
  value : IngressConfig → Value

/-- The settings that have an option. -/
def settings : List Setting :=
  [⟨"public_listen", publicListenArg.map .text, fun v => v.asText.map .text, none,
      fun c => .text c.publicListen⟩,
    ⟨"data_listen", dataListenArg.map .text, fun v => v.asText.map .text, none,
      fun c => .text c.dataListen⟩,
    ⟨"advertised_data_addr", advertisedDataAddrArg.map (.maybe ∘ nonEmpty),
      fun v => v.asText.map (.maybe ∘ some), some (.maybe none),
      fun c => .maybe c.advertisedDataAddr⟩,
    ⟨"nats_url", natsUrlArg.map .text, fun v => v.asText.map .text, none,
      fun c => .text c.natsUrl⟩,
    ⟨"nats_token_file", natsTokenFileArg.map (.maybe ∘ nonEmpty),
      fun v => v.asText.map (.maybe ∘ some), some (.maybe none), fun c => .maybe c.natsTokenFile⟩,
    ⟨"relay_mode", relayModeArg.map .mode, fun v => (relayModeFromToml v).map .mode,
      some (.mode .auto), fun c => .mode c.relayMode⟩,
    ⟨"request_subject", requestSubjectArg.map .text, fun v => v.asText.map .text,
      some (.text defaultRequestSubject), fun c => .text c.requestSubject⟩,
    ⟨"domain_subject_routing", domainSubjectRoutingArg.map .flag, fun v => v.asFlag.map .flag,
      some (.flag false), fun c => .flag c.domainSubjectRouting⟩,
    ⟨"claim_timeout_ms", claimTimeoutMsArg.map .count, fun v => v.asCount.map .count,
      some (.count defaultClaimTimeoutMs), fun c => .count c.claimTimeoutMs⟩,
    ⟨"pending_timeout_ms", pendingTimeoutMsArg.map .count, fun v => v.asCount.map .count,
      some (.count defaultPendingTimeoutMs), fun c => .count c.pendingTimeoutMs⟩,
    ⟨"ingress_handshake_timeout_ms", ingressHandshakeTimeoutMsArg.map .count,
      fun v => v.asCount.map .count, some (.count defaultIngressHandshakeTimeoutMs),
      fun c => .count c.ingressHandshakeTimeoutMs⟩,
    ⟨"callback_handshake_timeout_ms", callbackHandshakeTimeoutMsArg.map .count,
      fun v => v.asCount.map .count, some (.count defaultCallbackHandshakeTimeoutMs),
      fun c => .count c.callbackHandshakeTimeoutMs⟩,
    ⟨"max_ingress_connections", maxIngressConnectionsArg.map .count,
      fun v => v.asCount.map .count, some (.count defaultMaxIngressConnections),
      fun c => .count c.maxIngressConnections⟩,
    ⟨"max_callback_handshakes", maxCallbackHandshakesArg.map .count,
      fun v => v.asCount.map .count, some (.count defaultMaxCallbackHandshakes),
      fun c => .count c.maxCallbackHandshakes⟩]

/-- Where a setting may come from. -/
inductive Source where
  /-- A layer before the file is read. -/
  | started (layer : Layer)
  /-- The file. -/
  | document
  deriving DecidableEq, Repr

/-- The documented order. -/
def Source.all : List Source :=
  [.started .option, .started .environment, .started .environmentFile, .document]

/-- What a source defines: nothing, something that is no value, or a value. -/
def Setting.define (setting : Setting) (launch : Launch) (entries : List (String × Toml)) :
    Source → Option (Option Value)
  | .started layer => launch.define setting.arg layer
  | .document => (entries.lookup setting.key).map setting.read

/-- The setting has the value of its first source, else its default. -/
def Setting.Layered (setting : Setting) (launch : Launch) (entries : List (String × Toml))
    (config : IngressConfig) : Prop :=
  DefinedOr (setting.define launch entries) Source.all setting.fallback
    (some (setting.value config))

/-- The documented order of precedence, with what has to be readable. -/
structure Layered (toml : String → Except AnyError (List (String × Toml))) (launch : Launch)
    (runtime : RuntimeConfig) : Prop where
  /-- The listed variables. -/
  loads : launch.Loads
  /-- The log directives. -/
  logFilter : ∃ found, launch.Resolves logFilterArg found ∧
    runtime.logFilter = found.getD defaultLogFilter
  /-- The file is readable, has its required entries and no ambiguous direct
  route, and every setting is the one of its first source. -/
  document : ∃ path raw entries config, launch.Resolves configArg (some path) ∧
    launch.readToString path = .ok raw ∧ toml raw = .ok entries ∧
    IngressConfig.fromToml (.table entries) = some config ∧
    validateIngressConfig config.toIngressConfig = .ok () ∧
    runtime.config.sniPassthroughRoutes = config.sniPassthroughRoutes ∧
    ∀ setting ∈ settings, setting.Layered launch entries runtime.config

/-- The first source of a setting is an option or the file. -/
theorem layered_iff {setting : Setting} {launch : Launch} {entries : List (String × Toml)}
    {config : IngressConfig} :
    setting.Layered launch entries config ↔
      some (setting.value config) =
        ((Layer.all.findSome? (launch.define setting.arg)).or
          ((entries.lookup setting.key).map setting.read)).getD setting.fallback := by
  rw [Setting.Layered, definedOr_iff, Source.all, Layer.all]
  simp only [findSome?_cons_or, List.findSome?_nil, Option.or_none, Option.or_assoc,
    Setting.define]

/-- A required entry of the file. -/
theorem getD_required {α : Type} {read : Toml → Option α} {entry : Option Toml} {found : α}
    (write : α → Value) (h : required read entry = some found) :
    (entry.map fun value => (read value).map write).getD none = some (write found) := by
  cases entry with
  | none => cases h
  | some value => exact congrArg (Option.map write) h

/-- An entry of the file that may be missing. -/
theorem getD_optional {α : Type} {read : Toml → Option α} {entry : Option Toml}
    {found : Option α} (write : Option α → Value) (h : optional read entry = some found) :
    (entry.map fun value => (read value).map (write ∘ some)).getD (some (write none)) =
      some (write found) := by
  cases entry with
  | none =>
    cases h
    rfl
  | some value =>
    obtain ⟨found, hfound, rfl⟩ := Option.map_eq_some_iff.mp h
    rw [Option.map_some, Option.getD_some, hfound]
    rfl

/-- An entry of the file with a default. -/
theorem getD_defaulted {α : Type} {read : Toml → Option α} {entry : Option Toml}
    {fallback found : α} (write : α → Value) (h : defaulted fallback read entry = some found) :
    (entry.map fun value => (read value).map write).getD (some (write fallback)) =
      some (write found) := by
  cases entry with
  | none =>
    cases h
    rfl
  | some value => exact congrArg (Option.map write) h

/-- The file gives every setting its entry, else its default. -/
theorem fromToml_settings {entries : List (String × Toml)} {config : IngressConfig}
    (h : IngressConfig.fromToml (.table entries) = some config) :
    ∀ setting ∈ settings, some (setting.value config) =
      ((entries.lookup setting.key).map setting.read).getD setting.fallback := by
  obtain ⟨publicListen, h1, h⟩ := Option.bind_eq_some_iff.mp h
  obtain ⟨dataListen, h2, h⟩ := Option.bind_eq_some_iff.mp h
  obtain ⟨advertisedDataAddr, h3, h⟩ := Option.bind_eq_some_iff.mp h
  obtain ⟨natsUrl, h4, h⟩ := Option.bind_eq_some_iff.mp h
  obtain ⟨natsTokenFile, h5, h⟩ := Option.bind_eq_some_iff.mp h
  obtain ⟨relayMode, h6, h⟩ := Option.bind_eq_some_iff.mp h
  obtain ⟨requestSubject, h7, h⟩ := Option.bind_eq_some_iff.mp h
  obtain ⟨domainSubjectRouting, h8, h⟩ := Option.bind_eq_some_iff.mp h
  obtain ⟨claimTimeoutMs, h9, h⟩ := Option.bind_eq_some_iff.mp h
  obtain ⟨pendingTimeoutMs, h10, h⟩ := Option.bind_eq_some_iff.mp h
  obtain ⟨ingressHandshakeTimeoutMs, h11, h⟩ := Option.bind_eq_some_iff.mp h
  obtain ⟨callbackHandshakeTimeoutMs, h12, h⟩ := Option.bind_eq_some_iff.mp h
  obtain ⟨maxIngressConnections, h13, h⟩ := Option.bind_eq_some_iff.mp h
  obtain ⟨maxCallbackHandshakes, h14, h⟩ := Option.bind_eq_some_iff.mp h
  obtain ⟨sniPassthroughRoutes, -, h⟩ := Option.bind_eq_some_iff.mp h
  cases h
  simp only [settings, List.forall_mem_cons]
  exact ⟨(getD_required .text h1).symm, (getD_required .text h2).symm,
    (getD_optional .maybe h3).symm, (getD_required .text h4).symm,
    (getD_optional .maybe h5).symm, (getD_defaulted .mode h6).symm,
    (getD_defaulted .text h7).symm, (getD_defaulted .flag h8).symm,
    (getD_defaulted .count h9).symm, (getD_defaulted .count h10).symm,
    (getD_defaulted .count h11).symm, (getD_defaulted .count h12).symm,
    (getD_defaulted .count h13).symm, (getD_defaulted .count h14).symm,
    List.forall_mem_nil _⟩

/-- An option over the file. -/
theorem layered_of_resolves {setting : Setting} {launch : Launch}
    {entries : List (String × Toml)} {config final : IngressConfig} {value : Option Value}
    (hr : launch.Resolves setting.arg value)
    (hfile : some (setting.value config) =
      ((entries.lookup setting.key).map setting.read).getD setting.fallback)
    (hfinal : setting.value final = value.getD (setting.value config)) :
    setting.Layered launch entries final := by
  rw [layered_iff, ←firstDefined_iff.mp hr, hfinal]
  cases value with
  | none => exact hfile
  | some value => rfl

/-- Every option of a setting that has a value can be read. -/
theorem exists_resolves {setting : Setting} {launch : Launch} {entries : List (String × Toml)}
    {config : IngressConfig} (h : setting.Layered launch entries config) :
    ∃ found, launch.Resolves setting.arg found := by
  rw [layered_iff] at h
  cases hfirst : Layer.all.findSome? (launch.define setting.arg) with
  | none => exact ⟨none, firstDefined_iff.mpr hfirst.symm⟩
  | some defined =>
    cases defined with
    | none =>
      rw [hfirst] at h
      cases h
    | some value => exact ⟨some value, firstDefined_iff.mpr hfirst.symm⟩

/-- The sources determine a setting. -/
theorem layered_unique {setting : Setting} {launch : Launch} {entries : List (String × Toml)}
    {config other : IngressConfig} (h : setting.Layered launch entries config)
    (hother : setting.Layered launch entries other) : setting.value config = setting.value other :=
  Option.some.inj ((layered_iff.mp h).trans (layered_iff.mp hother).symm)

/-- The options that are read. -/
structure Chosen (launch : Launch) (cli : IngressCli) : Prop where
  /-- The file. -/
  config : launch.Resolves configArg cli.common.config
  /-- The log directives. -/
  logFilter : ∃ found, launch.Resolves logFilterArg found ∧
    cli.common.logFilter = found.getD defaultLogFilter
  /-- The addresses. -/
  addresses : launch.Resolves publicListenArg cli.publicListen ∧
    launch.Resolves dataListenArg cli.dataListen ∧
    launch.Resolves advertisedDataAddrArg cli.advertisedDataAddr
  /-- The connection to the server. -/
  server : launch.Resolves natsUrlArg cli.natsUrl ∧
    launch.Resolves natsTokenFileArg cli.natsTokenFile
  /-- Copying and subjects. -/
  modes : launch.Resolves relayModeArg cli.relayMode ∧
    launch.Resolves requestSubjectArg cli.requestSubject ∧
    launch.Resolves domainSubjectRoutingArg cli.domainSubjectRouting
  /-- The timeouts. -/
  timeouts : launch.Resolves claimTimeoutMsArg cli.claimTimeoutMs ∧
    launch.Resolves pendingTimeoutMsArg cli.pendingTimeoutMs ∧
    launch.Resolves ingressHandshakeTimeoutMsArg cli.ingressHandshakeTimeoutMs ∧
    launch.Resolves callbackHandshakeTimeoutMsArg cli.callbackHandshakeTimeoutMs
  /-- The limits. -/
  limits : launch.Resolves maxIngressConnectionsArg cli.maxIngressConnections ∧
    launch.Resolves maxCallbackHandshakesArg cli.maxCallbackHandshakes

/-- Options are read exactly as their layers have them. -/
theorem parse_eq_ok {launch : Launch} {cli : IngressCli} :
    IngressCli.parse launch launch.hydrated = .ok cli ↔ Chosen launch cli := by
  simp only [IngressCli.parse, CommonOptions.parse, bind_eq_ok, get_eq_ok, Except.ok.injEq]
  constructor
  · rintro ⟨_, ⟨_, hconfig, _, hlog, rfl⟩, _, h1, _, h2, _, h3, _, h4, _, h5, _, h6, _, h7, _, h8,
      _, h9, _, h10, _, h11, _, h12, _, h13, _, h14, rfl⟩
    exact ⟨hconfig, ⟨_, hlog, rfl⟩, ⟨h1, h2, h3⟩, ⟨h4, h5⟩, ⟨h6, h7, h8⟩, ⟨h9, h10, h11, h12⟩,
      h13, h14⟩
  · rintro ⟨hconfig, ⟨found, hlog, hfilter⟩, ⟨h1, h2, h3⟩, ⟨h4, h5⟩, ⟨h6, h7, h8⟩,
      ⟨h9, h10, h11, h12⟩, h13, h14⟩
    exact ⟨_, ⟨_, hconfig, _, hlog, rfl⟩, _, h1, _, h2, _, h3, _, h4, _, h5, _, h6, _, h7, _, h8,
      _, h9, _, h10, _, h11, _, h12, _, h13, _, h14, by rw [←hfilter]⟩

/-- Options over a file that was read. -/
theorem layered_withOverrides {launch : Launch} {cli : IngressCli} {config : IngressConfig}
    {entries : List (String × Toml)} (hcli : Chosen launch cli)
    (hconfig : IngressConfig.fromToml (.table entries) = some config) :
    ∀ setting ∈ settings,
      setting.Layered launch entries (config.withOverrides cli.toIngressOverrides) := by
  obtain ⟨-, -, ⟨h1, h2, h3⟩, ⟨h4, h5⟩, ⟨h6, h7, h8⟩, ⟨h9, h10, h11, h12⟩, h13, h14⟩ := hcli
  have hfile := fromToml_settings hconfig
  simp only [settings, List.forall_mem_cons] at hfile ⊢
  obtain ⟨f1, f2, f3, f4, f5, f6, f7, f8, f9, f10, f11, f12, f13, f14, -⟩ := hfile
  exact ⟨layered_of_resolves (h1.map Value.text) f1 (getD_map_write _ _ _),
    layered_of_resolves (h2.map Value.text) f2 (getD_map_write _ _ _),
    layered_of_resolves (h3.map _) f3 (getD_map_maybe _ _),
    layered_of_resolves (h4.map Value.text) f4 (getD_map_write _ _ _),
    layered_of_resolves (h5.map _) f5 (getD_map_maybe _ _),
    layered_of_resolves (h6.map Value.mode) f6 (getD_map_write _ _ _),
    layered_of_resolves (h7.map Value.text) f7 (getD_map_write _ _ _),
    layered_of_resolves (h8.map Value.flag) f8 (getD_map_write _ _ _),
    layered_of_resolves (h9.map Value.count) f9 (getD_map_write _ _ _),
    layered_of_resolves (h10.map Value.count) f10 (getD_map_write _ _ _),
    layered_of_resolves (h11.map Value.count) f11 (getD_map_write _ _ _),
    layered_of_resolves (h12.map Value.count) f12 (getD_map_write _ _ _),
    layered_of_resolves (h13.map Value.count) f13 (getD_map_write _ _ _),
    layered_of_resolves (h14.map Value.count) f14 (getD_map_write _ _ _), List.forall_mem_nil _⟩

/-- Options that can be read one by one can be read together. -/
theorem exists_chosen {launch : Launch} {entries : List (String × Toml)} {config : IngressConfig}
    {path filter : Option String} (hpath : launch.Resolves configArg path)
    (hfilter : launch.Resolves logFilterArg filter)
    (h : ∀ setting ∈ settings, setting.Layered launch entries config) :
    ∃ cli, Chosen launch cli ∧ cli.common.config = path := by
  simp only [settings, List.forall_mem_cons] at h
  obtain ⟨f1, f2, f3, f4, f5, f6, f7, f8, f9, f10, f11, f12, f13, f14, -⟩ := h
  have hread : ∀ {α : Type} {arg : Arg α} {write : α → Value} {setting : Setting},
      setting.Layered launch entries config → setting.arg = arg.map write →
        ∃ found, launch.Resolves arg found := by
    intro α arg write setting h harg
    obtain ⟨found, hfound⟩ := exists_resolves h
    rw [harg] at hfound
    exact exists_resolves_of_map hfound
  obtain ⟨_, h1⟩ := hread f1 rfl
  obtain ⟨_, h2⟩ := hread f2 rfl
  obtain ⟨_, h3⟩ := hread f3 rfl
  obtain ⟨_, h4⟩ := hread f4 rfl
  obtain ⟨_, h5⟩ := hread f5 rfl
  obtain ⟨_, h6⟩ := hread f6 rfl
  obtain ⟨_, h7⟩ := hread f7 rfl
  obtain ⟨_, h8⟩ := hread f8 rfl
  obtain ⟨_, h9⟩ := hread f9 rfl
  obtain ⟨_, h10⟩ := hread f10 rfl
  obtain ⟨_, h11⟩ := hread f11 rfl
  obtain ⟨_, h12⟩ := hread f12 rfl
  obtain ⟨_, h13⟩ := hread f13 rfl
  obtain ⟨_, h14⟩ := hread f14 rfl
  exact ⟨⟨⟨_, _, _, _, _, _, _, _, _, _, _, _, _, _⟩, ⟨path, filter.getD defaultLogFilter⟩⟩,
    ⟨hpath, ⟨filter, hfilter, rfl⟩, ⟨h1, h2, h3⟩, ⟨h4, h5⟩, ⟨h6, h7, h8⟩, ⟨h9, h10, h11, h12⟩,
      h13, h14⟩, rfl⟩

/-- The settings and the direct routes are all that an ingress has. -/
theorem config_ext {config other : IngressConfig}
    (hroutes : config.sniPassthroughRoutes = other.sniPassthroughRoutes)
    (h : ∀ setting ∈ settings, setting.value config = setting.value other) : config = other := by
  simp only [settings, List.forall_mem_cons, Value.text.injEq, Value.maybe.injEq,
    Value.mode.injEq, Value.flag.injEq, Value.count.injEq] at h
  obtain ⟨h1, h2, h3, h4, h5, h6, h7, h8, h9, h10, h11, h12, h13, h14, -⟩ := h
  obtain ⟨⟨⟩⟩ := config
  obtain ⟨⟨⟩⟩ := other
  simp only at hroutes h1 h2 h3 h4 h5 h6 h7 h8 h9 h10 h11 h12 h13 h14
  subst hroutes h1 h2 h3 h4 h5 h6 h7 h8 h9 h10 h11 h12 h13 h14
  rfl

/-- The documented order determines what an ingress runs with. -/
theorem Layered.unique {toml : String → Except AnyError (List (String × Toml))} {launch : Launch}
    {runtime other : RuntimeConfig} (h : Layered toml launch runtime)
    (hother : Layered toml launch other) : runtime = other := by
  obtain ⟨path, raw, entries, config, hpath, hraw, hentries, hconfig, -, hroutes, hset⟩ :=
    h.document
  obtain ⟨path', raw', entries', config', hpath', hraw', hentries', hconfig', -, hroutes', hset'⟩ :=
    hother.document
  cases hpath.unique hpath'
  cases hraw.symm.trans hraw'
  cases hentries.symm.trans hentries'
  cases hconfig.symm.trans hconfig'
  obtain ⟨found, hfound, hfilter⟩ := h.logFilter
  obtain ⟨found', hfound', hfilter'⟩ := hother.logFilter
  cases hfound.unique hfound'
  have hsame : runtime.config = other.config :=
    config_ext (hroutes.trans hroutes'.symm) fun setting hm =>
      layered_unique (hset setting hm) (hset' setting hm)
  obtain ⟨config, filter⟩ := runtime
  obtain ⟨config', filter'⟩ := other
  cases hsame
  cases hfilter.trans hfilter'.symm
  rfl

/-- The settings of an ingress follow the documented order. -/
theorem layered_of_parse {toml : String → Except AnyError (List (String × Toml))}
    {launch : Launch} {runtime : RuntimeConfig}
    (h : parseIngressRuntime toml launch = .ok runtime) : Layered toml launch runtime := by
  simp only [parseIngressRuntime, IngressCli.load, loadIngressConfig, bind_eq_ok, hydrate_eq_ok,
    orMissing_eq_ok, withContext_eq_ok, Except.ok.injEq] at h
  obtain ⟨_, ⟨hloads, rfl⟩, cli, hcli, path, hpath, config, ⟨raw, hraw, entries, hentries, _,
    hconfig, _, hvalid, rfl⟩, rfl⟩ := h
  have hchosen := parse_eq_ok.mp hcli
  refine ⟨hloads, hchosen.logFilter, path, raw, entries, _, ?_, hraw, hentries, hconfig, hvalid,
    rfl, layered_withOverrides hchosen hconfig⟩
  rw [←hpath]
  exact hchosen.config

/-- An ingress is given settings exactly when its file and the first definitions
of its options can be read, and then every setting is taken from the command
line, the environment, the file that the environment names, the TOML file or
its default, in this order. -/
theorem ingress_settings_layered (toml : String → Except AnyError (List (String × Toml)))
    (launch : Launch) (runtime : RuntimeConfig) :
    parseIngressRuntime toml launch = .ok runtime ↔ Layered toml launch runtime := by
  constructor
  · exact layered_of_parse
  · intro h
    obtain ⟨path, raw, entries, config, hpath, hraw, hentries, hconfig, hvalid, -, hset⟩ :=
      h.document
    obtain ⟨found, hfound, -⟩ := h.logFilter
    obtain ⟨cli, hchosen, hcli⟩ := exists_chosen hpath hfound hset
    have hstarts : parseIngressRuntime toml launch =
        .ok ⟨config.withOverrides cli.toIngressOverrides, cli.common.logFilter⟩ := by
      simp only [parseIngressRuntime, IngressCli.load, loadIngressConfig, bind_eq_ok,
        hydrate_eq_ok, orMissing_eq_ok, withContext_eq_ok, Except.ok.injEq]
      exact ⟨_, ⟨h.loads, rfl⟩, cli, parse_eq_ok.mpr hchosen, path, hcli, config,
        ⟨raw, hraw, entries, hentries, config, hconfig, (), hvalid, rfl⟩, rfl⟩
    rw [hstarts, h.unique (layered_of_parse hstarts)]

end LfpPipe.IngressLaunch
