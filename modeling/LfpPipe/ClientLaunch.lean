import LfpPipe.CentralConfig
import LfpPipe.ConfigDecoding
import LfpPipe.LaunchSettings

/-!
# How a client is started

`ClientCli` of `shared/src/cli.rs` with the loading of local files and of the
central bootstrap in `shared/src/config.rs`. A client runs the routes of its
file or those that the control plane assigns, never both. Options are put over
every route of the file, except for the identifier, which only a single route
can take. The run that follows may still refuse the settings. The TOML reader is a
parameter.
-/

namespace LfpPipe.ClientLaunch

open Fallible SharedConfig ConfigExpansion TomlValues ConfigDecoding LayeredSettings LaunchSettings
open CentralConfig

/-- Values of options that replace those of every route. -/
structure ClientOverrides where
  /-- Identifier in claims and callback prefixes. -/
  clientId : Option String
  /-- Control-message server. -/
  natsUrl : Option String
  /-- File with a bearer token; an empty one removes it. -/
  natsTokenFile : Option String
  /-- Stream-copy implementation. -/
  relayMode : Option RelayMode
  /-- Subject of connection requests. -/
  requestSubject : Option String
  /-- Wait for a claim decision. -/
  claimAckTimeoutMs : Option ℕ
  deriving DecidableEq

/-- Replace the values of one route. -/
def withOverrides (config : ClientConfig) (overrides : ClientOverrides) : ClientConfig :=
  { config with
    clientId := overrides.clientId.getD config.clientId
    natsUrl := overrides.natsUrl.getD config.natsUrl
    natsTokenFile := (overrides.natsTokenFile.map nonEmpty).getD config.natsTokenFile
    relayMode := overrides.relayMode.getD config.relayMode
    requestSubject := overrides.requestSubject.getD config.requestSubject
    claimAckTimeoutMs := overrides.claimAckTimeoutMs.getD config.claimAckTimeoutMs }

def clientIdArg : Arg String := ⟨"client-id", "LFP_PIPE_CLIENT_ID", parseText⟩

def claimAckTimeoutMsArg : Arg ℕ :=
  ⟨"claim-ack-timeout-ms", "LFP_PIPE_CLAIM_ACK_TIMEOUT_MS", parseU64⟩

def trayArg : Arg DesktopMode := ⟨"tray", "LFP_PIPE_TRAY", parseDesktopMode⟩

def oauthUsernameArg : Arg String := ⟨"oauth-username", "LFP_PIPE_OAUTH_USERNAME", parseText⟩

def oauthClientSecretFileArg : Arg String :=
  ⟨"oauth-client-secret-file", "LFP_PIPE_OAUTH_CLIENT_SECRET_FILE", parseText⟩

/-- The options of the client. -/
structure ClientCli where
  /-- Options that both programs have. -/
  common : CommonOptions
  /-- Options that replace values of routes. -/
  overrides : ClientOverrides
  /-- When there is a tray. -/
  tray : DesktopMode
  /-- Service-account username. -/
  oauthUsername : Option String
  /-- File with the service-account password. -/
  oauthClientSecretFile : Option String

/-- Read the options. -/
def ClientCli.parse (launch : Launch) (environment : String → Option String) :
    Except AnyError ClientCli := do
  let common ← CommonOptions.parse launch environment
  let clientId ← clientIdArg.get launch environment
  let natsUrl ← natsUrlArg.get launch environment
  let natsTokenFile ← natsTokenFileArg.get launch environment
  let relayMode ← relayModeArg.get launch environment
  let requestSubject ← requestSubjectArg.get launch environment
  let claimAckTimeoutMs ← claimAckTimeoutMsArg.get launch environment
  let tray ← trayArg.get launch environment
  let oauthUsername ← oauthUsernameArg.get launch environment
  let oauthClientSecretFile ← oauthClientSecretFileArg.get launch environment
  .ok ⟨common, ⟨clientId, natsUrl, natsTokenFile, relayMode, requestSubject, claimAckTimeoutMs⟩,
    tray.getD .auto, oauthUsername, oauthClientSecretFile⟩

/-- What a client runs with. -/
structure ClientRuntimeConfig where
  /-- Its local routes. -/
  config : List ClientConfig
  /-- Which messages it logs. -/
  logFilter : String
  /-- The file that it offers to open. -/
  configPath : String
  /-- When it has a tray. -/
  desktopMode : DesktopMode
  /-- Where it gets its routes, if they are managed centrally. -/
  central : Option CentralClientBootstrap
  deriving DecidableEq

/-- A document selects central management. -/
def selectsCentral (entries : List (String × Toml)) : Bool :=
  ((entries.lookup "control_plane_config").bind Toml.asFlag).getD false

/-- The bootstrap of central management. -/
def CentralClientBootstrap.fromToml (value : Toml) : Option CentralClientBootstrap := do
  let field ← value.fields ["control_plane_url", "control_plane_config", "username",
    "client_secret_file"]
  let controlPlaneUrl ← required Toml.asText (field "control_plane_url")
  let _ ← defaulted false Toml.asFlag (field "control_plane_config")
  let username ← optional Toml.asText (field "username")
  let clientSecretFile ← optional Toml.asText (field "client_secret_file")
  some ⟨controlPlaneUrl, username, clientSecretFile⟩

/-- Put the options over the bootstrap. -/
def withCredentials (username secretFile : Option String) (bootstrap : CentralClientBootstrap) :
    CentralClientBootstrap :=
  { bootstrap with
    username := username.or bootstrap.username
    clientSecretFile := secretFile.or bootstrap.clientSecretFile }

section

variable (toml : String → Except AnyError (List (String × Toml)))
  (readToString : String → Except AnyError String)

/-- Read the bootstrap of central management, if the file selects it. -/
def loadCentralClientBootstrap (path : String) :
    Except AnyError (Option CentralClientBootstrap) := do
  let raw ← withContext ("failed to read client config " ++ path) (readToString path)
  let entries ← withContext ("failed to parse client config " ++ path) (toml raw)
  if selectsCentral entries then
    let bootstrap ← withContext ("failed to parse central bootstrap " ++ path)
      (orMissing "missing field or invalid type" (CentralClientBootstrap.fromToml (.table entries)))
    .ok (some bootstrap)
  else .ok none

/-- Read, expand and check the routes of a file. -/
def loadClientConfigs (path : String) : Except AnyError (List ClientConfig) := do
  let raw ← withContext ("failed to read client config " ++ path) (readToString path)
  withContext ("failed to parse client config " ++ path) (do
    let entries ← toml raw
    parseClientToml (.table entries))

end

section

variable (toml : String → Except AnyError (List (String × Toml)))

/-- Put the options over the file. -/
def ClientCli.load (launch : Launch) (cli : ClientCli) : Except AnyError ClientRuntimeConfig := do
  let configPath := cli.common.config.getD "client.toml"
  let central ← (if launch.pathExists configPath then
      loadCentralClientBootstrap toml launch.readToString configPath
    else .ok none)
  let loaded ← (if central.isSome then .ok []
    else if launch.pathExists configPath then
      loadClientConfigs toml launch.readToString configPath
    else .ok [])
  ensure (loaded.length == 1 || cli.overrides.clientId.isNone)
    "--client-id/LFP_PIPE_CLIENT_ID cannot override a multi-route config"
  .ok ⟨loaded.map fun config => withOverrides config cli.overrides, cli.common.logFilter,
    configPath, cli.tray,
    central.map (withCredentials cli.oauthUsername cli.oauthClientSecretFile)⟩

/-- What a client runs with when it is started. -/
def parseClientRuntime (launch : Launch) : Except AnyError ClientRuntimeConfig := do
  let environment ← hydrateFileBackedEnvironment launch
  let cli ← ClientCli.parse launch environment
  cli.load toml launch

end

/-- One setting of a route that has an option. -/
structure Setting where
  /-- Its option. -/
  arg : Arg Value
  /-- Its value. -/
  value : ClientConfig → Value

/-- The settings of a route that have an option. -/
def settings : List Setting :=
  [⟨clientIdArg.map .text, fun c => .text c.clientId⟩,
    ⟨natsUrlArg.map .text, fun c => .text c.natsUrl⟩,
    ⟨natsTokenFileArg.map (.maybe ∘ nonEmpty), fun c => .maybe c.natsTokenFile⟩,
    ⟨relayModeArg.map .mode, fun c => .mode c.relayMode⟩,
    ⟨requestSubjectArg.map .text, fun c => .text c.requestSubject⟩,
    ⟨claimAckTimeoutMsArg.map .count, fun c => .count c.claimAckTimeoutMs⟩]

/-- Everything of a route that has no option. -/
def unchangeable (config : ClientConfig) :
    Option ClientOAuthConfig × Option ClientAcmeConfig × Option ClientAuthorizationConfig ×
      Bool × List BackendRule :=
  (config.oauth, config.acme, config.authorization, config.tcpPassthrough, config.backendRules)

/-- A route runs as its file has it, with its settings from the first layer
that has them. -/
structure Overridden (launch : Launch) (written running : ClientConfig) : Prop where
  /-- What has no option is that of the file. -/
  rest : unchangeable running = unchangeable written
  /-- What has an option is that of the first layer, else that of the file. -/
  layered : ∀ setting ∈ settings,
    DefinedOr (launch.define setting.arg) Layer.all (some (setting.value written))
      (some (setting.value running))

/-- What the file of a client says: nothing when there is none, where its
routes are managed, or its routes. -/
inductive Written (toml : String → Except AnyError (List (String × Toml))) (launch : Launch)
    (path : String) : Option CentralClientBootstrap → List ClientConfig → Prop where
  /-- There is no file. -/
  | missing (h : launch.pathExists path = false) : Written toml launch path none []
  /-- The file selects central management. -/
  | central {raw : String} {entries : List (String × Toml)} {bootstrap : CentralClientBootstrap}
    (h : launch.pathExists path = true) (hraw : launch.readToString path = .ok raw)
    (hentries : toml raw = .ok entries) (hselects : selectsCentral entries = true)
    (hbootstrap : CentralClientBootstrap.fromToml (.table entries) = some bootstrap) :
    Written toml launch path (some bootstrap) []
  /-- The file has routes, all of which are valid. -/
  | routes {raw : String} {entries : List (String × Toml)} {configs : List ClientConfig}
    (h : launch.pathExists path = true) (hraw : launch.readToString path = .ok raw)
    (hentries : toml raw = .ok entries) (hselects : selectsCentral entries = false)
    (hconfigs : parseClientToml (.table entries) = .ok configs) :
    Written toml launch path none configs

/-- The documented order of precedence, with what has to be readable. -/
structure Layered (toml : String → Except AnyError (List (String × Toml))) (launch : Launch)
    (runtime : ClientRuntimeConfig) : Prop where
  /-- The listed variables. -/
  loads : launch.Loads
  /-- The options of routes, also when there are no routes. -/
  readable : ∀ setting ∈ settings, ∃ found, launch.Resolves setting.arg found
  /-- The log directives. -/
  logFilter : ∃ found, launch.Resolves logFilterArg found ∧
    runtime.logFilter = found.getD defaultLogFilter
  /-- The tray. -/
  tray : ∃ found, launch.Resolves trayArg found ∧ runtime.desktopMode = found.getD .auto
  /-- The file. -/
  path : ∃ found, launch.Resolves configArg found ∧
    runtime.configPath = found.getD "client.toml"
  /-- What runs is what is written below the options. -/
  document : ∃ bootstrap written username secretFile,
    Written toml launch runtime.configPath bootstrap written ∧
    (written.length = 1 ∨ launch.Resolves clientIdArg none) ∧
    launch.Resolves oauthUsernameArg username ∧
    launch.Resolves oauthClientSecretFileArg secretFile ∧
    runtime.central = bootstrap.map (withCredentials username secretFile) ∧
    List.Forall₂ (Overridden launch) written runtime.config

/-- What every start guarantees about the routes. -/
structure Sound (runtime : ClientRuntimeConfig) : Prop where
  /-- Routes are local or central. -/
  exclusive : runtime.central.isSome = true → runtime.config = []
  /-- Local routes are valid. -/
  valid : ∀ config ∈ runtime.config, validateClientConfig config = .ok ()
  /-- Local routes have different identifiers. -/
  distinct : (runtime.config.map (·.clientId)).Nodup

/-- The options that are read. -/
structure Chosen (launch : Launch) (cli : ClientCli) : Prop where
  /-- The file. -/
  config : launch.Resolves configArg cli.common.config
  /-- The log directives. -/
  logFilter : ∃ found, launch.Resolves logFilterArg found ∧
    cli.common.logFilter = found.getD defaultLogFilter
  /-- The tray. -/
  tray : ∃ found, launch.Resolves trayArg found ∧ cli.tray = found.getD .auto
  /-- The credentials of central management. -/
  credentials : launch.Resolves oauthUsernameArg cli.oauthUsername ∧
    launch.Resolves oauthClientSecretFileArg cli.oauthClientSecretFile
  /-- The identifier. -/
  clientId : launch.Resolves clientIdArg cli.overrides.clientId
  /-- The other options of routes. -/
  others : launch.Resolves natsUrlArg cli.overrides.natsUrl ∧
    launch.Resolves natsTokenFileArg cli.overrides.natsTokenFile ∧
    launch.Resolves relayModeArg cli.overrides.relayMode ∧
    launch.Resolves requestSubjectArg cli.overrides.requestSubject ∧
    launch.Resolves claimAckTimeoutMsArg cli.overrides.claimAckTimeoutMs

/-- Options are read exactly as their layers have them. -/
theorem parse_eq_ok {launch : Launch} {cli : ClientCli} :
    ClientCli.parse launch launch.hydrated = .ok cli ↔ Chosen launch cli := by
  simp only [ClientCli.parse, CommonOptions.parse, bind_eq_ok, get_eq_ok, Except.ok.injEq]
  constructor
  · rintro ⟨_, ⟨_, hconfig, _, hlog, rfl⟩, _, h1, _, h2, _, h3, _, h4, _, h5, _, h6, _, h7, _, h8,
      _, h9, rfl⟩
    exact ⟨hconfig, ⟨_, hlog, rfl⟩, ⟨_, h7, rfl⟩, ⟨h8, h9⟩, h1, h2, h3, h4, h5, h6⟩
  · rintro ⟨hconfig, ⟨filter, hlog, hfilter⟩, ⟨tray, h7, htray⟩, ⟨h8, h9⟩, h1, h2, h3, h4, h5, h6⟩
    exact ⟨_, ⟨_, hconfig, _, hlog, rfl⟩, _, h1, _, h2, _, h3, _, h4, _, h5, _, h6, _, h7, _, h8,
      _, h9, by rw [←hfilter, ←htray]⟩

/-- The value of an option over that of the file. -/
theorem definedOr_of_resolves {launch : Launch} {arg : Arg Value} {value : Option Value}
    {written running : Value} (h : launch.Resolves arg value)
    (hrunning : running = value.getD written) :
    DefinedOr (launch.define arg) Layer.all (some written) (some running) := by
  refine ⟨value.map some, h, ?_⟩
  rw [hrunning]
  cases value <;> rfl

/-- Options over a route of the file. -/
theorem Chosen.overridden {launch : Launch} {cli : ClientCli} (h : Chosen launch cli)
    (config : ClientConfig) : Overridden launch config (withOverrides config cli.overrides) := by
  refine ⟨rfl, ?_⟩
  obtain ⟨h2, h3, h4, h5, h6⟩ := h.others
  simp only [settings, List.forall_mem_cons]
  exact ⟨definedOr_of_resolves (h.clientId.map Value.text) (getD_map_write _ _ _),
    definedOr_of_resolves (h2.map Value.text) (getD_map_write _ _ _),
    definedOr_of_resolves (h3.map _) (getD_map_maybe _ _),
    definedOr_of_resolves (h4.map Value.mode) (getD_map_write _ _ _),
    definedOr_of_resolves (h5.map Value.text) (getD_map_write _ _ _),
    definedOr_of_resolves (h6.map Value.count) (getD_map_write _ _ _), List.forall_mem_nil _⟩

/-- Options that can be read one by one can be read together. -/
theorem exists_chosen {launch : Launch} {path filter username secretFile : Option String}
    {tray : Option DesktopMode} (hpath : launch.Resolves configArg path)
    (hfilter : launch.Resolves logFilterArg filter) (htray : launch.Resolves trayArg tray)
    (husername : launch.Resolves oauthUsernameArg username)
    (hsecret : launch.Resolves oauthClientSecretFileArg secretFile)
    (h : ∀ setting ∈ settings, ∃ found, launch.Resolves setting.arg found) :
    ∃ cli, Chosen launch cli := by
  simp only [settings, List.forall_mem_cons] at h
  obtain ⟨⟨_, f1⟩, ⟨_, f2⟩, ⟨_, f3⟩, ⟨_, f4⟩, ⟨_, f5⟩, ⟨_, f6⟩, -⟩ := h
  obtain ⟨_, h1⟩ := exists_resolves_of_map f1
  obtain ⟨_, h2⟩ := exists_resolves_of_map f2
  obtain ⟨_, h3⟩ := exists_resolves_of_map f3
  obtain ⟨_, h4⟩ := exists_resolves_of_map f4
  obtain ⟨_, h5⟩ := exists_resolves_of_map f5
  obtain ⟨_, h6⟩ := exists_resolves_of_map f6
  exact ⟨⟨⟨path, filter.getD defaultLogFilter⟩, ⟨_, _, _, _, _, _⟩, tray.getD .auto, username,
    secretFile⟩, hpath, ⟨filter, hfilter, rfl⟩, ⟨tray, htray, rfl⟩, ⟨husername, hsecret⟩, h1, h2,
    h3, h4, h5, h6⟩

/-- The bootstrap that is loaded is the one of a file that selects it. -/
theorem loadCentralClientBootstrap_eq_ok
    {toml : String → Except AnyError (List (String × Toml))}
    {readToString : String → Except AnyError String} {path : String}
    {central : Option CentralClientBootstrap} :
    loadCentralClientBootstrap toml readToString path = .ok central ↔
      ∃ raw entries, readToString path = .ok raw ∧ toml raw = .ok entries ∧
        ((selectsCentral entries = true ∧ ∃ bootstrap,
          CentralClientBootstrap.fromToml (.table entries) = some bootstrap ∧
            central = some bootstrap) ∨
          selectsCentral entries = false ∧ central = none) := by
  simp only [loadCentralClientBootstrap, bind_eq_ok, withContext_eq_ok]
  constructor
  · rintro ⟨raw, hraw, entries, hentries, h⟩
    refine ⟨raw, entries, hraw, hentries, ?_⟩
    cases hselects : selectsCentral entries with
    | true =>
      rw [hselects, if_pos rfl] at h
      obtain ⟨bootstrap, hbootstrap, h⟩ := bind_eq_ok.mp h
      cases h
      exact .inl ⟨rfl, bootstrap, orMissing_eq_ok.mp (withContext_eq_ok.mp hbootstrap), rfl⟩
    | false =>
      rw [hselects, if_neg Bool.false_ne_true] at h
      cases h
      exact .inr ⟨rfl, rfl⟩
  · rintro ⟨raw, entries, hraw, hentries, ⟨hselects, bootstrap, hbootstrap, rfl⟩ |
      ⟨hselects, rfl⟩⟩
    · refine ⟨raw, hraw, entries, hentries, ?_⟩
      rw [if_pos hselects]
      exact bind_eq_ok.mpr ⟨bootstrap, withContext_eq_ok.mpr (orMissing_eq_ok.mpr hbootstrap), rfl⟩
    · refine ⟨raw, hraw, entries, hentries, ?_⟩
      rw [hselects, if_neg Bool.false_ne_true]

/-- Routes are loaded from a file that can be read. -/
theorem loadClientConfigs_eq_ok {toml : String → Except AnyError (List (String × Toml))}
    {readToString : String → Except AnyError String} {path : String}
    {configs : List ClientConfig} :
    loadClientConfigs toml readToString path = .ok configs ↔
      ∃ raw entries, readToString path = .ok raw ∧ toml raw = .ok entries ∧
        parseClientToml (.table entries) = .ok configs := by
  simp only [loadClientConfigs, bind_eq_ok, withContext_eq_ok]
  constructor
  · rintro ⟨raw, hraw, entries, hentries, hconfigs⟩
    exact ⟨raw, entries, hraw, hentries, hconfigs⟩
  · rintro ⟨raw, entries, hraw, hentries, hconfigs⟩
    exact ⟨raw, hraw, entries, hentries, hconfigs⟩

/-- What is loaded is what the file says. -/
theorem written_iff {toml : String → Except AnyError (List (String × Toml))} {launch : Launch}
    {path : String} {central : Option CentralClientBootstrap} {loaded : List ClientConfig} :
    Written toml launch path central loaded ↔
      (if launch.pathExists path then
          loadCentralClientBootstrap toml launch.readToString path
        else .ok none) = .ok central ∧
      (if central.isSome then .ok []
        else if launch.pathExists path then loadClientConfigs toml launch.readToString path
        else .ok []) = .ok loaded := by
  constructor
  · intro h
    cases h with
    | missing h => exact ⟨by rw [h]; rfl, by rw [h]; rfl⟩
    | central h hraw hentries hselects hbootstrap =>
      refine ⟨?_, rfl⟩
      rw [if_pos h]
      exact loadCentralClientBootstrap_eq_ok.mpr
        ⟨_, _, hraw, hentries, .inl ⟨hselects, _, hbootstrap, rfl⟩⟩
    | routes h hraw hentries hselects hconfigs =>
      rw [if_pos h]
      refine ⟨loadCentralClientBootstrap_eq_ok.mpr
        ⟨_, _, hraw, hentries, .inr ⟨hselects, rfl⟩⟩, ?_⟩
      rw [Option.isSome_none, if_neg Bool.false_ne_true, if_pos h]
      exact loadClientConfigs_eq_ok.mpr ⟨_, _, hraw, hentries, hconfigs⟩
  · rintro ⟨hcentral, hloaded⟩
    cases hexists : launch.pathExists path with
    | false =>
      rw [hexists, if_neg Bool.false_ne_true] at hcentral hloaded
      cases hcentral
      cases hloaded
      exact .missing hexists
    | true =>
      rw [hexists, if_pos rfl] at hcentral hloaded
      obtain ⟨raw, entries, hraw, hentries, hcases⟩ := loadCentralClientBootstrap_eq_ok.mp hcentral
      rcases hcases with ⟨hselects, bootstrap, hbootstrap, rfl⟩ | ⟨hselects, rfl⟩
      · cases hloaded
        exact .central hexists hraw hentries hselects hbootstrap
      · obtain ⟨raw', entries', hraw', hentries', hconfigs⟩ := loadClientConfigs_eq_ok.mp hloaded
        cases hraw.symm.trans hraw'
        cases hentries.symm.trans hentries'
        exact .routes hexists hraw hentries hselects hconfigs

/-- A file says one thing. -/
theorem Written.unique {toml : String → Except AnyError (List (String × Toml))} {launch : Launch}
    {path : String} {central other : Option CentralClientBootstrap}
    {loaded rest : List ClientConfig} (h : Written toml launch path central loaded)
    (hother : Written toml launch path other rest) : central = other ∧ loaded = rest := by
  obtain ⟨hcentral, hloaded⟩ := written_iff.mp h
  obtain ⟨hcentral', hloaded'⟩ := written_iff.mp hother
  cases hcentral.symm.trans hcentral'
  cases hloaded.symm.trans hloaded'
  exact ⟨rfl, rfl⟩

/-- Elements with the same identifiers, position by position. -/
theorem map_eq_of_forall₂ {α : Type} {key : α → String} {xs : List α}
    {configs : List ClientConfig}
    (h : List.Forall₂ (fun x config => key x = config.clientId) xs configs) :
    xs.map key = configs.map (·.clientId) := by
  induction h with
  | nil => rfl
  | cons hfirst _ ih => rw [List.map_cons, List.map_cons, hfirst, ih]

/-- The routes of a valid document have different identifiers. -/
theorem parseClientConfigs_distinct {document : ClientConfigDocument}
    {configs : List ClientConfig} (h : parseClientConfigs document = .ok configs) :
    (configs.map (·.clientId)).Nodup := by
  obtain ⟨h, -⟩ := parseClientConfigs_eq_ok.mp h
  cases document with
  | legacy config =>
    cases h
    exact List.pairwise_singleton _ _
  | multiRoute file =>
    simp only [documentConfigs, withContext_eq_ok, expandClientRoutes, bind_eq_ok] at h
    obtain ⟨_, -, hroutes⟩ := h
    obtain ⟨-, hdistinct, hconfigs⟩ := expandRoutesFrom_eq_ok.mp hroutes
    have hkept : ∀ route config, expandClientRoute file.defaults route = .ok config →
        route.clientId = config.clientId := by
      intro route config hconfig
      simp only [expandClientRoute, bind_eq_ok, Except.ok.injEq] at hconfig
      obtain ⟨_, -, _, -, _, -, _, -, _, -, _, -, _, -, _, -, rfl⟩ := hconfig
      rfl
    rw [←map_eq_of_forall₂ (hconfigs.imp hkept)]
    exact hdistinct

/-- Routes of a file are valid and have different identifiers; next to central
management there are none. -/
theorem Written.sound {toml : String → Except AnyError (List (String × Toml))} {launch : Launch}
    {path : String} {central : Option CentralClientBootstrap} {loaded : List ClientConfig}
    (h : Written toml launch path central loaded) :
    (central.isSome = true → loaded = []) ∧
      (∀ config ∈ loaded, validateClientConfig config = .ok ()) ∧
      (loaded.map (·.clientId)).Nodup := by
  cases h with
  | missing h => exact ⟨fun _ => rfl, List.forall_mem_nil _, List.nodup_nil⟩
  | central h hraw hentries hselects hbootstrap =>
    exact ⟨fun _ => rfl, List.forall_mem_nil _, List.nodup_nil⟩
  | routes h hraw hentries hselects hconfigs =>
    obtain ⟨document, -, hconfigs⟩ := bind_eq_ok.mp hconfigs
    refine ⟨?_, (parseClientConfigs_eq_ok.mp hconfigs).2, parseClientConfigs_distinct hconfigs⟩
    intro hcentral
    cases hcentral

/-- Validity does not look at what has an option. -/
theorem validateClientConfig_of_unchangeable {written running : ClientConfig}
    (h : unchangeable running = unchangeable written) :
    validateClientConfig running = validateClientConfig written := by
  simp only [unchangeable, Prod.mk.injEq] at h
  obtain ⟨-, hacme, hauthorization, -, hrules⟩ := h
  rw [validateClientConfig, validateClientConfig, hacme, hauthorization, hrules]

/-- The layers determine how a route runs. -/
theorem Overridden.unique {launch : Launch} {written running other : ClientConfig}
    (h : Overridden launch written running) (hother : Overridden launch written other) :
    running = other := by
  have hsame : ∀ setting ∈ settings, setting.value running = setting.value other := by
    intro setting hm
    exact Option.some.inj ((definedOr_iff.mp (h.layered setting hm)).trans
      (definedOr_iff.mp (hother.layered setting hm)).symm)
  have hrest := h.rest.trans hother.rest.symm
  simp only [settings, List.forall_mem_cons, Value.text.injEq, Value.maybe.injEq,
    Value.mode.injEq, Value.count.injEq] at hsame
  simp only [unchangeable, Prod.mk.injEq] at hrest
  obtain ⟨h1, h2, h3, h4, h5, h6, -⟩ := hsame
  obtain ⟨h7, h8, h9, h10, h11⟩ := hrest
  obtain ⟨⟩ := running
  obtain ⟨⟩ := other
  simp only at h1 h2 h3 h4 h5 h6 h7 h8 h9 h10 h11
  subst h1 h2 h3 h4 h5 h6 h7 h8 h9 h10 h11
  rfl

/-- A route keeps its identifier when no layer has another one. -/
theorem Overridden.clientId {launch : Launch} {written running : ClientConfig}
    (h : Overridden launch written running) (hnone : launch.Resolves clientIdArg none) :
    running.clientId = written.clientId := by
  have hset := h.layered ⟨clientIdArg.map .text, fun c => .text c.clientId⟩ List.mem_cons_self
  obtain ⟨found, hfound, hvalue⟩ := hset
  have hnone' : launch.Resolves (clientIdArg.map Value.text) none := hnone.map Value.text
  rw [hfound.eq_findSome?, ←hnone'.eq_findSome?] at hvalue
  exact Value.text.inj (Option.some.inj hvalue)

/-- The documented order determines what a client runs with. -/
theorem Layered.unique {toml : String → Except AnyError (List (String × Toml))} {launch : Launch}
    {runtime other : ClientRuntimeConfig} (h : Layered toml launch runtime)
    (hother : Layered toml launch other) : runtime = other := by
  obtain ⟨-, -, ⟨filter, hfilter, h1⟩, ⟨tray, htray, h2⟩, ⟨path, hpath, h3⟩, document⟩ := h
  obtain ⟨-, -, ⟨filter', hfilter', h1'⟩, ⟨tray', htray', h2'⟩, ⟨path', hpath', h3'⟩,
    document'⟩ := hother
  obtain ⟨bootstrap, written, username, secretFile, hwritten, -, husername, hsecret, h4, h5⟩ :=
    document
  obtain ⟨bootstrap', written', username', secretFile', hwritten', -, husername', hsecret', h4',
    h5'⟩ := document'
  cases hfilter.unique hfilter'
  cases htray.unique htray'
  cases hpath.unique hpath'
  cases husername.unique husername'
  cases hsecret.unique hsecret'
  rw [h3] at hwritten
  rw [h3'] at hwritten'
  obtain ⟨rfl, rfl⟩ := hwritten.unique hwritten'
  have hconfig : runtime.config = other.config :=
    Relator.RightUnique.forall₂ (fun _ _ _ h h' => h.unique h') h5 h5'
  obtain ⟨config, logFilter, configPath, desktopMode, central⟩ := runtime
  obtain ⟨config', logFilter', configPath', desktopMode', central'⟩ := other
  simp only at h1 h1' h2 h2' h3 h3' h4 h4' hconfig
  subst h1 h1' h2 h2' h3 h3' h4 h4' hconfig
  rfl

/-- The settings of a client follow the documented order. -/
theorem layered_of_parse {toml : String → Except AnyError (List (String × Toml))}
    {launch : Launch} {runtime : ClientRuntimeConfig}
    (h : parseClientRuntime toml launch = .ok runtime) : Layered toml launch runtime := by
  simp only [parseClientRuntime, ClientCli.load, bind_eq_ok, hydrate_eq_ok, ensure_eq_ok,
    Except.ok.injEq] at h
  obtain ⟨_, ⟨hloads, rfl⟩, cli, hcli, central, hcentral, loaded, hloaded, _, hsingle, rfl⟩ := h
  have hchosen := parse_eq_ok.mp hcli
  obtain ⟨h2, h3, h4, h5, h6⟩ := hchosen.others
  refine ⟨hloads, ?_, hchosen.logFilter, hchosen.tray, ⟨_, hchosen.config, rfl⟩, central, loaded,
    cli.oauthUsername, cli.oauthClientSecretFile, written_iff.mpr ⟨hcentral, hloaded⟩, ?_,
    hchosen.credentials.1, hchosen.credentials.2, rfl, ?_⟩
  · simp only [settings, List.forall_mem_cons]
    exact ⟨⟨_, hchosen.clientId.map Value.text⟩, ⟨_, h2.map Value.text⟩, ⟨_, h3.map _⟩,
      ⟨_, h4.map Value.mode⟩, ⟨_, h5.map Value.text⟩, ⟨_, h6.map Value.count⟩,
      List.forall_mem_nil _⟩
  · rcases Bool.or_eq_true_iff.mp hsingle with hone | hnone
    · exact .inl (beq_iff_eq.mp hone)
    · right
      rw [←Option.isNone_iff_eq_none.mp hnone]
      exact hchosen.clientId
  · rw [List.forall₂_map_right_iff]
    exact List.forall₂_same.mpr fun config _ => hchosen.overridden config

/-- What follows the documented order is sound. -/
theorem Layered.sound {toml : String → Except AnyError (List (String × Toml))} {launch : Launch}
    {runtime : ClientRuntimeConfig} (h : Layered toml launch runtime) : Sound runtime := by
  obtain ⟨bootstrap, written, username, secretFile, hwritten, hsingle, -, -, hcentral, hrunning⟩ :=
    h.document
  obtain ⟨hexclusive, hvalid, hdistinct⟩ := hwritten.sound
  constructor
  · intro hmanaged
    rw [hcentral, Option.isSome_map] at hmanaged
    rw [hexclusive hmanaged] at hrunning
    exact List.forall₂_nil_left_iff.mp hrunning
  · intro config hm
    obtain ⟨original, horiginal, hoverridden⟩ := exists_mem_of_forall₂ hrunning hm
    rw [validateClientConfig_of_unchangeable hoverridden.rest]
    exact hvalid original horiginal
  · rcases hsingle with hone | hnone
    · obtain ⟨config, hconfig⟩ :=
        List.length_eq_one_iff.mp (hrunning.length_eq.symm.trans hone)
      rw [hconfig]
      exact List.pairwise_singleton _ _
    · rw [←map_eq_of_forall₂ (hrunning.imp fun _ _ hoverridden =>
        (hoverridden.clientId hnone).symm)]
      exact hdistinct

/-- A client is given settings exactly when its file and the first definitions of
its options can be read and no identifier is given to several routes or to none;
then every option of a route is taken from the command line, the environment,
the file that the environment names or the TOML file, in this order. What it
is given are valid routes with different identifiers, or the centrally managed
ones. -/
theorem client_settings_layered (toml : String → Except AnyError (List (String × Toml)))
    (launch : Launch) (runtime : ClientRuntimeConfig) :
    (parseClientRuntime toml launch = .ok runtime ↔ Layered toml launch runtime) ∧
      (parseClientRuntime toml launch = .ok runtime → Sound runtime) := by
  refine ⟨⟨layered_of_parse, fun h => ?_⟩, fun h => (layered_of_parse h).sound⟩
  obtain ⟨filter, hfilter, -⟩ := h.logFilter
  obtain ⟨tray, htray, -⟩ := h.tray
  obtain ⟨path, hpath, hconfigPath⟩ := h.path
  obtain ⟨bootstrap, written, username, secretFile, hwritten, hsingle, husername, hsecret, -, -⟩ :=
    h.document
  obtain ⟨cli, hchosen⟩ := exists_chosen hpath hfilter htray husername hsecret h.readable
  rw [hconfigPath, hpath.unique hchosen.config] at hwritten
  obtain ⟨hcentral, hloaded⟩ := written_iff.mp hwritten
  have hensured : (written.length == 1 || cli.overrides.clientId.isNone) = true := by
    rcases hsingle with hone | hnone
    · rw [hone]
      rfl
    · rw [hchosen.clientId.unique hnone, Option.isNone_none, Bool.or_true]
  have hstarts : ∃ started, parseClientRuntime toml launch = .ok started := by
    simp only [parseClientRuntime, ClientCli.load, bind_eq_ok, hydrate_eq_ok, ensure_eq_ok,
      Except.ok.injEq]
    exact ⟨_, _, ⟨h.loads, rfl⟩, cli, parse_eq_ok.mpr hchosen, bootstrap, hcentral, written,
      hloaded, (), hensured, rfl⟩
  obtain ⟨started, hstarted⟩ := hstarts
  rw [hstarted, h.unique (layered_of_parse hstarted)]

/-- A client whose username comes from a file that the environment names and
whose file selects central management. -/
def sampleLaunch : Launch where
  options name := if name = "tray" then some "never" else none
  environment name :=
    if name = "LFP_PIPE_OAUTH_USERNAME_FILE" then some "/run/username"
    else if name = "LFP_PIPE_TRAY" then some "always"
    else none
  readToString path :=
    if path = "/run/username" then .ok "desk\r\n"
    else if path = "client.toml" then .ok "bootstrap"
    else .error ["no such file"]
  pathExists path := path = "client.toml"

/-- Its file. -/
def sampleEntries : List (String × Toml) :=
  [("control_plane_url", .string "https://pipe.example.com"),
    ("control_plane_config", .boolean true), ("username", .string "other"),
    ("client_secret_file", .string "secret")]

/-- What it runs with. -/
def sampleRuntime : ClientRuntimeConfig where
  config := []
  logFilter := "info,async_nats=warn"
  configPath := "client.toml"
  desktopMode := .never
  central := some ⟨"https://pipe.example.com", some "desk", some "secret"⟩

/-- A client with one local route, whose identifier is an option and whose server is
in the environment. -/
def localLaunch : Launch where
  options name := if name = "client-id" then some "desk" else none
  environment name := if name = "LFP_PIPE_NATS_URL" then some "tls://nats.example" else none
  readToString path := if path = "client.toml" then .ok "routes" else .error ["no such file"]
  pathExists path := path = "client.toml"

/-- Its file. -/
def localEntries : List (String × Toml) :=
  [("routes", .array [.table [("client_id", .string "laptop"), ("hostname", .string "docs.example"),
    ("nats_url", .string "tls://other.example"), ("relay_mode", .string "buffered"),
    ("backend_addr", .string "127.0.0.1:3000")]])]

/-- What it runs with. -/
def localRuntime : ClientRuntimeConfig where
  config := [⟨"desk", "tls://nats.example", none, none, none, none, true, .buffered,
    defaultRequestSubject, defaultClaimAckTimeoutMs,
    [⟨"docs.example", none, false, true, "127.0.0.1:3000", none, none, none⟩]⟩]
  logFilter := "info,async_nats=warn"
  configPath := "client.toml"
  desktopMode := .auto
  central := none

/-- The first client has its username from the environment, the second one has its
route below the options. -/
theorem client_settings_layered_sample :
    (Layered (fun _ => .ok sampleEntries) sampleLaunch sampleRuntime ∧ Sound sampleRuntime) ∧
      Layered (fun _ => .ok localEntries) localLaunch localRuntime ∧ Sound localRuntime := by
  have hcentral : parseClientRuntime (fun _ => .ok sampleEntries) sampleLaunch =
      .ok sampleRuntime := by decide
  have hlocal : parseClientRuntime (fun _ => .ok localEntries) localLaunch =
      .ok localRuntime := by decide +kernel
  have hfirst := client_settings_layered (fun _ => .ok sampleEntries) sampleLaunch sampleRuntime
  have hsecond := client_settings_layered (fun _ => .ok localEntries) localLaunch localRuntime
  exact ⟨⟨hfirst.1.mp hcentral, hfirst.2 hcentral⟩, hsecond.1.mp hlocal, hsecond.2 hlocal⟩

end LfpPipe.ClientLaunch
