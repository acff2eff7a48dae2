import LfpPipe.ConfigExpansion
import LfpPipe.TransitionRuns

/-!
# Centrally managed client configuration

The loop of `run_central_with_reporter` in `client/src/config_source.rs`. It
fetches a snapshot, runs its routes, and looks for changes with a second
fetch while they run. A change or the end of the routes leads back to the
first fetch, which has no routes to fall back on. The parsers of TOML and
JSON are parameters, and the answers of the control plane are events.
-/

namespace LfpPipe.CentralConfig

open Fallible SharedConfig ConfigExpansion TransitionRuns

/-- The local part of a centrally managed client. -/
structure CentralClientBootstrap where
  /-- Origin of the control plane. -/
  controlPlaneUrl : String
  /-- Service-account username. -/
  username : Option String
  /-- File with the service-account password. -/
  clientSecretFile : Option String
  deriving DecidableEq, Repr

/-- Authentication settings of the control plane. -/
structure CentralSettings where
  /-- Token endpoint. -/
  tokenUrl : String
  /-- Public provider client identifier. -/
  providerClientId : String
  /-- Requested scopes. -/
  scopes : List String
  deriving DecidableEq, Repr

/-- The assigned document with its metadata. -/
structure CentralResponse where
  /-- The document. -/
  configToml : String
  /-- Its revision, if the control plane reports one. -/
  configRevision : Option String
  /-- Service-account username. -/
  username : String
  deriving DecidableEq, Repr

/-- A validated configuration with its revision. -/
structure CentralSnapshot where
  /-- The concrete routes. -/
  configs : List ClientConfig
  /-- Revision of the document. -/
  revision : String
  deriving DecidableEq, Repr

/-- Library code around the loop. -/
structure Externals where
  /-- Decode a TOML document. -/
  fromToml : String → Except AnyError ClientConfigDocument
  /-- Encode configurations as JSON. -/
  toVec : List ClientConfig → Except AnyError (List UInt8)

/-- What came of the request for the document. -/
inductive ConfigAnswer where
  /-- It could not be sent. -/
  | unsent (error : AnyError)
  /-- It was answered with an error status. -/
  | refused (error : AnyError)
  /-- Its answer could not be decoded. -/
  | undecoded (error : AnyError)
  /-- It was answered. -/
  | answered (response : CentralResponse)
  deriving Repr

/-- Everything that the control plane and the identity provider answer during
one fetch. -/
structure Answers where
  /-- Authentication settings. -/
  settings : Except AnyError CentralSettings
  /-- Access token. -/
  token : Except AnyError String
  /-- The document. -/
  config : ConfigAnswer

/-- The message of a missing secret file. -/
def secretFileRequired : String :=
  "central config requires client_secret_file or LFP_PIPE_OAUTH_CLIENT_SECRET_FILE"

/-- Authenticate at the control plane. -/
def centralAccess (bootstrap : CentralClientBootstrap) (answers : Answers) :
    Except AnyError CentralSettings := do
  let _ ← orMissing "central config requires username or LFP_PIPE_OAUTH_USERNAME"
    bootstrap.username
  let _ ← orMissing secretFileRequired bootstrap.clientSecretFile
  let settings ← answers.settings
  let _ ← answers.token
  .ok settings

/-- The response to the request for the document. -/
def ConfigAnswer.response : ConfigAnswer → Except AnyError CentralResponse
  | .unsent error => .error ("fetch central client configuration" :: error)
  | .refused error => .error ("central client configuration was rejected" :: error)
  | .undecoded error => .error ("decode central client configuration" :: error)
  | .answered response => .ok response

/-- Decode and validate a document of the control plane. -/
def parseClientConfigDocument (externals : Externals) (raw : String) :
    Except AnyError (List ClientConfig) := do
  let document ← externals.fromToml raw
  parseClientConfigs document

/-- Fill the credentials of a route in. -/
def hydrate (bootstrap : CentralClientBootstrap) (secretFile : String)
    (settings : CentralSettings) (username : String) (config : ClientConfig) :
    Except AnyError ClientConfig := do
  let oauth ← orMissing "every centrally managed route requires OAuth" config.oauth
  .ok { config with
    oauth := some { oauth with
      username := username
      clientSecretFile := secretFile
      tokenUrl := settings.tokenUrl
      providerClientId := settings.providerClientId
      controlPlaneUrl := bootstrap.controlPlaneUrl
      scopes := settings.scopes } }

/-- Fetch, validate and complete the assigned configuration. -/
def fetchCentralSnapshot (externals : Externals) (bootstrap : CentralClientBootstrap)
    (answers : Answers) : Except AnyError CentralSnapshot := do
  let secretFile ← orMissing secretFileRequired bootstrap.clientSecretFile
  let settings ← withContext "authenticate central client" (centralAccess bootstrap answers)
  let response ← answers.config.response
  let configs ← parseClientConfigDocument externals response.configToml
  let hydrated ← collect (hydrate bootstrap secretFile settings response.username) configs
  .ok ⟨hydrated, response.configRevision.getD "unreported"⟩

/-- Where the loop is. -/
inductive Phase where
  /-- The fetch at the top of the loop; the record says which routes have
  stopped just before and are about to start again. -/
  | fetching (stopped : Option CentralSnapshot)
  /-- Waiting after a failed fetch at the top of the loop. -/
  | retrying
  /-- Routes run. -/
  | running (snapshot : CentralSnapshot) (fingerprint : List UInt8)
  /-- Routes run while a fetch looks for changes. -/
  | refreshing (snapshot : CentralSnapshot) (fingerprint : List UInt8)
  /-- Waiting after the routes have stopped by themselves. -/
  | restarting (stopped : CentralSnapshot)
  /-- The loop has ended with an error. -/
  | returned (error : AnyError)
  deriving DecidableEq, Repr

/-- The snapshot whose routes run or are being restarted. -/
def Phase.routes : Phase → Option CentralSnapshot
  | .fetching stopped => stopped
  | .retrying => none
  | .running snapshot _ => some snapshot
  | .refreshing snapshot _ => some snapshot
  | .restarting stopped => some stopped
  | .returned _ => none

/-- The snapshot whose routes run, with its bytes. -/
def Phase.active : Phase → Option (CentralSnapshot × List UInt8)
  | .running snapshot fingerprint => some (snapshot, fingerprint)
  | .refreshing snapshot fingerprint => some (snapshot, fingerprint)
  | _ => none

/-- The loop with the record of its fetches. -/
structure State where
  /-- Seconds to wait before the next attempt. -/
  retryDelay : ℕ
  /-- Revision of the applied snapshot. -/
  appliedRevision : Option String
  /-- Where the loop is. -/
  phase : Phase
  /-- What a reporter has been told. -/
  reports : List String
  /-- The last validly fetched snapshot. -/
  lastValid : Option CentralSnapshot
  /-- Whether the last fetch failed. -/
  unavailable : Bool
  deriving DecidableEq, Repr

def initialRetryDelay : ℕ := 1

def maxRetryDelay : ℕ := 30

/-- The loop before its first fetch. -/
def initial : State where
  retryDelay := initialRetryDelay
  appliedRevision := none
  phase := .fetching none
  reports := []
  lastValid := none
  unavailable := false

/-- What happens next. -/
inductive Event where
  /-- A fetch ends with these answers. -/
  | fetched (answers : Answers)
  /-- A waiting time is over. -/
  | slept
  /-- An update notification arrives. -/
  | updated
  /-- The routes stop, in any way. -/
  | runtimeStopped

/-- The delay after another failure. -/
def nextRetryDelay (current : ℕ) : ℕ := min (current * 2) maxRetryDelay

/-- The status of applied routes. -/
def appliedConfigStatus (configs : List ClientConfig) : String :=
  if configs.length = 0 then "Connected"
  else if configs.length = 1 then "Connected - 1 Route"
  else "Connected - " ++ toString configs.length ++ " Routes"

/-- The bytes by which configurations are compared. -/
def fingerprintOf (externals : Externals) (configs : List ClientConfig) :
    Except AnyError (List UInt8) :=
  withContext "fingerprint central config" (externals.toVec configs)

/-- Move on and tell the reporter. -/
def State.enter (s : State) (phase : Phase) (report : String) : State :=
  { s with
    phase := phase
    reports := s.reports ++ [report] }

/-- Record the outcome of a fetch. -/
def State.noted (s : State) : Except AnyError CentralSnapshot → State
  | .ok snapshot =>
    { s with
      lastValid := some snapshot
      unavailable := false }
  | .error _ => { s with unavailable := true }

/-- Continue after the fetch at the top of the loop. -/
def State.started (externals : Externals) (s : State) :
    Except AnyError CentralSnapshot → State
  | .error _ => s.enter .retrying "Reconnecting…"
  | .ok snapshot =>
    match fingerprintOf externals snapshot.configs with
    | .error _ => s.enter .retrying "Configuration unavailable · retrying"
    | .ok fingerprint =>
      { s.enter (.running snapshot fingerprint) (appliedConfigStatus snapshot.configs) with
        appliedRevision := some snapshot.revision }

/-- Drop the routes in order to apply a change. -/
def State.replaceRoutes (s : State) : State :=
  { s.enter (.fetching none) "Applying configuration…" with retryDelay := initialRetryDelay }

/-- Continue after the fetch that looked for changes. -/
def State.refreshed (externals : Externals) (s : State) (snapshot : CentralSnapshot)
    (fingerprint : List UInt8) : Except AnyError CentralSnapshot → State
  | .error _ =>
    s.enter (.running snapshot fingerprint)
      ("Configuration warning · " ++ appliedConfigStatus snapshot.configs)
  | .ok next =>
    if next.revision ≠ snapshot.revision then s.replaceRoutes
    else
      match fingerprintOf externals next.configs with
      | .error error => { s with phase := .returned error }
      | .ok bytes =>
        if bytes ≠ fingerprint then s.replaceRoutes
        else { s with phase := .running snapshot fingerprint }

/-- One step of the loop; an event that it does not wait for is refused. -/
def step (externals : Externals) (bootstrap : CentralClientBootstrap) (s : State) :
    Event → Option State
  | .fetched answers =>
    let outcome := fetchCentralSnapshot externals bootstrap answers
    match s.phase with
    | .fetching _ => some ((s.noted outcome).started externals outcome)
    | .refreshing snapshot fingerprint =>
      some ((s.noted outcome).refreshed externals snapshot fingerprint outcome)
    | _ => none
  | .slept =>
    match s.phase with
    | .retrying =>
      some { s with
        phase := .fetching none
        retryDelay := nextRetryDelay s.retryDelay }
    | .restarting stopped =>
      some { s with
        phase := .fetching (some stopped)
        retryDelay := nextRetryDelay s.retryDelay }
    | _ => none
  | .updated =>
    match s.phase with
    | .running snapshot fingerprint => some { s with phase := .refreshing snapshot fingerprint }
    | _ => none
  | .runtimeStopped =>
    match s.phase with
    | .running snapshot _ => some (s.enter (.restarting snapshot) "Reconnecting…")
    | _ => none

/-- A step that touches neither the routes nor the record of fetches. -/
structure Undisturbed (s next : State) : Prop where
  /-- The routes stay. -/
  routes : next.phase.routes = s.phase.routes
  /-- No routes are started. -/
  active : ∀ pair, next.phase.active = some pair → s.phase.active = some pair
  /-- No snapshot is fetched. -/
  lastValid : next.lastValid = s.lastValid
  /-- No fetch fails. -/
  unavailable : next.unavailable = s.unavailable
  /-- Nothing is applied. -/
  appliedRevision : next.appliedRevision = s.appliedRevision

/-- Everything that one step can do. -/
inductive Moves (externals : Externals) (bootstrap : CentralClientBootstrap) (s : State) :
    Event → State → Prop where
  /-- The fetch at the top of the loop ends. -/
  | started (answers : Answers) {stopped : Option CentralSnapshot}
    (hphase : s.phase = .fetching stopped) :
    Moves externals bootstrap s (.fetched answers)
      ((s.noted (fetchCentralSnapshot externals bootstrap answers)).started externals
        (fetchCentralSnapshot externals bootstrap answers))
  /-- The fetch that looks for changes ends. -/
  | refreshed (answers : Answers) {snapshot : CentralSnapshot} {fingerprint : List UInt8}
    (hphase : s.phase = .refreshing snapshot fingerprint) :
    Moves externals bootstrap s (.fetched answers)
      ((s.noted (fetchCentralSnapshot externals bootstrap answers)).refreshed externals snapshot
        fingerprint (fetchCentralSnapshot externals bootstrap answers))
  /-- The loop waits, is notified or sees its routes stop. -/
  | undisturbed {event : Event} {next : State} (h : Undisturbed s next) :
    Moves externals bootstrap s event next

/-- Every step is one of the listed moves. -/
theorem step_moves {externals : Externals} {bootstrap : CentralClientBootstrap} {s next : State}
    {event : Event} (hstep : step externals bootstrap s event = some next) :
    Moves externals bootstrap s event next := by
  cases event with
  | fetched answers =>
    simp only [step] at hstep
    split at hstep
    · next stopped hphase =>
      cases hstep
      exact .started answers hphase
    · next snapshot fingerprint hphase =>
      cases hstep
      exact .refreshed answers hphase
    · cases hstep
  | slept =>
    simp only [step] at hstep
    split at hstep
    · next hphase =>
      cases hstep
      refine .undisturbed ⟨?_, nofun, rfl, rfl, rfl⟩
      simp only [hphase, Phase.routes]
    · next stopped hphase =>
      cases hstep
      refine .undisturbed ⟨?_, nofun, rfl, rfl, rfl⟩
      simp only [hphase, Phase.routes]
    · cases hstep
  | updated =>
    simp only [step] at hstep
    split at hstep
    · next snapshot fingerprint hphase =>
      cases hstep
      refine .undisturbed ⟨?_, fun pair hpair => ?_, rfl, rfl, rfl⟩
      · simp only [hphase, Phase.routes]
      · simpa only [hphase, Phase.active] using hpair
    · cases hstep
  | runtimeStopped =>
    simp only [step] at hstep
    split at hstep
    · next snapshot fingerprint hphase =>
      cases hstep
      refine .undisturbed ⟨?_, nofun, rfl, rfl, rfl⟩
      simp only [State.enter, hphase, Phase.routes]
    · cases hstep

/-- Two snapshots that the loop does not tell apart. -/
def SameRoutes (externals : Externals) (left right : CentralSnapshot) : Prop :=
  left.revision = right.revision ∧ externals.toVec left.configs = externals.toVec right.configs

/-- The routes of the last valid snapshot run or are being restarted. -/
def RoutesKept (externals : Externals) (s : State) : Prop :=
  ∃ snapshot last, s.phase.routes = some snapshot ∧ s.lastValid = some last ∧
    SameRoutes externals snapshot last

/-- Once a snapshot was applied, a failed fetch leaves the routes of the last
valid snapshot. -/
def LastValidRetained (externals : Externals) (s : State) : Prop :=
  s.appliedRevision ≠ none → s.unavailable = true → RoutesKept externals s

/-- Whatever routes there are belong to the last valid snapshot. -/
structure RoutesKnown (externals : Externals) (s : State) : Prop where
  /-- They are those of the last valid snapshot. -/
  kept : s.phase.routes ≠ none → RoutesKept externals s
  /-- Running routes have the remembered bytes. -/
  bytes : ∀ snapshot fingerprint, s.phase.active = some (snapshot, fingerprint) →
    externals.toVec snapshot.configs = .ok fingerprint

/-- Before the first fetch there are no routes. -/
theorem routesKnown_initial (externals : Externals) : RoutesKnown externals initial := by
  constructor <;> simp [initial, Phase.routes, Phase.active]

/-- The remembered bytes are those of the configurations. -/
theorem fingerprintOf_eq_ok {externals : Externals} {configs : List ClientConfig}
    {fingerprint : List UInt8} :
    fingerprintOf externals configs = .ok fingerprint ↔
      externals.toVec configs = .ok fingerprint := by
  simp [fingerprintOf]

/-- Without routes there is nothing to know. -/
theorem routesKnown_of_none {externals : Externals} {s : State} (hroutes : s.phase.routes = none)
    (hactive : s.phase.active = none) : RoutesKnown externals s := by
  refine ⟨fun hsome => absurd hroutes hsome, ?_⟩
  intro snapshot fingerprint hsome
  rw [hactive] at hsome
  cases hsome

/-- Running routes are known by their bytes and the last valid snapshot. -/
theorem routesKnown_running {externals : Externals} {s : State} {snapshot last : CentralSnapshot}
    {fingerprint : List UInt8} (hphase : s.phase = .running snapshot fingerprint)
    (hlast : s.lastValid = some last) (hsame : SameRoutes externals snapshot last)
    (hbytes : externals.toVec snapshot.configs = .ok fingerprint) : RoutesKnown externals s := by
  have hroutes : s.phase.routes = some snapshot := by rw [hphase]; rfl
  refine ⟨fun _ => ⟨snapshot, last, hroutes, hlast, hsame⟩, ?_⟩
  intro other bytes hother
  rw [hphase] at hother
  cases hother
  exact hbytes

/-- Undisturbed routes of the last valid snapshot are still its routes. -/
theorem Undisturbed.kept_iff {externals : Externals} {s next : State} (h : Undisturbed s next) :
    RoutesKept externals next ↔ RoutesKept externals s := by
  unfold RoutesKept
  rw [h.routes, h.lastValid]

/-- The fetch at the top of the loop keeps routes known. -/
theorem started_known (externals : Externals) (s : State)
    (outcome : Except AnyError CentralSnapshot) :
    RoutesKnown externals ((s.noted outcome).started externals outcome) := by
  cases outcome with
  | error error => exact routesKnown_of_none rfl rfl
  | ok snapshot =>
    simp only [State.started]
    split
    · exact routesKnown_of_none rfl rfl
    · next fingerprint hbytes =>
      exact routesKnown_running rfl rfl ⟨rfl, rfl⟩ (fingerprintOf_eq_ok.mp hbytes)

/-- The fetch that looks for changes keeps routes known. -/
theorem refreshed_known {externals : Externals} {s : State} {snapshot : CentralSnapshot}
    {fingerprint : List UInt8} (hs : RoutesKnown externals s)
    (hphase : s.phase = .refreshing snapshot fingerprint)
    (outcome : Except AnyError CentralSnapshot) :
    RoutesKnown externals
      ((s.noted outcome).refreshed externals snapshot fingerprint outcome) := by
  have hbytes := hs.bytes snapshot fingerprint (by rw [hphase]; rfl)
  cases outcome with
  | error error =>
    have hroutes : s.phase.routes = some snapshot := by rw [hphase]; rfl
    obtain ⟨found, last, hfound, hlast, hsame⟩ := hs.kept (by rw [hroutes]; simp)
    rw [hroutes] at hfound
    cases hfound
    exact routesKnown_running rfl hlast hsame hbytes
  | ok next =>
    simp only [State.refreshed]
    split
    · exact routesKnown_of_none rfl rfl
    · next hrevision =>
      split
      · exact routesKnown_of_none rfl rfl
      · next bytes hnext =>
        split
        · exact routesKnown_of_none rfl rfl
        · next hequal =>
          have hsame : SameRoutes externals snapshot next := by
            refine ⟨(not_not.mp hrevision).symm, ?_⟩
            rw [hbytes, fingerprintOf_eq_ok.mp hnext, not_not.mp hequal]
          exact routesKnown_running rfl rfl hsame hbytes

/-- Every step keeps routes known. -/
theorem step_known {externals : Externals} {bootstrap : CentralClientBootstrap} {s next : State}
    {event : Event} (hs : RoutesKnown externals s)
    (hstep : step externals bootstrap s event = some next) : RoutesKnown externals next := by
  cases step_moves hstep with
  | started answers hphase => exact started_known externals s _
  | refreshed answers hphase => exact refreshed_known hs hphase _
  | undisturbed h =>
    refine ⟨?_, fun snapshot fingerprint hpair => hs.bytes _ _ (h.active _ hpair)⟩
    intro hsome
    rw [h.routes] at hsome
    exact h.kept_iff.mpr (hs.kept hsome)

/-- Once a snapshot was applied, the fetch at the top of the loop succeeds. -/
def TopFetchSucceeds (externals : Externals) (bootstrap : CentralClientBootstrap) (s : State) :
    Event → Prop
  | .fetched answers => ∀ stopped, s.phase = .fetching stopped → s.appliedRevision ≠ none →
    ∃ snapshot, fetchCentralSnapshot externals bootstrap answers = .ok snapshot
  | _ => True

/-- A valid fetch at the top of the loop promises nothing about an
unavailable control plane. -/
theorem started_available (externals : Externals) (s : State) (snapshot : CentralSnapshot) :
    ((s.noted (.ok snapshot)).started externals (.ok snapshot)).unavailable = false := by
  simp only [State.started]
  split <;> rfl

/-- Neither does a valid fetch that looks for changes. -/
theorem refreshed_available (externals : Externals) (s : State) (snapshot next : CentralSnapshot)
    (fingerprint : List UInt8) :
    ((s.noted (.ok next)).refreshed externals snapshot fingerprint (.ok next)).unavailable =
      false := by
  simp only [State.refreshed]
  split
  · rfl
  · split
    · rfl
    · split <;> rfl

/-- Every step whose top fetch succeeds retains the last valid configuration. -/
theorem step_retained {externals : Externals} {bootstrap : CentralClientBootstrap}
    {s next : State} {event : Event} (hknown : RoutesKnown externals s)
    (hs : LastValidRetained externals s)
    (hguard : TopFetchSucceeds externals bootstrap s event)
    (hstep : step externals bootstrap s event = some next) :
    LastValidRetained externals next := by
  have hafter := step_known hknown hstep
  cases step_moves hstep with
  | started answers hphase =>
    cases houtcome : fetchCentralSnapshot externals bootstrap answers with
    | error error =>
      intro hrevision
      obtain ⟨snapshot, hok⟩ := hguard _ hphase hrevision
      rw [houtcome] at hok
      cases hok
    | ok snapshot =>
      intro _ hunavailable
      rw [started_available] at hunavailable
      cases hunavailable
  | @refreshed answers snapshot fingerprint hphase =>
    cases houtcome : fetchCentralSnapshot externals bootstrap answers with
    | error error =>
      intro _ _
      rw [houtcome] at hafter
      exact hafter.kept (Option.some_ne_none snapshot)
    | ok found =>
      intro _ hunavailable
      rw [refreshed_available] at hunavailable
      cases hunavailable
  | undisturbed h =>
    intro hrevision hunavailable
    rw [h.appliedRevision] at hrevision
    rw [h.unavailable] at hunavailable
    exact h.kept_iff.mpr (hs hrevision hunavailable)

/-- A failed fetch at the top of the loop leaves an applied client without
routes. -/
theorem failed_top_fetch_loses_routes {externals : Externals} {bootstrap : CentralClientBootstrap}
    {s : State} {event : Event} (hfail : ¬ TopFetchSucceeds externals bootstrap s event) :
    ∃ next, step externals bootstrap s event = some next ∧
      ¬ LastValidRetained externals next := by
  cases event with
  | fetched answers =>
    simp only [TopFetchSucceeds, not_forall] at hfail
    obtain ⟨stopped, hphase, hrevision, hnone⟩ := hfail
    cases houtcome : fetchCentralSnapshot externals bootstrap answers with
    | ok snapshot => exact absurd ⟨snapshot, houtcome⟩ hnone
    | error error =>
      refine ⟨(s.noted (.error error)).started externals (.error error), ?_, ?_⟩
      · simp only [step, hphase, houtcome]
      · intro hretained
        obtain ⟨snapshot, last, hroutes, -⟩ := hretained hrevision rfl
        cases hroutes
  | slept => exact absurd trivial hfail
  | updated => exact absurd trivial hfail
  | runtimeStopped => exact absurd trivial hfail

/-- Along every run of the loop the last valid configuration is retained
exactly when no fetch at the top of the loop fails after a snapshot was
applied. -/
theorem last_valid_retained_iff (externals : Externals) (bootstrap : CentralClientBootstrap)
    (events : List Event) :
    (∀ s, Visits (step externals bootstrap) initial events s → LastValidRetained externals s) ↔
      Guarded (step externals bootstrap) (TopFetchSucceeds externals bootstrap) initial
        events := by
  refine guarded_iff_visits ?_ ?_ ?_ (routesKnown_initial externals) ?_
  · exact fun s event next hs hstep => step_known hs hstep
  · exact fun s event next hknown hs hguard hstep => step_retained hknown hs hguard hstep
  · exact fun s event _ hfail => failed_top_fetch_loses_routes hfail
  · intro hrevision
    exact absurd rfl hrevision

/-- A managed client. -/
def sampleBootstrap : CentralClientBootstrap where
  controlPlaneUrl := "https://p"
  username := some "u"
  clientSecretFile := some "f"

/-- A route as the control plane writes it. -/
def sampleConfig : ClientConfig where
  clientId := "c"
  natsUrl := "n"
  natsTokenFile := none
  oauth := some ⟨"t", "p", "u", "s", "w", "h", [], 60⟩
  acme := none
  authorization := none
  tcpPassthrough := true
  relayMode := .auto
  requestSubject := defaultRequestSubject
  claimAckTimeoutMs := defaultClaimAckTimeoutMs
  backendRules := [⟨"h", none, false, true, "b", none, none, none⟩]

/-- The document of the route. -/
def sampleToml : String :=
  "client_id='c'\nnats_url='n'\n[[backend_rules]]\npattern='h'\nbackend_addr='b'\n" ++
  "[oauth]\ntoken_url='t'\nprovider_client_id='p'\nusername='u'\n" ++
  "client_secret_file='s'\ncontrol_plane_url='w'\nhostname='h'\nscopes=[]\n"

/-- The encoding of the route with its credentials. -/
def sampleJson : String :=
  "[\x7b\"client_id\":\"c\",\"nats_url\":\"n\",\"nats_token_file\":null,\"oauth\":" ++
  "\x7b\"token_url\":\"t\",\"provider_client_id\":\"p\",\"username\":\"u\"," ++
  "\"client_secret_file\":\"f\",\"control_plane_url\":\"https://p\",\"hostname\":\"h\"," ++
  "\"scopes\":[],\"renew_before_seconds\":60\x7d,\"acme\":null,\"authorization\":null," ++
  "\"tcp_passthrough\":true,\"relay_mode\":\"auto\"," ++
  "\"request_subject\":\"tunnel.connect.request\",\"claim_ack_timeout_ms\":1500," ++
  "\"backend_rules\":[\x7b\"pattern\":\"h\",\"path_prefix\":null,\"strip_path_prefix\":false," ++
  "\"proxy_headers\":true,\"backend_addr\":\"b\",\"backend_host\":null," ++
  "\"http_backend_addr\":null,\"authorization\":null\x7d]\x7d]"

/-- The libraries at the sample document. -/
def sampleExternals : Externals where
  fromToml raw := if raw = sampleToml then .ok (.legacy sampleConfig) else .error ["TOML"]
  toVec _ := .ok sampleJson.toUTF8.toList

/-- The control plane answers with the sample document. -/
def answerAt (revision : String) : Answers where
  settings := .ok ⟨"t", "p", []⟩
  token := .ok "k"
  config := .answered ⟨sampleToml, some revision, "u"⟩

/-- The control plane cannot be reached. -/
def noAnswer : Answers where
  settings := .error ["connect"]
  token := .error ["connect"]
  config := .unsent ["connect"]

/-- A new revision is announced and seen, and then the control plane fails. -/
def lostReplacement : List Event :=
  [.fetched (answerAt "1"), .updated, .fetched (answerAt "2"), .fetched noAnswer]

/-- The client has applied a valid configuration, the control plane is
unavailable, and no routes are left. -/
theorem replacement_loses_routes : ∃ s,
    run (step sampleExternals sampleBootstrap) initial lostReplacement = some s ∧
      s.appliedRevision = some "1" ∧ s.unavailable = true ∧ s.phase.routes = none ∧
      ¬ LastValidRetained sampleExternals s := by
  have hfacts : (run (step sampleExternals sampleBootstrap) initial lostReplacement).map
      (fun s => (s.appliedRevision, s.unavailable, s.phase.routes)) =
        some (some "1", true, none) := by decide +kernel
  obtain ⟨s, hrun, hs⟩ := Option.map_eq_some_iff.mp hfacts
  simp only [Prod.mk.injEq] at hs
  obtain ⟨hrevision, hunavailable, hroutes⟩ := hs
  refine ⟨s, hrun, hrevision, hunavailable, hroutes, ?_⟩
  intro hretained
  obtain ⟨snapshot, last, hsome, -⟩ := hretained (by simp [hrevision]) hunavailable
  rw [hroutes] at hsome
  cases hsome

end LfpPipe.CentralConfig
