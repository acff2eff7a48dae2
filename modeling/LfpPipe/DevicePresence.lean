import LfpPipe.NewestRecords
import LfpPipe.TunnelTickets

/-!
# Presence of managed devices

Translated from `deviceRegistry` of `controlplane/internal/httpapi/server.go`.
A replica records the presence of a device when the device calls it, and
announces it to the other replicas, which record what they receive. A stored
entry is replaced only by a strictly newer one. Instants are nanoseconds
since the Unix epoch, compared by the wall clock as messages carry it; a
channel of capacity one is the flag that says whether a signal waits in it.
-/

namespace LfpPipe.DevicePresence

open GoText OwnedTables NewestRecords TunnelTickets

/-- Presence and configuration state of one device. -/
structure DeviceState where
  /-- User name of the service account. -/
  username : String
  /-- Display name of the device. -/
  name : String
  /-- Version of the client. -/
  version : String
  /-- Platform of the device. -/
  platform : String
  /-- Revision that the device reports to run. -/
  appliedConfigRevision : String
  /-- Revision of the stored configuration. -/
  desiredConfigRevision : String
  /-- Whether the two are the same. -/
  configSynced : Bool
  /-- Instant of the last sign of life. -/
  lastSeen : ℤ
  /-- Whether that was recent. -/
  online : Bool
  /-- Whether a sign of life was ever seen. -/
  known : Bool
  deriving DecidableEq, Repr

/-- The zero value of an instant: the first of January of the year one. -/
def zeroTime : ℤ := -62135596800 * second

/-- The state of a device of which nothing is known. -/
def DeviceState.zero : DeviceState where
  username := ""
  name := ""
  version := ""
  platform := ""
  appliedConfigRevision := ""
  desiredConfigRevision := ""
  configSynced := false
  lastSeen := zeroTime
  online := false
  known := false

/-- Mark a state as known. -/
def DeviceState.setKnown (device : DeviceState) : DeviceState := { device with known := true }

/-- The signal channels of some listeners. -/
abbrev Channels := List (ℕ × Bool)

/-- Leave a signal in every channel that has none. -/
def signal (channels : Channels) : Channels := channels.map fun channel => (channel.1, true)

/-- The devices and the listeners of one replica. -/
structure Registry where
  /-- The devices by user name. -/
  devices : Table String DeviceState
  /-- Clients waiting for their configuration to change. -/
  subscribers : Table String Channels
  /-- Consoles waiting for presence to change. -/
  presence : Channels

/-- The registry of a replica that has just started. -/
def newDeviceRegistry : Registry := ⟨∅, ∅, []⟩

/-- Store a state and wake the consoles. -/
def Registry.store (registry : Registry) (device : DeviceState) : Registry :=
  { registry with
    devices := registry.devices.insert device.username device.setKnown
    presence := signal registry.presence }

/-- Record a state unless the stored one is at least as new. -/
def Registry.record (registry : Registry) (device : DeviceState) : Registry :=
  match registry.devices.lookup device.username with
  | none => registry.store device
  | some current =>
    if current.lastSeen < device.lastSeen then registry.store device else registry

/-- Record a sign of life that this replica sees itself; the result is what
it announces. -/
def Registry.touch (registry : Registry) (device : DeviceState) (now : ℤ) :
    Registry × DeviceState :=
  let device := { device with lastSeen := now, online := true, known := true }
  (registry.record device, device)

/-- The states of the registry; a map is visited in any order. -/
def Registry.list (registry : Registry) : List DeviceState :=
  registry.devices.entries.map fun entry => entry.2

/-- Wake a client whose configuration has changed, and the consoles. -/
def Registry.notify (registry : Registry) (username : String) : Registry :=
  { registry with
    subscribers := match registry.subscribers.lookup username with
      | none => registry.subscribers
      | some channels => registry.subscribers.insert username (signal channels)
    presence := signal registry.presence }

/-- The channels of the streams of a client. -/
def Registry.channels (registry : Registry) (username : String) : Channels :=
  (registry.subscribers.lookup username).getD []

/-- Give a stream of a client a channel of its own. -/
def Registry.subscribe (registry : Registry) (username : String) (channel : ℕ) : Registry :=
  { registry with
    subscribers := registry.subscribers.insert username
      ((channel, false) :: registry.channels username) }

/-- Forget the channel of a stream that has ended. -/
def Registry.unsubscribe (registry : Registry) (username : String) (channel : ℕ) : Registry :=
  { registry with
    subscribers := registry.subscribers.insert username
      ((registry.channels username).filter fun other => other.1 != channel) }

/-- The handler of a stream takes the signal out of its channel. -/
def Registry.take (registry : Registry) (username : String) (channel : ℕ) : Registry :=
  { registry with
    subscribers := registry.subscribers.insert username
      ((registry.channels username).map fun other =>
        if other.1 = channel then (channel, false) else other) }

/-- Another replica has announced that the configuration of a client changed. -/
def Registry.configChanged (registry : Registry) (message : String) : Registry :=
  if trimSpace message != "" then registry.notify (trimSpace message) else registry

/-- The headers with which a device describes itself. -/
structure DeviceHeaders where
  /-- Display name of the device. -/
  device : String
  /-- Version of the client. -/
  version : String
  /-- Platform of the device. -/
  platform : String
  /-- Revision that the device runs. -/
  configRevision : String
  deriving DecidableEq, Repr

/-- A device calls this replica at some time. -/
def Registry.recordDevicePresence (registry : Registry) (username : String)
    (headers : DeviceHeaders) (now : ℤ) : Registry × DeviceState :=
  registry.touch
    { DeviceState.zero with
      username := username
      name := headers.device
      version := headers.version
      platform := headers.platform
      appliedConfigRevision := headers.configRevision } now

/-- A message of another replica arrives; it is dropped unless it decodes and
has a user name and a time. -/
def Registry.receive (registry : Registry) (message : Option DeviceState) : Registry :=
  match message with
  | none => registry
  | some device =>
    if device.username != "" && device.lastSeen != zeroTime then registry.record device
    else registry

/-- The recorded devices are the newest of each user name. -/
theorem devices_record (registry : Registry) (device : DeviceState) :
    (registry.record device).devices =
      keepNewest DeviceState.username DeviceState.lastSeen DeviceState.setKnown registry.devices
        device := by
  rw [Registry.record, keepNewest]
  cases registry.devices.lookup device.username with
  | none => rfl
  | some current =>
    dsimp only
    split <;> rfl

/-- Recording message after message is the same for the whole sequence. -/
theorem devices_foldl_record (messages : List DeviceState) (registry : Registry) :
    (messages.foldl Registry.record registry).devices =
      messages.foldl (keepNewest DeviceState.username DeviceState.lastSeen DeviceState.setKnown)
        registry.devices := by
  induction messages generalizing registry with
  | nil => rfl
  | cons message messages ih => rw [List.foldl_cons, ih, devices_record, List.foldl_cons]

/-- The message of a user name that no message of the set is newer than. -/
abbrev NewestMessage (messages : Finset DeviceState) (username : String) (message : DeviceState) :
    Prop :=
  IsNewest DeviceState.username DeviceState.lastSeen (· ∈ messages) username message

/-- After the messages of a set, in any order and with any repetitions, the
registry holds the newest message of every user name and nothing else. -/
theorem lookup_foldl_record {messages : Finset DeviceState}
    (hmessages : Identified DeviceState.username DeviceState.lastSeen (· ∈ messages))
    {order : List DeviceState} (horder : ∀ message, message ∈ order ↔ message ∈ messages)
    {registry : Registry} (hempty : registry.devices = ∅) (username : String)
    (device : DeviceState) :
    (order.foldl Registry.record registry).devices.lookup username = some device ↔
      ∃ message, NewestMessage messages username message ∧ device = message.setKnown := by
  have hstart : HoldsNewest DeviceState.username DeviceState.lastSeen DeviceState.setKnown
      (fun _ => False) registry.devices := by
    rw [hempty]
    exact holdsNewest_empty
  have hmark : ∀ message : DeviceState, message.setKnown.lastSeen = message.lastSeen :=
    fun _ => rfl
  have hholds : HoldsNewest DeviceState.username DeviceState.lastSeen DeviceState.setKnown
      (fun message => False ∨ message ∈ order)
      (order.foldl (keepNewest DeviceState.username DeviceState.lastSeen DeviceState.setKnown)
        registry.devices) := holdsNewest_foldl hmark hstart
  have hseen : (fun message => False ∨ message ∈ order) = fun message => message ∈ messages := by
    funext message
    rw [false_or, horder]
  rw [hseen] at hholds
  rw [devices_foldl_record]
  exact hholds.lookup_eq_some_iff hmessages

/-- Two replicas that have recorded the messages of the same set hold the same
devices, whatever the orders and repetitions were: for every user name the
message with the greatest time, marked as known. -/
theorem presence_converges {messages : Finset DeviceState}
    (hmessages : ∀ left ∈ messages, ∀ right ∈ messages, left.username = right.username →
      left.lastSeen = right.lastSeen → left = right)
    {left right : List DeviceState} (hleft : ∀ message, message ∈ left ↔ message ∈ messages)
    (hright : ∀ message, message ∈ right ↔ message ∈ messages) {here there : Registry}
    (hhere : here.devices = ∅) (hthere : there.devices = ∅) (username : String) :
    (left.foldl Registry.record here).devices.lookup username =
        (right.foldl Registry.record there).devices.lookup username ∧
      ∀ device, (left.foldl Registry.record here).devices.lookup username = some device ↔
        ∃ message ∈ messages, message.username = username ∧
          (∀ other ∈ messages, other.username = username → other.lastSeen ≤ message.lastSeen) ∧
          device = { message with known := true } := by
  have hidentified : Identified DeviceState.username DeviceState.lastSeen (· ∈ messages) :=
    fun first next hf hn => hmessages first hf next hn
  have hholds := lookup_foldl_record hidentified hleft hhere username
  have hother := lookup_foldl_record hidentified hright hthere username
  constructor
  · apply Option.ext
    intro device
    rw [hholds device, hother device]
  · intro device
    rw [hholds device]
    constructor
    · rintro ⟨message, hnewest, rfl⟩
      exact ⟨message, hnewest.mem, hnewest.key_eq, hnewest.newest, rfl⟩
    · rintro ⟨message, hmem, hname, hnewest, rfl⟩
      exact ⟨message, ⟨hmem, hname, hnewest⟩, rfl⟩

/-- An early and a late sign of life of one device. -/
def seenAt (time : ℤ) : DeviceState :=
  { DeviceState.zero with username := "client", lastSeen := time }

/-- The late one is kept when it comes first and the early one is repeated. -/
theorem presence_converges_client :
    ([seenAt 2, seenAt 1, seenAt 1].foldl Registry.record newDeviceRegistry).devices.lookup
        "client" =
      ([seenAt 1, seenAt 2].foldl Registry.record newDeviceRegistry).devices.lookup "client" := by
  have hmessages : ∀ left ∈ ({seenAt 1, seenAt 2} : Finset DeviceState),
      ∀ right ∈ ({seenAt 1, seenAt 2} : Finset DeviceState), left.username = right.username →
        left.lastSeen = right.lastSeen → left = right := by decide
  have hleft : ∀ message, message ∈ [seenAt 2, seenAt 1, seenAt 1] ↔
      message ∈ ({seenAt 1, seenAt 2} : Finset DeviceState) := by
    intro message
    simp only [List.mem_cons, List.not_mem_nil, or_false, Finset.mem_insert, Finset.mem_singleton]
    tauto
  have hright : ∀ message, message ∈ [seenAt 1, seenAt 2] ↔
      message ∈ ({seenAt 1, seenAt 2} : Finset DeviceState) := by
    intro message
    simp
  exact (presence_converges hmessages hleft hright rfl rfl "client").1

end LfpPipe.DevicePresence
