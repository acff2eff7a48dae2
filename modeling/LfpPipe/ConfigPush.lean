import LfpPipe.CentralConfig
import LfpPipe.ServicePrincipals

/-!
# Configuration changes reach their client

A stored configuration is announced on the replica that stored it and, over
the message server, on every other one. The replica that a client streams
from turns the announcement into a signal, the signal into an event of the
stream, the client queues the event, and its loop fetches again. A signal
that waits already takes in later ones, several requests store at once, the
client may be fetching while it is told of another change, and streams,
messages and fetches fail. A change that is stored after the stream began is
still not missed.
-/

namespace LfpPipe.ConfigPush

open GoText OwnedTables TransitionRuns DevicePresence ServicePrincipals
open CentralConfig (Externals CentralClientBootstrap Answers CentralResponse CentralSnapshot
  RoutesKnown fetchCentralSnapshot)

/-- The configuration of an account. -/
structure Account where
  /-- How often it was stored. -/
  version : ℕ
  /-- The document. -/
  document : String
  deriving DecidableEq

/-- A request that has stored a document and announces it. -/
structure Announcement where
  /-- The replica that serves the request. -/
  replica : ℕ
  /-- The account. -/
  username : String
  /-- The version that it has stored. -/
  version : ℕ
  /-- The streams of this replica have been told. -/
  notified : Bool

/-- An announcement on its way to one replica. The message itself names the account
only. -/
structure Message where
  /-- The replica that it goes to. -/
  replica : ℕ
  /-- The account. -/
  username : String
  /-- The version that was stored. -/
  version : ℕ
  deriving DecidableEq

/-- The messages of a request, one to each replica. -/
def Announcement.messages (count : ℕ) (announcement : Announcement) : List Message :=
  (List.range count).map fun replica => ⟨replica, announcement.username, announcement.version⟩

/-- The event stream of the client. -/
structure Stream where
  /-- The replica that serves it. -/
  replica : ℕ
  /-- Its channel there. -/
  channel : ℕ
  /-- The version of the account when the channel was made. -/
  since : ℕ
  /-- Events that the client has not read. -/
  events : ℕ
  deriving DecidableEq

/-- Some replicas, the accounts, and one client. -/
structure System where
  /-- The accounts by user name. -/
  accounts : String → Account
  /-- The registries of the replicas. -/
  replicas : ℕ → Registry
  /-- The requests that have still to announce a change. -/
  announcements : List Announcement
  /-- Announcements on their way. -/
  messages : List Message
  /-- Announcements that were lost, or never made because a replica stopped. -/
  lost : List Message
  /-- The loop of the client. -/
  client : CentralConfig.State
  /-- What the control plane has read for the fetch of the client. -/
  reading : Option Account
  /-- What the control plane had stored at the last fetch that has ended. -/
  attempted : Account
  /-- Notifications that the loop has not received. -/
  queue : ℕ
  /-- The stream of the client. -/
  stream : Option Stream
  /-- The next channel. -/
  nextChannel : ℕ

/-- Documents are stored, and the client starts. -/
def System.initial (documents : String → String) : System where
  accounts username := ⟨1, documents username⟩
  replicas _ := newDeviceRegistry
  announcements := []
  messages := []
  lost := []
  client := CentralConfig.initial
  reading := none
  attempted := ⟨0, ""⟩
  queue := 0
  stream := none
  nextChannel := 0

/-- What happens next. -/
inductive Event where
  /-- A replica stores a document. -/
  | store (replica : ℕ) (username document : String)
  /-- A request tells the streams of its replica. -/
  | notify (index : ℕ)
  /-- A request tells the other replicas. -/
  | publish (index : ℕ)
  /-- A request ends without having told everyone. -/
  | fail (index : ℕ)
  /-- An announcement arrives. -/
  | deliver (index : ℕ)
  /-- An announcement is lost. -/
  | drop (index : ℕ)
  /-- Someone else's stream begins. -/
  | subscribe (replica : ℕ) (username : String)
  /-- Someone else's stream ends. -/
  | unsubscribe (replica : ℕ) (username : String) (channel : ℕ)
  /-- Someone else's stream takes its signal. -/
  | take (replica : ℕ) (username : String) (channel : ℕ)
  /-- The stream of the client begins. -/
  | connect (replica : ℕ)
  /-- The stream of the client takes its signal and writes an event. -/
  | write
  /-- The client reads an event and queues a notification. -/
  | read
  /-- The stream of the client breaks. -/
  | disconnect
  /-- The client's timer queues a notification. -/
  | poll
  /-- The control plane reads the account for the fetch of the client. -/
  | serve
  /-- The loop of the client goes on. -/
  | loop (event : CentralConfig.Event)

/-- Change the registry of one replica. -/
def System.onReplica (system : System) (replica : ℕ) (change : Registry → Registry) : System :=
  { system with
    replicas := Function.update system.replicas replica (change (system.replicas replica)) }

/-- The loop goes on; without running routes there is no stream and no queue. -/
def System.withClient (system : System) (client : CentralConfig.State) : System :=
  match client.phase.active with
  | some _ => { system with client := client }
  | none => { system with client := client, stream := none, queue := 0 }

/-- The stream of the client uses this channel. -/
def System.streams (system : System) (replica channel : ℕ) : Bool :=
  system.stream.any fun stream => stream.replica == replica && stream.channel == channel

section

variable (count : ℕ) (username : String) (sha256 : List UInt8 → List UInt8)
  (externals : Externals) (bootstrap : CentralClientBootstrap)

/-- A fetch is answered with what the control plane has read, or it fails. -/
def System.genuine (system : System) (answers : Answers) : Bool :=
  match answers.config with
  | .answered response =>
    system.reading.any fun account => account.document != "" &&
      response == ⟨account.document, some (configRevision sha256 account.document), username⟩
  | _ => true

/-- One step; an event that cannot happen is refused. There are as many
replicas as `count` says, and the observed client signs in as `username`. -/
def step (system : System) : Event → Option System
  | .store replica name document =>
    if replica < count && trimSpace document != "" then
      some { system with
        accounts := Function.update system.accounts name
          ⟨(system.accounts name).version + 1, document⟩
        announcements := system.announcements ++
          [⟨replica, name, (system.accounts name).version + 1, false⟩] }
    else none
  | .notify index =>
    system.announcements[index]?.bind fun announcement =>
      if announcement.notified then none
      else some { system.onReplica announcement.replica
          (Registry.notify · announcement.username) with
        announcements := system.announcements.set index { announcement with notified := true } }
  | .publish index =>
    system.announcements[index]?.bind fun announcement =>
      if announcement.notified then
        some { system with
          announcements := system.announcements.eraseIdx index
          messages := system.messages ++ announcement.messages count }
      else none
  | .fail index =>
    system.announcements[index]?.map fun announcement =>
      { system with
        announcements := system.announcements.eraseIdx index
        lost := system.lost ++ announcement.messages count }
  | .deliver index =>
    system.messages[index]?.map fun message =>
      { system.onReplica message.replica (Registry.configChanged · message.username) with
        messages := system.messages.eraseIdx index }
  | .drop index =>
    system.messages[index]?.map fun message =>
      { system with
        messages := system.messages.eraseIdx index
        lost := system.lost ++ [message] }
  | .subscribe replica name =>
    some { system.onReplica replica (Registry.subscribe · name system.nextChannel) with
      nextChannel := system.nextChannel + 1 }
  | .unsubscribe replica name channel =>
    if system.streams replica channel then none
    else some (system.onReplica replica (Registry.unsubscribe · name channel))
  | .take replica name channel =>
    if system.streams replica channel then none
    else some (system.onReplica replica (Registry.take · name channel))
  | .connect replica =>
    if replica < count && system.stream.isNone && system.client.phase.active.isSome then
      some { system.onReplica replica (Registry.subscribe · username system.nextChannel) with
        stream := some ⟨replica, system.nextChannel, (system.accounts username).version, 0⟩
        nextChannel := system.nextChannel + 1 }
    else none
  | .write =>
    system.stream.bind fun stream =>
      if ((system.replicas stream.replica).channels username).contains (stream.channel, true) then
        some { system.onReplica stream.replica (Registry.take · username stream.channel) with
          stream := some { stream with events := stream.events + 1 } }
      else none
  | .read =>
    system.stream.bind fun stream =>
      if 0 < stream.events ∧ system.queue < 4 then
        some { system with
          stream := some { stream with events := stream.events - 1 }
          queue := system.queue + 1 }
      else none
  | .disconnect => some { system with stream := none }
  | .poll =>
    if system.client.phase.active.isSome && system.queue < 4 then
      some { system with queue := system.queue + 1 }
    else none
  | .serve =>
    match system.reading, system.client.phase with
    | none, .fetching _ => some { system with reading := some (system.accounts username) }
    | none, .refreshing _ _ => some { system with reading := some (system.accounts username) }
    | _, _ => none
  | .loop .updated =>
    if 0 < system.queue then
      (CentralConfig.step externals bootstrap system.client .updated).map fun client =>
        { system.withClient client with queue := system.queue - 1 }
    else none
  | .loop (.fetched answers) =>
    if system.genuine username sha256 answers then
      (CentralConfig.step externals bootstrap system.client (.fetched answers)).map fun client =>
        { system.withClient client with
          reading := none
          attempted := system.reading.getD (system.accounts username) }
    else none
  | .loop event =>
    (CentralConfig.step externals bootstrap system.client event).map system.withClient

end

/-- The announcement of the last change of an account to a replica. -/
def System.lastChange (system : System) (username : String) (replica : ℕ) : Message :=
  ⟨replica, username, (system.accounts username).version⟩

/-- The last change is on its way to the loop of the client. -/
inductive Pending (username : String) (system : System) (stream : Stream) : Prop where
  /-- A request has still to announce it. -/
  | announcement (announcement : Announcement) (mem : announcement ∈ system.announcements)
    (same : announcement.username = username)
    (last : announcement.version = (system.accounts username).version)
  /-- The announcement is on its way to the replica of the stream. -/
  | message (mem : system.lastChange username stream.replica ∈ system.messages)
  /-- A signal waits for the handler of the stream. -/
  | signal (mem : (stream.channel, true) ∈ (system.replicas stream.replica).channels username)
  /-- The stream has an unread event. -/
  | event (pos : 0 < stream.events)
  /-- The loop has a notification to receive. -/
  | queued (pos : 0 < system.queue)
  /-- The control plane has still to read the account for the fetch. -/
  | fetch (snapshot : CentralSnapshot) (fingerprint : List UInt8)
    (phase : system.client.phase = .refreshing snapshot fingerprint)
    (reading : system.reading = none)

/-- What a change of a registry leaves of one channel. -/
structure Keeps (username : String) (channel : ℕ) (before after : Registry) : Prop where
  /-- A channel stays registered. -/
  registered : (∃ waiting, (channel, waiting) ∈ before.channels username) →
    ∃ waiting, (channel, waiting) ∈ after.channels username
  /-- A waiting signal stays. -/
  signalled : (channel, true) ∈ before.channels username →
    (channel, true) ∈ after.channels username

section

variable {username : String} {channel : ℕ}

/-- The channels of a client after those of one were replaced. -/
theorem channels_insert (registry : Registry) (name username : String) (channels : Channels) :
    Registry.channels { registry with
        subscribers := registry.subscribers.insert name channels } username =
      if username = name then channels else registry.channels username := by
  rw [Registry.channels]
  split
  · rename_i h
    rw [h, AList.lookup_insert]
    rfl
  · rename_i h
    rw [AList.lookup_insert_ne h]
    rfl

/-- Telling a client signals each of its channels. -/
theorem channels_notify (registry : Registry) (name username : String) :
    (registry.notify name).channels username =
      if username = name then signal (registry.channels username)
      else registry.channels username := by
  cases h : registry.subscribers.lookup name with
  | none =>
    have hsame : (registry.notify name).channels username = registry.channels username := by
      rw [Registry.notify, Registry.channels, h]
      rfl
    rw [hsame]
    split
    · rename_i heq
      rw [heq, Registry.channels, h]
      rfl
    · rfl
  | some channels =>
    have hsame : (registry.notify name).channels username =
        Registry.channels { registry with
          subscribers := registry.subscribers.insert name (signal channels) } username := by
      rw [Registry.notify, h]
      rfl
    rw [hsame, channels_insert]
    split
    · rename_i heq
      rw [heq, Registry.channels, h]
      rfl
    · rfl

/-- Signalled channels are the registered ones. -/
theorem mem_signal {channels : Channels} :
    (channel, true) ∈ signal channels ↔ ∃ waiting, (channel, waiting) ∈ channels := by
  rw [signal, List.mem_map]
  constructor
  · rintro ⟨⟨other, waiting⟩, hm, heq⟩
    cases heq
    exact ⟨waiting, hm⟩
  · rintro ⟨waiting, hm⟩
    exact ⟨(channel, waiting), hm, rfl⟩

/-- Nothing happens to the registry. -/
theorem Keeps.refl (registry : Registry) : Keeps username channel registry registry :=
  ⟨id, id⟩

/-- A replacement of the channels of one client by more. -/
theorem keeps_of_channels {before after : Registry} {name : String} {channels : Channels}
    (h : after.channels username = if username = name then channels else before.channels username)
    (hregistered : username = name → (∃ waiting, (channel, waiting) ∈ before.channels username) →
      ∃ waiting, (channel, waiting) ∈ channels)
    (hsignalled : username = name → (channel, true) ∈ before.channels username →
      (channel, true) ∈ channels) : Keeps username channel before after := by
  by_cases hname : username = name
  · rw [if_pos hname] at h
    rw [← h] at hregistered hsignalled
    exact ⟨hregistered hname, hsignalled hname⟩
  · rw [if_neg hname] at h
    constructor
    · rw [h]
      exact id
    · rw [h]
      exact id

/-- Announcing a change removes nothing. -/
theorem keeps_notify (registry : Registry) (name : String) :
    Keeps username channel registry (registry.notify name) := by
  refine keeps_of_channels (channels_notify registry name username) ?_ ?_
  · rintro rfl hregistered
    exact ⟨true, mem_signal.mpr hregistered⟩
  · rintro rfl hsignalled
    exact mem_signal.mpr ⟨true, hsignalled⟩

/-- Neither does the announcement of another replica. -/
theorem keeps_configChanged (registry : Registry) (message : String) :
    Keeps username channel registry (registry.configChanged message) := by
  rw [Registry.configChanged]
  split
  · exact keeps_notify registry _
  · exact Keeps.refl registry

/-- Another channel is added. -/
theorem keeps_subscribe (registry : Registry) (name : String) (other : ℕ) :
    Keeps username channel registry (registry.subscribe name other) := by
  refine keeps_of_channels (channels_insert registry name username _) ?_ ?_
  · rintro rfl ⟨waiting, hm⟩
    exact ⟨waiting, List.mem_cons_of_mem _ hm⟩
  · rintro rfl hm
    exact List.mem_cons_of_mem _ hm

/-- Another channel is removed. -/
theorem keeps_unsubscribe (registry : Registry) (name : String) {other : ℕ}
    (hne : channel ≠ other) :
    Keeps username channel registry (registry.unsubscribe name other) := by
  have hkept : ∀ waiting, (channel, waiting) ∈ registry.channels username →
      (channel, waiting) ∈ (registry.channels username).filter fun found => found.1 != other :=
    fun waiting hm => List.mem_filter.mpr ⟨hm, bne_iff_ne.mpr hne⟩
  refine keeps_of_channels (channels_insert registry name username _) ?_ ?_
  · rintro rfl ⟨waiting, hm⟩
    exact ⟨waiting, hkept waiting hm⟩
  · rintro rfl hm
    exact hkept true hm

/-- The signal of another channel is taken. -/
theorem keeps_take (registry : Registry) (name : String) {other : ℕ} (hne : channel ≠ other) :
    Keeps username channel registry (registry.take name other) := by
  have hkept : ∀ waiting, (channel, waiting) ∈ registry.channels username →
      (channel, waiting) ∈ (registry.channels username).map fun found =>
        if found.1 = other then (other, false) else found :=
    fun waiting hm => List.mem_map.mpr ⟨(channel, waiting), hm, if_neg hne⟩
  refine keeps_of_channels (channels_insert registry name username _) ?_ ?_
  · rintro rfl ⟨waiting, hm⟩
    exact ⟨waiting, hkept waiting hm⟩
  · rintro rfl hm
    exact hkept true hm

/-- A stream that takes its own signal stays registered. -/
theorem registered_take {registry : Registry}
    (h : ∃ waiting, (channel, waiting) ∈ registry.channels username) :
    ∃ waiting, (channel, waiting) ∈ (registry.take username channel).channels username := by
  obtain ⟨waiting, hm⟩ := h
  refine ⟨false, ?_⟩
  rw [Registry.take, channels_insert, if_pos rfl]
  exact List.mem_map.mpr ⟨(channel, waiting), hm, if_pos rfl⟩

/-- The announcement of a change signals the streams of the client. -/
theorem signalled_configChanged {registry : Registry} (htrim : trimSpace username = username)
    (hne : username ≠ "") (h : ∃ waiting, (channel, waiting) ∈ registry.channels username) :
    (channel, true) ∈ (registry.configChanged username).channels username := by
  rw [Registry.configChanged, htrim, if_pos (bne_iff_ne.mpr hne), channels_notify, if_pos rfl]
  exact mem_signal.mpr h

end

/-- An earlier state of an account, or the same one. -/
def Past (earlier later : Account) : Prop := earlier.version < later.version ∨ earlier = later

/-- The past has a version that is at most the present one. -/
theorem Past.le {earlier later : Account} (h : Past earlier later) :
    earlier.version ≤ later.version := by
  rcases h with hlt | rfl
  · exact le_of_lt hlt
  · exact le_refl _

/-- The past of the past is past. -/
theorem Past.trans {earlier middle later : Account} (h : Past earlier middle)
    (hlater : Past middle later) : Past earlier later := by
  rcases h with hlt | rfl
  · exact Or.inl (lt_of_lt_of_le hlt hlater.le)
  · exact hlater

/-- The last change of an account was stored before the stream began, was
there for a fetch that has ended or has been read for one, was lost, or is
pending. -/
inductive Noticed (username : String) (system : System) (stream : Stream) : Prop where
  /-- The stream began later. -/
  | before (h : (system.accounts username).version ≤ stream.since)
  /-- The last fetch ended later. -/
  | attempted (h : (system.accounts username).version ≤ system.attempted.version)
  /-- The control plane has read it. -/
  | read (account : Account) (reading : system.reading = some account)
    (h : (system.accounts username).version ≤ account.version)
  /-- Its announcement to the replica of the stream was lost. -/
  | lost (h : system.lastChange username stream.replica ∈ system.lost)
  /-- It is on its way. -/
  | pending (h : Pending username system stream)

/-- What is known of the stream of the client. -/
structure StreamKnown (count : ℕ) (username : String) (system : System) (stream : Stream) :
    Prop where
  /-- One of the replicas serves it. -/
  replica : stream.replica < count
  /-- Its channel is registered. -/
  registered : ∃ waiting,
    (stream.channel, waiting) ∈ (system.replicas stream.replica).channels username
  /-- No change is missed. -/
  noticed : Noticed username system stream

/-- What is known of the system. -/
structure Known (count : ℕ) (username : String) (sha256 : List UInt8 → List UInt8)
    (externals : Externals) (system : System) : Prop where
  /-- The loop runs the routes of the last valid snapshot. -/
  loop : RoutesKnown externals system.client
  /-- The last fetch saw an earlier state of the account or the present one. -/
  attempted : Past system.attempted (system.accounts username)
  /-- So does the running fetch, later. -/
  reading : ∀ account, system.reading = some account →
    Past system.attempted account ∧ Past account (system.accounts username)
  /-- The control plane reads only for a fetch. -/
  idle : ∀ snapshot fingerprint, system.client.phase = .running snapshot fingerprint →
    system.reading = none
  /-- After a valid fetch the last valid snapshot has the revision that it saw. -/
  fetched : system.client.unavailable = false → ∀ last, system.client.lastValid = some last →
    last.revision = configRevision sha256 system.attempted.document
  /-- Without running routes there is no stream and no queue. -/
  quiet : system.client.phase.active = none → system.stream = none ∧ system.queue = 0
  /-- The stream is known. -/
  stream : ∀ stream, system.stream = some stream → StreamKnown count username system stream

section

variable {count : ℕ} {username : String} {sha256 : List UInt8 → List UInt8}
  {externals : Externals} {bootstrap : CentralClientBootstrap} {system next : System}
  {stream : Stream}

/-- Nothing has been missed at the start. -/
theorem known_initial (documents : String → String) :
    Known count username sha256 externals (System.initial documents) where
  loop := CentralConfig.routesKnown_initial externals
  attempted := Or.inl Nat.zero_lt_one
  reading account hreading := by cases hreading
  idle snapshot fingerprint hphase := by cases hphase
  fetched _ last hlast := by cases hlast
  quiet _ := ⟨rfl, rfl⟩
  stream stream hstream := by cases hstream

/-- What changes on one replica keeps the channels of every replica. -/
theorem keeps_onReplica {channel replica other : ℕ} (change : Registry → Registry)
    (h : other = replica →
      Keeps username channel (system.replicas replica) (change (system.replicas replica))) :
    Keeps username channel (system.replicas other)
      ((system.onReplica replica change).replicas other) := by
  have hreplicas : (system.onReplica replica change).replicas =
      Function.update system.replicas replica (change (system.replicas replica)) := rfl
  rw [hreplicas]
  by_cases hsame : other = replica
  · subst hsame
    rw [Function.update_self]
    exact h rfl
  · rw [Function.update_of_ne hsame]
    exact Keeps.refl _

/-- A stream that is not the client's uses another channel. -/
theorem ne_of_not_streams {replica channel : ℕ} (hstream : system.stream = some stream)
    (h : ¬ system.streams replica channel = true) (hsame : stream.replica = replica) :
    stream.channel ≠ channel := by
  rintro rfl
  apply h
  rw [System.streams, hstream, Option.any_some, hsame, beq_self_eq_true, beq_self_eq_true]
  rfl

/-- What is noticed stays noticed when only what is pending moves. -/
theorem Noticed.advance (h : Noticed username system stream)
    (haccount : next.accounts username = system.accounts username)
    (hattempted : next.attempted = system.attempted) (hreading : next.reading = system.reading)
    (hlost : ∀ message ∈ system.lost, message ∈ next.lost)
    (hpending : Pending username system stream → Noticed username next stream) :
    Noticed username next stream := by
  cases h with
  | before h =>
    rw [← haccount] at h
    exact .before h
  | attempted h =>
    rw [← haccount, ← hattempted] at h
    exact .attempted h
  | read account reading h =>
    rw [← haccount] at h
    exact .read account (hreading.trans reading) h
  | lost h =>
    rw [System.lastChange, ← haccount] at h
    exact .lost (hlost _ h)
  | pending h => exact hpending h

/-- The registries, the announcements and the messages change, and the client
does nothing. -/
theorem Known.environment (h : Known count username sha256 externals system)
    (hclient : next.client = system.client)
    (haccount : next.accounts username = system.accounts username)
    (hattempted : next.attempted = system.attempted) (hreading : next.reading = system.reading)
    (hqueue : next.queue = system.queue) (hstream : next.stream = system.stream)
    (hlost : ∀ message ∈ system.lost, message ∈ next.lost)
    (hkeeps : ∀ stream, system.stream = some stream →
      Keeps username stream.channel (system.replicas stream.replica)
        (next.replicas stream.replica))
    (hannouncement : ∀ stream, system.stream = some stream → stream.replica < count →
      ∀ announcement ∈ system.announcements, announcement.username = username →
        announcement.version = (system.accounts username).version → Noticed username next stream)
    (hmessage : ∀ stream, system.stream = some stream →
      (∃ waiting,
        (stream.channel, waiting) ∈ (system.replicas stream.replica).channels username) →
      system.lastChange username stream.replica ∈ system.messages →
        Noticed username next stream) :
    Known count username sha256 externals next where
  loop := hclient ▸ h.loop
  attempted := by
    rw [hattempted, haccount]
    exact h.attempted
  reading account hr := by
    rw [hattempted, haccount]
    exact h.reading account (hreading ▸ hr)
  idle snapshot fingerprint hphase := by
    rw [hreading]
    exact h.idle snapshot fingerprint (hclient ▸ hphase)
  fetched hok last hlast := by
    rw [hattempted]
    exact h.fetched (hclient ▸ hok) last (hclient ▸ hlast)
  quiet hactive := by
    rw [hstream, hqueue]
    exact h.quiet (hclient ▸ hactive)
  stream stream hs := by
    rw [hstream] at hs
    have hknown := h.stream stream hs
    have hkept := hkeeps stream hs
    refine ⟨hknown.replica, hkept.registered hknown.registered, ?_⟩
    refine hknown.noticed.advance haccount hattempted hreading hlost fun hpending => ?_
    cases hpending with
    | announcement announcement mem same last =>
      exact hannouncement stream hs hknown.replica announcement mem same last
    | message mem => exact hmessage stream hs hknown.registered mem
    | signal mem => exact .pending (.signal (hkept.signalled mem))
    | event pos => exact .pending (.event pos)
    | queued pos =>
      rw [← hqueue] at pos
      exact .pending (.queued pos)
    | fetch snapshot fingerprint phase reading =>
      rw [← hclient] at phase
      rw [← hreading] at reading
      exact .pending (.fetch snapshot fingerprint phase reading)

/-- A change of one registry that keeps the stream. -/
theorem Known.onReplica (h : Known count username sha256 externals system) {replica : ℕ}
    (channel : ℕ) (change : Registry → Registry)
    (hkeeps : ∀ stream, system.stream = some stream → stream.replica = replica →
      Keeps username stream.channel (system.replicas replica)
        (change (system.replicas replica))) :
    Known count username sha256 externals
      { system.onReplica replica change with nextChannel := channel } := by
  refine h.environment rfl rfl rfl rfl rfl rfl (fun _ => id) ?_ ?_ ?_
  · exact fun stream hs => keeps_onReplica change (hkeeps stream hs)
  · exact fun stream _ _ announcement mem same last =>
      .pending (.announcement announcement mem same last)
  · exact fun stream _ _ mem => .pending (.message mem)

/-- An element stays in a list from which another position is erased, or it
was the erased one. -/
theorem mem_eraseIdx_or {α : Type} {l : List α} {index : ℕ} {x y : α} (hx : l[index]? = some x)
    (hm : y ∈ l) : y ∈ l.eraseIdx index ∨ y = x := by
  obtain ⟨position, hposition⟩ := List.mem_iff_getElem?.mp hm
  by_cases hsame : position = index
  · subst hsame
    rw [hx] at hposition
    exact Or.inr (Option.some.inj hposition).symm
  · refine Or.inl (List.mem_eraseIdx_iff_getElem?.mpr ⟨position, hsame, hposition⟩)

/-- A request tells the streams of its replica. -/
theorem Known.notify (h : Known count username sha256 externals system) {index : ℕ}
    {announcement : Announcement} (hindex : system.announcements[index]? = some announcement) :
    Known count username sha256 externals
      { system.onReplica announcement.replica (Registry.notify · announcement.username) with
        announcements :=
          system.announcements.set index { announcement with notified := true } } := by
  refine h.environment rfl rfl rfl rfl rfl rfl (fun _ => id) ?_ ?_ ?_
  · exact fun stream _ => keeps_onReplica (Registry.notify · announcement.username)
      fun _ => keeps_notify _ _
  · intro stream _ _ other mem same last
    obtain ⟨position, hposition⟩ := List.mem_iff_getElem?.mp mem
    by_cases hsame : position = index
    · subst hsame
      rw [hindex] at hposition
      cases hposition
      obtain ⟨hlt, -⟩ := List.getElem?_eq_some_iff.mp hindex
      have hset : (system.announcements.set position
          { announcement with notified := true })[position]? =
          some { announcement with notified := true } := List.getElem?_set_self hlt
      exact .pending (.announcement _ (List.mem_of_getElem? hset) same last)
    · have hkept :
          (system.announcements.set index { announcement with notified := true })[position]? =
            some other := by
        rw [List.getElem?_set_ne (Ne.symm hsame), hposition]
      exact .pending (.announcement other (List.mem_of_getElem? hkept) same last)
  · exact fun stream _ _ mem => .pending (.message mem)

/-- One of the messages of a request goes to each replica. -/
theorem mem_messages {announcement : Announcement} (hreplica : stream.replica < count)
    (same : announcement.username = username)
    (last : announcement.version = (system.accounts username).version) :
    system.lastChange username stream.replica ∈ announcement.messages count := by
  refine List.mem_map.mpr ⟨stream.replica, List.mem_range.mpr hreplica, ?_⟩
  rw [same, last]
  rfl

/-- A request tells the other replicas. -/
theorem Known.publish (h : Known count username sha256 externals system) {index : ℕ}
    {announcement : Announcement} (hindex : system.announcements[index]? = some announcement) :
    Known count username sha256 externals
      { system with
        announcements := system.announcements.eraseIdx index
        messages := system.messages ++ announcement.messages count } := by
  refine h.environment rfl rfl rfl rfl rfl rfl (fun _ => id) ?_ ?_ ?_
  · exact fun stream _ => Keeps.refl _
  · intro stream _ hreplica other mem same last
    rcases mem_eraseIdx_or hindex mem with hkept | rfl
    · exact .pending (.announcement other hkept same last)
    · refine .pending (.message (List.mem_append_right _ ?_))
      exact mem_messages hreplica same last
  · exact fun stream _ _ mem => .pending (.message (List.mem_append_left _ mem))

/-- A request ends without having told everyone. -/
theorem Known.fail (h : Known count username sha256 externals system) {index : ℕ}
    {announcement : Announcement} (hindex : system.announcements[index]? = some announcement) :
    Known count username sha256 externals
      { system with
        announcements := system.announcements.eraseIdx index
        lost := system.lost ++ announcement.messages count } := by
  refine h.environment rfl rfl rfl rfl rfl rfl (fun _ => List.mem_append_left _) ?_ ?_ ?_
  · exact fun stream _ => Keeps.refl _
  · intro stream _ hreplica other mem same last
    rcases mem_eraseIdx_or hindex mem with hkept | rfl
    · exact .pending (.announcement other hkept same last)
    · exact .lost (List.mem_append_right _ (mem_messages hreplica same last))
  · exact fun stream _ _ mem => .pending (.message mem)

/-- An announcement arrives at a replica. -/
theorem Known.deliver (h : Known count username sha256 externals system)
    (htrim : trimSpace username = username) (hne : username ≠ "") {index : ℕ}
    {message : Message} (hindex : system.messages[index]? = some message) :
    Known count username sha256 externals
      { system.onReplica message.replica (Registry.configChanged · message.username) with
        messages := system.messages.eraseIdx index } := by
  refine h.environment rfl rfl rfl rfl rfl rfl (fun _ => id) ?_ ?_ ?_
  · exact fun stream _ => keeps_onReplica (Registry.configChanged · message.username)
      fun _ => keeps_configChanged _ _
  · exact fun stream _ _ announcement mem same last =>
      .pending (.announcement announcement mem same last)
  · intro stream _ hregistered mem
    rcases mem_eraseIdx_or hindex mem with hkept | rfl
    · exact .pending (.message hkept)
    · refine .pending (.signal ?_)
      rw [System.onReplica]
      dsimp only [System.lastChange]
      rw [Function.update_self]
      exact signalled_configChanged htrim hne hregistered

/-- An announcement is lost. -/
theorem Known.drop (h : Known count username sha256 externals system) {index : ℕ}
    {message : Message} (hindex : system.messages[index]? = some message) :
    Known count username sha256 externals
      { system with
        messages := system.messages.eraseIdx index
        lost := system.lost ++ [message] } := by
  refine h.environment rfl rfl rfl rfl rfl rfl (fun _ => List.mem_append_left _) ?_ ?_ ?_
  · exact fun stream _ => Keeps.refl _
  · exact fun stream _ _ announcement mem same last =>
      .pending (.announcement announcement mem same last)
  · intro stream _ _ mem
    rcases mem_eraseIdx_or hindex mem with hkept | hsame
    · exact .pending (.message hkept)
    · refine .lost (List.mem_append_right _ ?_)
      rw [← hsame]
      exact List.mem_singleton_self _

/-- A replica stores a document. -/
theorem Known.store (h : Known count username sha256 externals system) (replica : ℕ)
    (name document : String) :
    Known count username sha256 externals
      { system with
        accounts := Function.update system.accounts name
          ⟨(system.accounts name).version + 1, document⟩
        announcements := system.announcements ++
          [⟨replica, name, (system.accounts name).version + 1, false⟩] } := by
  by_cases hname : username = name
  · subst hname
    have hlater : ∀ account : Account, Past account (system.accounts username) →
        Past account (Function.update system.accounts username
          ⟨(system.accounts username).version + 1, document⟩ username) := by
      intro account hpast
      rw [Function.update_self]
      exact Or.inl (Nat.lt_succ_of_le hpast.le)
    refine ⟨h.loop, hlater _ h.attempted, ?_, h.idle, h.fetched, h.quiet, ?_⟩
    · intro account hreading
      exact ⟨(h.reading account hreading).1, hlater _ (h.reading account hreading).2⟩
    · intro stream hs
      have hknown := h.stream stream hs
      refine ⟨hknown.replica, hknown.registered, .pending ?_⟩
      refine .announcement _ (List.mem_append_right _ (List.mem_singleton_self _)) rfl ?_
      dsimp only
      rw [Function.update_self]
  · have haccount : Function.update system.accounts name
        ⟨(system.accounts name).version + 1, document⟩ username = system.accounts username :=
      Function.update_of_ne hname _ _
    refine h.environment rfl haccount rfl rfl rfl rfl (fun _ => id) ?_ ?_ ?_
    · exact fun stream _ => Keeps.refl _
    · intro stream _ _ announcement mem same last
      rw [← haccount] at last
      exact .pending (.announcement announcement (List.mem_append_left _ mem) same last)
    · intro stream _ _ mem
      rw [System.lastChange, ← haccount] at mem
      exact .pending (.message mem)

/-- The stream of the client begins. -/
theorem Known.connect (h : Known count username sha256 externals system) {replica : ℕ}
    (hreplica : replica < count) (hactive : system.client.phase.active ≠ none) :
    Known count username sha256 externals
      { system.onReplica replica (Registry.subscribe · username system.nextChannel) with
        stream := some ⟨replica, system.nextChannel, (system.accounts username).version, 0⟩
        nextChannel := system.nextChannel + 1 } := by
  refine ⟨h.loop, h.attempted, h.reading, h.idle, h.fetched, ?_, ?_⟩
  · exact fun hnone => absurd hnone hactive
  · intro stream hs
    cases hs
    refine ⟨hreplica, ⟨false, ?_⟩, .before (le_refl _)⟩
    rw [System.onReplica]
    dsimp only
    rw [Function.update_self, Registry.subscribe, channels_insert, if_pos rfl]
    exact List.mem_cons_self

/-- The stream of the client writes an event. -/
theorem Known.write (h : Known count username sha256 externals system)
    (hs : system.stream = some stream) :
    Known count username sha256 externals
      { system.onReplica stream.replica (Registry.take · username stream.channel) with
        stream := some { stream with events := stream.events + 1 } } := by
  refine ⟨h.loop, h.attempted, h.reading, h.idle, h.fetched, ?_, ?_⟩
  · intro hnone
    have hclosed := (h.quiet hnone).1
    rw [hs] at hclosed
    cases hclosed
  · intro moved hmoved
    cases hmoved
    refine ⟨(h.stream stream hs).replica, ?_, .pending (.event (Nat.succ_pos _))⟩
    rw [System.onReplica]
    dsimp only
    rw [Function.update_self]
    exact registered_take (h.stream stream hs).registered

/-- The client queues a notification, perhaps for an event of its stream. -/
theorem Known.enqueue (h : Known count username sha256 externals system)
    (hactive : system.client.phase.active ≠ none) {moved : Option Stream}
    (hmoved : ∀ stream, moved = some stream → ∃ found, system.stream = some found ∧
      stream.replica = found.replica ∧ stream.channel = found.channel) :
    Known count username sha256 externals
      { system with stream := moved, queue := system.queue + 1 } := by
  refine ⟨h.loop, h.attempted, h.reading, h.idle, h.fetched, ?_, ?_⟩
  · exact fun hnone => absurd hnone hactive
  · intro stream hs
    obtain ⟨found, hfound, hreplica, hchannel⟩ := hmoved stream hs
    have hknown := h.stream found hfound
    refine ⟨hreplica ▸ hknown.replica, ?_, .pending (.queued (Nat.succ_pos _))⟩
    rw [hreplica, hchannel]
    exact hknown.registered

/-- The control plane reads the account for a fetch. -/
theorem Known.serve (h : Known count username sha256 externals system)
    (hphase : ∀ snapshot fingerprint, system.client.phase ≠ .running snapshot fingerprint) :
    Known count username sha256 externals
      { system with reading := some (system.accounts username) } := by
  refine ⟨h.loop, h.attempted, ?_, ?_, h.fetched, h.quiet, ?_⟩
  · intro account hreading
    cases hreading
    exact ⟨h.attempted, Or.inr rfl⟩
  · exact fun snapshot fingerprint hrunning => absurd hrunning (hphase snapshot fingerprint)
  · intro stream hs
    have hknown := h.stream stream hs
    exact ⟨hknown.replica, hknown.registered, .read _ rfl (le_refl _)⟩

/-- The loop without running routes has neither a stream nor a queue. -/
theorem withClient_of_none {client : CentralConfig.State} (h : client.phase.active = none) :
    system.withClient client =
      { system with client := client, stream := none, queue := 0 } := by
  rw [System.withClient, h]

/-- The loop with running routes keeps both. -/
theorem withClient_of_active {client : CentralConfig.State} (h : client.phase.active ≠ none) :
    system.withClient client = { system with client := client } := by
  rw [System.withClient]
  split
  · rfl
  · rename_i hnone
    exact absurd hnone h

/-- The loop receives a notification and starts a fetch. -/
theorem Known.updated (h : Known count username sha256 externals system)
    {client : CentralConfig.State}
    (hstep : CentralConfig.step externals bootstrap system.client .updated = some client) :
    Known count username sha256 externals
      { system.withClient client with queue := system.queue - 1 } := by
  have hloop := CentralConfig.step_known h.loop hstep
  simp only [CentralConfig.step] at hstep
  split at hstep
  · rename_i snapshot fingerprint hphase
    cases hstep
    have hreading := h.idle snapshot fingerprint hphase
    rw [withClient_of_active (by exact Option.some_ne_none _)]
    refine ⟨hloop, h.attempted, h.reading, ?_, h.fetched, ?_, ?_⟩
    · exact fun _ _ _ => hreading
    · intro hnone
      cases hnone
    · intro stream hs
      have hknown := h.stream stream hs
      exact ⟨hknown.replica, hknown.registered,
        .pending (.fetch snapshot fingerprint rfl hreading)⟩
  · cases hstep

/-- The loop stops its routes, or has none and goes on. -/
theorem Known.inactive (h : Known count username sha256 externals system)
    {client : CentralConfig.State} (hloop : RoutesKnown externals client)
    (hactive : client.phase.active = none)
    (hunavailable : client.unavailable = system.client.unavailable)
    (hlast : client.lastValid = system.client.lastValid) :
    Known count username sha256 externals (system.withClient client) := by
  rw [withClient_of_none hactive]
  refine ⟨hloop, h.attempted, h.reading, ?_, ?_, ?_, ?_⟩
  · intro snapshot fingerprint hphase
    dsimp only at hphase
    rw [hphase] at hactive
    cases hactive
  · intro hok last hl
    rw [hunavailable] at hok
    rw [hlast] at hl
    exact h.fetched hok last hl
  · exact fun _ => ⟨rfl, rfl⟩
  · intro stream hs
    cases hs

/-- A valid snapshot has the revision of the answered document. -/
theorem fetchCentralSnapshot_revision {answers : Answers} {snapshot : CentralSnapshot}
    (h : fetchCentralSnapshot externals bootstrap answers = .ok snapshot) :
    ∃ response, answers.config = .answered response ∧
      snapshot.revision = response.configRevision.getD "unreported" := by
  simp only [fetchCentralSnapshot, Fallible.bind_eq_ok] at h
  obtain ⟨_, -, _, -, response, hresponse, _, -, _, -, hsnapshot⟩ := h
  refine ⟨response, ?_, ?_⟩
  · cases hconfig : answers.config with
    | unsent error =>
      rw [hconfig] at hresponse
      cases hresponse
    | refused error =>
      rw [hconfig] at hresponse
      cases hresponse
    | undecoded error =>
      rw [hconfig] at hresponse
      cases hresponse
    | answered found =>
      rw [hconfig] at hresponse
      rw [Except.ok.inj hresponse]
  · rw [← Except.ok.inj hsnapshot]

/-- What the loop remembers of a fetch, wherever it goes on. -/
theorem noted_started (client : CentralConfig.State)
    (outcome : Except Fallible.AnyError CentralSnapshot) :
    (client.started externals outcome).unavailable = client.unavailable ∧
      (client.started externals outcome).lastValid = client.lastValid := by
  cases outcome with
  | error error => exact ⟨rfl, rfl⟩
  | ok snapshot =>
    simp only [CentralConfig.State.started]
    split <;> exact ⟨rfl, rfl⟩

/-- The same after a fetch that looked for changes. -/
theorem noted_refreshed (client : CentralConfig.State) (snapshot : CentralSnapshot)
    (fingerprint : List UInt8) (outcome : Except Fallible.AnyError CentralSnapshot) :
    (client.refreshed externals snapshot fingerprint outcome).unavailable = client.unavailable ∧
      (client.refreshed externals snapshot fingerprint outcome).lastValid = client.lastValid := by
  cases outcome with
  | error error => exact ⟨rfl, rfl⟩
  | ok found =>
    simp only [CentralConfig.State.refreshed]
    split
    · exact ⟨rfl, rfl⟩
    · split
      · exact ⟨rfl, rfl⟩
      · split <;> exact ⟨rfl, rfl⟩

/-- A valid fetch saw the document that the control plane had read. -/
theorem revision_of_genuine {answers : Answers} (hgenuine : system.genuine username sha256 answers)
    {outcome : Except Fallible.AnyError CentralSnapshot}
    (houtcome : fetchCentralSnapshot externals bootstrap answers = outcome)
    (hok : (system.client.noted outcome).unavailable = false) {last : CentralSnapshot}
    (hlast : (system.client.noted outcome).lastValid = some last) :
    last.revision =
      configRevision sha256 (system.reading.getD (system.accounts username)).document := by
  cases outcome with
  | error error => cases hok
  | ok snapshot =>
    cases hlast
    obtain ⟨response, hresponse, hrevision⟩ := fetchCentralSnapshot_revision houtcome
    rw [System.genuine, hresponse, Option.any_eq_true] at hgenuine
    obtain ⟨account, hreading, hserved⟩ := hgenuine
    rw [Bool.and_eq_true, beq_iff_eq] at hserved
    rw [hrevision, hserved.2, hreading]
    rfl

/-- A fetch of the loop ends. -/
theorem Known.fetchEnded (h : Known count username sha256 externals system) {answers : Answers}
    (hgenuine : system.genuine username sha256 answers) {client : CentralConfig.State}
    (hstep : CentralConfig.step externals bootstrap system.client (.fetched answers) =
      some client) :
    Known count username sha256 externals
      { system.withClient client with
        reading := none
        attempted := system.reading.getD (system.accounts username) } := by
  have hloop := CentralConfig.step_known h.loop hstep
  have hattempted : Past system.attempted (system.reading.getD (system.accounts username)) ∧
      Past (system.reading.getD (system.accounts username)) (system.accounts username) := by
    cases hreading : system.reading with
    | none => exact ⟨h.attempted, Or.inr rfl⟩
    | some account => exact h.reading account hreading
  have hnoted : client.unavailable = false → ∀ last, client.lastValid = some last →
      last.revision =
        configRevision sha256 (system.reading.getD (system.accounts username)).document := by
    intro hok last hlast
    simp only [CentralConfig.step] at hstep
    split at hstep
    · cases hstep
      rw [(noted_started _ _).1] at hok
      rw [(noted_started _ _).2] at hlast
      exact revision_of_genuine hgenuine rfl hok hlast
    · cases hstep
      rw [(noted_refreshed _ _ _ _).1] at hok
      rw [(noted_refreshed _ _ _ _).2] at hlast
      exact revision_of_genuine hgenuine rfl hok hlast
    · cases hstep
  cases hactive : client.phase.active with
  | none =>
    rw [withClient_of_none hactive]
    refine ⟨hloop, hattempted.2, ?_, fun _ _ _ => rfl, hnoted, fun _ => ⟨rfl, rfl⟩, ?_⟩
    · intro account hreading
      cases hreading
    · intro stream hs
      cases hs
  | some pair =>
    have hsome : client.phase.active ≠ none := by
      rw [hactive]
      exact Option.some_ne_none pair
    rw [withClient_of_active hsome]
    refine ⟨hloop, hattempted.2, ?_, fun _ _ _ => rfl, hnoted, ?_, ?_⟩
    · intro account hreading
      cases hreading
    · exact fun hnone => absurd hnone hsome
    · intro stream hs
      have hknown := h.stream stream hs
      refine ⟨hknown.replica, hknown.registered, ?_⟩
      cases hknown.noticed with
      | before hbefore => exact .before hbefore
      | attempted hearlier => exact .attempted (le_trans hearlier hattempted.1.le)
      | read account hreading hread =>
        refine .attempted ?_
        dsimp only
        rw [hreading]
        exact hread
      | lost hlost => exact .lost hlost
      | pending hpending =>
        cases hpending with
        | announcement announcement mem same last =>
          exact .pending (.announcement announcement mem same last)
        | message mem => exact .pending (.message mem)
        | signal mem => exact .pending (.signal mem)
        | event pos => exact .pending (.event pos)
        | queued pos => exact .pending (.queued pos)
        | fetch snapshot fingerprint phase reading =>
          refine .attempted ?_
          dsimp only
          rw [reading]
          exact le_refl _

/-- Every step keeps what is known. -/
theorem Known.step (htrim : trimSpace username = username) (hne : username ≠ "") {event : Event}
    (h : Known count username sha256 externals system)
    (hstep : ConfigPush.step count username sha256 externals bootstrap system event =
      some next) : Known count username sha256 externals next := by
  have hmoved : ∀ {option : Option CentralConfig.State},
      option.map system.withClient = some next →
      (∀ client, option = some client → RoutesKnown externals client ∧
        client.phase.active = none ∧ client.unavailable = system.client.unavailable ∧
        client.lastValid = system.client.lastValid) →
      Known count username sha256 externals next := by
    intro option hmap hclient
    obtain ⟨client, hoption, rfl⟩ := Option.map_eq_some_iff.mp hmap
    obtain ⟨hloop, hactive, hunavailable, hlast⟩ := hclient client hoption
    exact h.inactive hloop hactive hunavailable hlast
  cases event with
  | store replica name document =>
    simp only [ConfigPush.step] at hstep
    split at hstep
    · cases hstep
      exact h.store replica name document
    · cases hstep
  | notify index =>
    obtain ⟨announcement, hindex, hrest⟩ := Option.bind_eq_some_iff.mp hstep
    split at hrest
    · cases hrest
    · cases hrest
      exact h.notify hindex
  | publish index =>
    obtain ⟨announcement, hindex, hrest⟩ := Option.bind_eq_some_iff.mp hstep
    split at hrest
    · cases hrest
      exact h.publish hindex
    · cases hrest
  | fail index =>
    obtain ⟨announcement, hindex, rfl⟩ := Option.map_eq_some_iff.mp hstep
    exact h.fail hindex
  | deliver index =>
    obtain ⟨message, hindex, rfl⟩ := Option.map_eq_some_iff.mp hstep
    exact h.deliver htrim hne hindex
  | drop index =>
    obtain ⟨message, hindex, rfl⟩ := Option.map_eq_some_iff.mp hstep
    exact h.drop hindex
  | subscribe replica name =>
    cases hstep
    exact h.onReplica (system.nextChannel + 1) (Registry.subscribe · name system.nextChannel)
      fun stream _ _ => keeps_subscribe _ _ _
  | unsubscribe replica name channel =>
    simp only [ConfigPush.step] at hstep
    split at hstep
    · cases hstep
    · rename_i hother
      cases hstep
      exact h.onReplica system.nextChannel (Registry.unsubscribe · name channel)
        fun stream hs hsame => keeps_unsubscribe _ _ (ne_of_not_streams hs hother hsame)
  | take replica name channel =>
    simp only [ConfigPush.step] at hstep
    split at hstep
    · cases hstep
    · rename_i hother
      cases hstep
      exact h.onReplica system.nextChannel (Registry.take · name channel)
        fun stream hs hsame => keeps_take _ _ (ne_of_not_streams hs hother hsame)
  | connect replica =>
    simp only [ConfigPush.step] at hstep
    split at hstep
    · rename_i hguard
      cases hstep
      rw [Bool.and_eq_true, Bool.and_eq_true, decide_eq_true_eq] at hguard
      exact h.connect hguard.1.1 (Option.isSome_iff_ne_none.mp hguard.2)
    · cases hstep
  | write =>
    obtain ⟨stream, hs, hrest⟩ := Option.bind_eq_some_iff.mp hstep
    split at hrest
    · cases hrest
      exact h.write hs
    · cases hrest
  | read =>
    obtain ⟨stream, hs, hrest⟩ := Option.bind_eq_some_iff.mp hstep
    split at hrest
    · cases hrest
      have hactive : system.client.phase.active ≠ none := by
        intro hnone
        have hclosed := (h.quiet hnone).1
        rw [hs] at hclosed
        cases hclosed
      refine h.enqueue hactive ?_
      intro moved hmoved
      cases hmoved
      exact ⟨stream, hs, rfl, rfl⟩
    · cases hrest
  | disconnect =>
    cases hstep
    refine ⟨h.loop, h.attempted, h.reading, h.idle, h.fetched, ?_, ?_⟩
    · exact fun hnone => ⟨rfl, (h.quiet hnone).2⟩
    · intro stream hs
      cases hs
  | poll =>
    simp only [ConfigPush.step] at hstep
    split at hstep
    · rename_i hguard
      cases hstep
      rw [Bool.and_eq_true] at hguard
      refine h.enqueue (Option.isSome_iff_ne_none.mp hguard.1) ?_
      exact fun stream hs => ⟨stream, hs, rfl, rfl⟩
    · cases hstep
  | serve =>
    simp only [ConfigPush.step] at hstep
    split at hstep
    · rename_i stopped _ hphase
      cases hstep
      refine h.serve fun snapshot fingerprint hrunning => ?_
      rw [hphase] at hrunning
      cases hrunning
    · rename_i hphase
      cases hstep
      refine h.serve fun snapshot fingerprint hrunning => ?_
      rw [hphase] at hrunning
      cases hrunning
    · cases hstep
  | loop event =>
    cases event with
    | updated =>
      simp only [ConfigPush.step] at hstep
      split at hstep
      · obtain ⟨client, hclient, rfl⟩ := Option.map_eq_some_iff.mp hstep
        exact h.updated hclient
      · cases hstep
    | fetched answers =>
      simp only [ConfigPush.step] at hstep
      split at hstep
      · rename_i hgenuine
        obtain ⟨client, hclient, rfl⟩ := Option.map_eq_some_iff.mp hstep
        exact h.fetchEnded hgenuine hclient
      · cases hstep
    | slept =>
      refine hmoved hstep fun client hclient => ?_
      have hloop := CentralConfig.step_known h.loop hclient
      simp only [CentralConfig.step] at hclient
      split at hclient
      · cases hclient
        exact ⟨hloop, rfl, rfl, rfl⟩
      · cases hclient
        exact ⟨hloop, rfl, rfl, rfl⟩
      · cases hclient
    | runtimeStopped =>
      refine hmoved hstep fun client hclient => ?_
      have hloop := CentralConfig.step_known h.loop hclient
      simp only [CentralConfig.step] at hclient
      split at hclient
      · cases hclient
        exact ⟨hloop, rfl, rfl, rfl⟩
      · cases hclient

end

/-- A step of two replicas and a client for which every document is the sample
route. -/
def sampleStep : System → Event → Option System :=
  step 2 "u" id
    { CentralConfig.sampleExternals with
      fromToml := fun _ => .ok (.legacy CentralConfig.sampleConfig) }
    CentralConfig.sampleBootstrap

/-- The snapshot of a loop whose routes run. -/
def settled : CentralConfig.Phase → Option CentralSnapshot
  | .running snapshot _ => some snapshot
  | _ => none

end LfpPipe.ConfigPush
