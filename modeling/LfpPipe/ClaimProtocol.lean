import LfpPipe.IngressHistory
import LfpPipe.RoutableClaims

/-!
# The claim protocol between an ingress and its clients

The ingress announces a connection, clients whose rules match its hostname
claim it, the ingress acknowledges the claims, and the accepted client calls
back. Translated from `handle_request` and `submit_claim` of
`client/src/lib.rs`, next to the tasks of the ingress. Requests, claims and
acknowledgements may be delivered late, more than once or never. Others may
claim and call back as they like, under any name; they only cannot guess the
inbox in which a client waits for its acknowledgement.
-/

namespace LfpPipe.ClaimProtocol

open Fallible SharedConfig OwnedTables TransitionRuns IngressClaims ClientSession ClientBridge
open IngressPairing IngressOwnership IngressSafety IngressHistory

variable {Key : Type}

/-- A request as it is sent to the clients. -/
structure TunnelRequest where
  /-- The announced connection. -/
  connectionId : String
  /-- What the bridge reads of it. -/
  connection : ConnectionRequest

/-- A client session that has claimed a connection. -/
structure Task (Key : Type) where
  /-- The session. -/
  session : AppState Key
  /-- The request that it answers. -/
  request : TunnelRequest
  /-- Its claim was accepted. -/
  accepted : Bool
  /-- The callback that it has opened. -/
  callback : Option ℕ
  /-- It has given up, or its claim was rejected. -/
  ended : Bool

/-- The claim that a task has sent. -/
def Task.claim (task : Task Key) : ConnectionClaim :=
  ⟨task.session.config.clientId, task.request.connectionId⟩

/-- The prefix that a task sends on its callback. -/
def Task.envelope (task : Task Key) : PrefixEnvelope :=
  ⟨task.session.config.clientId, task.request.connectionId⟩

/-- An ingress, the requests that it has sent, and the tasks of its clients. -/
structure System (Key : Type) where
  /-- The ingress. -/
  ingress : State
  /-- The requests with the public sockets that they are for. -/
  announced : List (ℕ × TunnelRequest)
  /-- The tasks by the inbox in which they wait. -/
  tasks : Table String (Task Key)
  /-- The callbacks that tasks have opened. -/
  callers : List ℕ

/-- Nothing has happened yet. -/
def System.initial (config : IngressConfig) : System Key :=
  ⟨IngressPairing.initial config, [], ∅, []⟩

/-- What happens next. -/
inductive Event (Key : Type) where
  /-- The ingress moves, or someone else calls it back. -/
  | ingress (event : IngressPairing.Event)
  /-- The ingress has detected a protocol and announces the connection. -/
  | detect (socket : ℕ) (hostname : Option String) (preface : List UInt8) (connectionId : String)
    (clientIp : Option String) (tls : Bool)
  /-- A session receives one of the requests and claims the connection. -/
  | receive (inbox : String) (session : AppState Key) (index : ℕ)
  /-- An acknowledgement arrives in an inbox. -/
  | acknowledge (inbox : String) (ack : ConnectionClaimAck)
  /-- A task times out, or its network fails. -/
  | abandon (inbox : String)
  /-- An accepted task connects to the ingress. -/
  | dial (inbox : String)
  /-- A connected task sends its prefix. -/
  | present (inbox : String)

/-- The request for a connection, unless it goes to a direct route or has no
subject. -/
def announcement (config : IngressConfig) (socket : ℕ) (hostname : Option String)
    (connectionId : String) (clientIp : Option String) (tls : Bool) : List (ℕ × TunnelRequest) :=
  match selectSniPassthrough config.sniPassthroughRoutes hostname,
    connectionSubject config hostname with
  | none, .ok _ => [(socket, ⟨connectionId, ⟨hostname, clientIp, tls⟩⟩)]
  | _, _ => []

/-- A message in a claim inbox is someone else's, or the claim of the task
that waits for its answer. -/
def System.genuine (system : System Key) (own : String → Bool) (message : ClaimMessage) : Bool :=
  match message.reply with
  | none => true
  | some inbox =>
    if own inbox then
      match system.tasks.lookup inbox, message.payload with
      | some task, .ok claim => claim == task.claim
      | _, _ => false
    else true

/-- What the ingress meets without a task: any messages and callbacks of
others. -/
def System.admits (system : System Key) (own : String → Bool) : IngressPairing.Event → Bool
  | .detected _ _ _ _ => false
  | .collected _ messages => messages.all (system.genuine own)
  | .callbackPrefix callback _ => !system.callers.contains callback
  | _ => true

/-- Replace a task. -/
def System.withTask (system : System Key) (inbox : String) (task : Task Key) : System Key :=
  { system with tasks := system.tasks.insert inbox task }

/-- One step of the system; an event that cannot happen is refused. -/
def step (config : IngressConfig) (own : String → Bool) (system : System Key) :
    Event Key → Option (System Key)
  | .ingress event =>
    if system.admits own event then
      (IngressPairing.step config system.ingress event).map fun next =>
        { system with ingress := next }
    else none
  | .detect socket hostname preface connectionId clientIp tls =>
    (IngressPairing.step config system.ingress
      (.detected socket hostname preface connectionId)).map fun next =>
        { system with
          ingress := next
          announced := system.announced ++
            announcement config socket hostname connectionId clientIp tls }
  | .receive inbox session index =>
    system.announced[index]?.bind fun found =>
      if own inbox && (system.tasks.lookup inbox).isNone &&
          session.backends.any fun backend =>
            backend.matchesHostname found.2.connection.hostname then
        some (system.withTask inbox ⟨session, found.2, false, none, false⟩)
      else none
  | .acknowledge inbox ack =>
    (system.tasks.lookup inbox).bind fun task =>
      if system.ingress.history.published.contains ack && ack.subject == inbox &&
          !task.accepted && !task.ended then
        some (system.withTask inbox { task with accepted := ack.accepted, ended := !ack.accepted })
      else none
  | .abandon inbox =>
    (system.tasks.lookup inbox).map fun task => system.withTask inbox { task with ended := true }
  | .dial inbox =>
    (system.tasks.lookup inbox).bind fun task =>
      if task.accepted && !task.ended && task.callback.isNone then
        (IngressPairing.step config system.ingress .acceptCallback).map fun next =>
          { system.withTask inbox { task with callback := some system.ingress.nextCallback } with
            ingress := next
            callers := system.ingress.nextCallback :: system.callers }
      else none
  | .present inbox =>
    (system.tasks.lookup inbox).bind fun task =>
      if task.ended then none
      else
        task.callback.bind fun callback =>
          (IngressPairing.step config system.ingress
            (.callbackPrefix callback task.envelope)).map fun next =>
              { system with ingress := next }

/-- What is known of a task. -/
structure TaskKnown (own : String → Bool) (system : System Key) (inbox : String)
    (task : Task Key) : Prop where
  /-- It waits in an inbox of its own. -/
  own : own inbox = true
  /-- It answers a request of the ingress. -/
  announced : ∃ socket, (socket, task.request) ∈ system.announced
  /-- One of its rules matches the hostname. -/
  matched : ∃ backend ∈ task.session.backends,
    backend.matchesHostname task.request.connection.hostname = true
  /-- It was accepted by the ingress. -/
  accepted : task.accepted = true →
    ∃ ack ∈ system.ingress.history.published, ack.accepted = true ∧ ack.subject = inbox
  /-- It has opened its callback after that. -/
  caller : ∀ callback, task.callback = some callback →
    task.accepted = true ∧ callback ∈ system.callers

/-- What is known of the system. -/
structure Known (config : IngressConfig) (own : String → Bool) (system : System Key) : Prop where
  /-- The ingress has moved step by step. -/
  ingress : Reachable (IngressPairing.step config) (IngressPairing.initial config) system.ingress
  /-- Its sockets are announced once. -/
  sockets : AnnouncedOnce system.ingress
  /-- Requests are for announced connections. -/
  announced : ∀ pair ∈ system.announced,
    (pair.2.connectionId, pair.1) ∈ system.ingress.history.ids
  /-- There is one request for a connection. -/
  announcedOnce : (system.announced.map fun pair => pair.2.connectionId).Nodup
  /-- The tasks are known. -/
  tasks : ∀ inbox task, system.tasks.lookup inbox = some task → TaskKnown own system inbox task
  /-- A winner with such an inbox is its task. -/
  winners : ∀ winner ∈ system.ingress.history.winners, ∀ inbox, winner.reply = some inbox →
    own inbox = true → ∃ task, system.tasks.lookup inbox = some task ∧
      task.claim = ⟨winner.clientId, winner.connectionId⟩
  /-- Callbacks of tasks have been opened. -/
  callers : ∀ callback ∈ system.callers, callback < system.ingress.nextCallback
  /-- A callback belongs to one task. -/
  callbacks : ∀ inbox other task otherTask callback, system.tasks.lookup inbox = some task →
    system.tasks.lookup other = some otherTask → task.callback = some callback →
      otherTask.callback = some callback → inbox = other
  /-- A relay for a callback of a task has the prefix of the task. -/
  relays : ∀ relay ∈ system.ingress.history.relays, ∀ inbox task,
    system.tasks.lookup inbox = some task → task.callback = some relay.callback →
      relay.envelope = task.envelope

section

variable {config : IngressConfig} {own : String → Bool} {system : System Key} {next : State}
  {inbox : String} {task : Task Key}

/-- A fresh system is known. -/
theorem known_initial (config : IngressConfig) (own : String → Bool) :
    Known config own (System.initial config : System Key) where
  ingress := ⟨[], rfl⟩
  sockets :=
    { opened := fun used hm => by cases hm
      detecting := fun socket permit hl => by cases hl
      once := List.nodup_nil }
  announced pair hm := by cases hm
  announcedOnce := List.nodup_nil
  tasks inbox task hl := by cases hl
  winners winner hm := by cases hm
  callers callback hm := by cases hm
  callbacks inbox other task otherTask callback hl := by cases hl
  relays relay hm := by cases hm

/-- The ingress moves, and perhaps announces a connection. -/
theorem Known.advance (h : Known config own system) {event : IngressPairing.Event}
    (hstep : IngressPairing.step config system.ingress event = some next)
    {more : List (ℕ × TunnelRequest)}
    (hmore : ∀ pair ∈ more, (pair.2.connectionId, pair.1) ∈ next.history.ids)
    (honce : ((system.announced ++ more).map fun pair => pair.2.connectionId).Nodup)
    (hwinner : ∀ winner, CollectedFrom event winner → ∀ inbox, winner.reply = some inbox →
      own inbox = true → ∃ task, system.tasks.lookup inbox = some task ∧
        task.claim = ⟨winner.clientId, winner.connectionId⟩)
    (hrelay : ∀ relay : Relay, event = .callbackPrefix relay.callback relay.envelope →
      ∀ inbox task, system.tasks.lookup inbox = some task →
        task.callback = some relay.callback → relay.envelope = task.envelope) :
    Known config own { system with ingress := next, announced := system.announced ++ more } := by
  have hgrows := step_grows hstep
  refine ⟨h.ingress.next hstep, ?_, ?_, honce, ?_, ?_, ?_, h.callbacks, ?_⟩
  · exact moves_announcedOnce (reachable_consistent h.ingress).1.sockets h.sockets
      (step_moves hstep)
  · intro pair hm
    rcases List.mem_append.mp hm with hold | hnew
    · exact hgrows.ids _ (h.announced pair hold)
    · exact hmore pair hnew
  · intro inbox task hl
    obtain ⟨hown, ⟨socket, hsocket⟩, hmatched, haccepted, hcaller⟩ := h.tasks inbox task hl
    refine ⟨hown, ⟨socket, List.mem_append_left _ hsocket⟩, hmatched, ?_, hcaller⟩
    intro htask
    obtain ⟨ack, hack, hyes⟩ := haccepted htask
    exact ⟨ack, hgrows.published ack hack, hyes⟩
  · intro winner hm inbox hreply hinbox
    rcases hgrows.winners winner hm with hold | hnew
    · exact h.winners winner hold inbox hreply hinbox
    · exact hwinner winner hnew inbox hreply hinbox
  · exact fun callback hm => Nat.lt_of_lt_of_le (h.callers callback hm) hgrows.nextCallback
  · intro relay hm inbox task hl hcallback
    rcases hgrows.relays relay hm with hold | hnew
    · exact h.relays relay hold inbox task hl hcallback
    · exact hrelay relay hnew inbox task hl hcallback

/-- A task in a new inbox. -/
theorem Known.receive (h : Known config own system) {session : AppState Key} {socket : ℕ}
    {request : TunnelRequest} (hown : own inbox = true)
    (hnew : system.tasks.lookup inbox = none) (hrequest : (socket, request) ∈ system.announced)
    (hmatched : ∃ backend ∈ session.backends,
      backend.matchesHostname request.connection.hostname = true) :
    Known config own (system.withTask inbox ⟨session, request, false, none, false⟩) := by
  have hkept : ∀ other task, system.tasks.lookup other = some task →
      (system.tasks.insert inbox ⟨session, request, false, none, false⟩).lookup other =
        some task := by
    intro other task hl
    have hne : other ≠ inbox := by
      rintro rfl
      rw [hnew] at hl
      cases hl
    rw [AList.lookup_insert_ne hne]
    exact hl
  refine ⟨h.ingress, h.sockets, h.announced, h.announcedOnce, ?_, ?_, h.callers, ?_, ?_⟩
  · intro other task hl
    rcases lookup_of_insert hl with ⟨rfl, rfl⟩ | ⟨-, hold⟩
    · refine ⟨hown, ⟨socket, hrequest⟩, hmatched, ?_, ?_⟩
      · intro haccepted
        cases haccepted
      · intro callback hcallback
        cases hcallback
    · obtain ⟨hother, hannounced, hmatch, haccepted, hcaller⟩ := h.tasks other task hold
      exact ⟨hother, hannounced, hmatch, haccepted, hcaller⟩
  · intro winner hm other hreply hother
    obtain ⟨task, hl, hclaim⟩ := h.winners winner hm other hreply hother
    exact ⟨task, hkept other task hl, hclaim⟩
  · intro first second task other callback hfirst hsecond hcallback hother
    rcases lookup_of_insert hfirst with ⟨-, rfl⟩ | ⟨-, hfirst⟩
    · cases hcallback
    · rcases lookup_of_insert hsecond with ⟨-, rfl⟩ | ⟨-, hsecond⟩
      · cases hother
      · exact h.callbacks first second task other callback hfirst hsecond hcallback hother
  · intro relay hm other task hl hcallback
    rcases lookup_of_insert hl with ⟨-, rfl⟩ | ⟨-, hold⟩
    · cases hcallback
    · exact h.relays relay hm other task hold hcallback

/-- A task that goes on with the same request and callback. -/
theorem Known.retask (h : Known config own system) (hl : system.tasks.lookup inbox = some task)
    {changed : Task Key} (hsession : changed.session = task.session)
    (hrequest : changed.request = task.request) (hcallback : changed.callback = task.callback)
    (hkept : task.accepted = true → changed.accepted = true)
    (haccepted : changed.accepted = true →
      ∃ ack ∈ system.ingress.history.published, ack.accepted = true ∧ ack.subject = inbox) :
    Known config own (system.withTask inbox changed) := by
  have hclaim : changed.claim = task.claim := by rw [Task.claim, Task.claim, hsession, hrequest]
  have henvelope : changed.envelope = task.envelope := by
    rw [Task.envelope, Task.envelope, hsession, hrequest]
  have hbefore : ∀ other found, (system.tasks.insert inbox changed).lookup other = some found →
      ∃ old, system.tasks.lookup other = some old ∧ old.callback = found.callback ∧
        old.envelope = found.envelope := by
    intro other found hfound
    rcases lookup_of_insert hfound with ⟨rfl, rfl⟩ | ⟨-, hold⟩
    · exact ⟨task, hl, hcallback.symm, henvelope.symm⟩
    · exact ⟨found, hold, rfl, rfl⟩
  refine ⟨h.ingress, h.sockets, h.announced, h.announcedOnce, ?_, ?_, h.callers, ?_, ?_⟩
  · intro other found hfound
    rcases lookup_of_insert hfound with ⟨rfl, rfl⟩ | ⟨-, hold⟩
    · obtain ⟨hown, hannounced, hmatched, -, hcaller⟩ := h.tasks other task hl
      refine ⟨hown, hrequest ▸ hannounced, ?_, haccepted, ?_⟩
      · rw [hsession, hrequest]
        exact hmatched
      · intro callback hopened
        rw [hcallback] at hopened
        exact ⟨hkept (hcaller callback hopened).1, (hcaller callback hopened).2⟩
    · obtain ⟨hown, hannounced, hmatched, hyes, hcaller⟩ := h.tasks other found hold
      exact ⟨hown, hannounced, hmatched, hyes, hcaller⟩
  · intro winner hm other hreply hother
    obtain ⟨found, hfound, hwon⟩ := h.winners winner hm other hreply hother
    by_cases hsame : other = inbox
    · subst hsame
      rw [hl] at hfound
      cases hfound
      exact ⟨changed, AList.lookup_insert _, hclaim.trans hwon⟩
    · exact ⟨found, (AList.lookup_insert_ne hsame).trans hfound, hwon⟩
  · intro first second found other callback hfirst hsecond hfound hother
    obtain ⟨old, hold, holdcallback, -⟩ := hbefore first found hfirst
    obtain ⟨older, holder, hothercallback, -⟩ := hbefore second other hsecond
    exact h.callbacks first second old older callback hold holder (holdcallback.trans hfound)
      (hothercallback.trans hother)
  · intro relay hm other found hfound hopened
    obtain ⟨old, hold, holdcallback, holdenvelope⟩ := hbefore other found hfound
    rw [← holdenvelope]
    exact h.relays relay hm other old hold (holdcallback.trans hopened)

/-- A relay is for a callback that was opened. -/
theorem relay_callback_lt (h : CallbacksPlaced next) {relay : Relay}
    (hm : relay ∈ next.history.relays) : relay.callback < next.nextCallback := by
  by_contra hlt
  have hpos : 0 < (next.history.relays.map fun relay => relay.callback).count relay.callback :=
    List.count_pos_iff.mpr (List.mem_map.mpr ⟨relay, hm, rfl⟩)
  have hzero := (h relay.callback).2 hlt
  unfold callbackPlaces at hzero
  omega

/-- The callback that is accepted next gets the next number. -/
theorem acceptCallback_next {s : State}
    (hstep : IngressPairing.step config s .acceptCallback = some next) :
    next.nextCallback = s.nextCallback + 1 := by
  simp only [IngressPairing.step, State.acceptCallback, Option.some.injEq] at hstep
  subst hstep
  split
  · rfl
  · split
    · rfl
    · rfl

/-- A task opens its callback. -/
theorem Known.dial (h : Known config own system) (hl : system.tasks.lookup inbox = some task)
    (haccepted : task.accepted = true)
    (hstep : IngressPairing.step config system.ingress .acceptCallback = some next) :
    Known config own
      { system.withTask inbox { task with callback := some system.ingress.nextCallback } with
        ingress := next
        callers := system.ingress.nextCallback :: system.callers } := by
  have hgrows := step_grows hstep
  have hplaced := (reachable_consistent h.ingress).1
  have hrelays : ∀ relay ∈ next.history.relays, relay ∈ system.ingress.history.relays := by
    intro relay hm
    rcases hgrows.relays relay hm with hold | hnew
    · exact hold
    · cases hnew
  have holder : ∀ other found, system.tasks.lookup other = some found →
      found.callback ≠ some system.ingress.nextCallback := by
    intro other found hfound hcallback
    have hcaller := ((h.tasks other found hfound).caller _ hcallback).2
    exact absurd (h.callers _ hcaller) (Nat.lt_irrefl _)
  refine ⟨h.ingress.next hstep, ?_, ?_, h.announcedOnce, ?_, ?_, ?_, ?_, ?_⟩
  · exact moves_announcedOnce hplaced.sockets h.sockets (step_moves hstep)
  · exact fun pair hm => hgrows.ids _ (h.announced pair hm)
  · intro other found hfound
    rcases lookup_of_insert hfound with ⟨rfl, rfl⟩ | ⟨-, hold⟩
    · obtain ⟨hown, hannounced, hmatched, hyes, -⟩ := h.tasks other task hl
      obtain ⟨ack, hack, hack'⟩ := hyes haccepted
      refine ⟨hown, hannounced, hmatched, fun _ => ⟨ack, hgrows.published ack hack, hack'⟩, ?_⟩
      intro callback hcallback
      cases hcallback
      exact ⟨haccepted, List.mem_cons_self⟩
    · obtain ⟨hown, hannounced, hmatched, hyes, hcaller⟩ := h.tasks other found hold
      refine ⟨hown, hannounced, hmatched, ?_, ?_⟩
      · intro hfoundAccepted
        obtain ⟨ack, hack, hack'⟩ := hyes hfoundAccepted
        exact ⟨ack, hgrows.published ack hack, hack'⟩
      · intro callback hcallback
        exact ⟨(hcaller callback hcallback).1,
          List.mem_cons_of_mem _ (hcaller callback hcallback).2⟩
  · intro winner hm other hreply hother
    have hwinner : winner ∈ system.ingress.history.winners := by
      rcases hgrows.winners winner hm with hold | ⟨_, _, _, hnew, -⟩
      · exact hold
      · cases hnew
    obtain ⟨found, hfound, hwon⟩ := h.winners winner hwinner other hreply hother
    by_cases hsame : other = inbox
    · subst hsame
      rw [hl] at hfound
      cases hfound
      exact ⟨_, AList.lookup_insert _, hwon⟩
    · exact ⟨found, (AList.lookup_insert_ne hsame).trans hfound, hwon⟩
  · intro callback hm
    rw [acceptCallback_next hstep]
    rcases List.mem_cons.mp hm with rfl | hold
    · exact Nat.lt_succ_self _
    · exact Nat.lt_succ_of_lt (h.callers callback hold)
  · intro first second found other callback hfirst hsecond hfound hother
    rcases lookup_of_insert hfirst with ⟨rfl, rfl⟩ | ⟨-, hold⟩
    · cases hfound
      rcases lookup_of_insert hsecond with ⟨rfl, -⟩ | ⟨-, holdsecond⟩
      · rfl
      · exact absurd hother (holder second other holdsecond)
    · rcases lookup_of_insert hsecond with ⟨rfl, rfl⟩ | ⟨-, holdsecond⟩
      · cases hother
        exact absurd hfound (holder first found hold)
      · exact h.callbacks first second found other callback hold holdsecond hfound hother
  · intro relay hm other found hfound hopened
    rcases lookup_of_insert hfound with ⟨rfl, rfl⟩ | ⟨-, hold⟩
    · have hlt := relay_callback_lt hplaced.callbacks (hrelays relay hm)
      rw [← Option.some.inj hopened] at hlt
      exact absurd hlt (Nat.lt_irrefl _)
    · exact h.relays relay (hrelays relay hm) other found hold hopened

/-- A connection without a direct route is announced under a fresh
identifier. -/
theorem detected_announces {s : State} {socket : ℕ} {hostname : Option String}
    {preface : List UInt8} {connectionId : String}
    (hroute : selectSniPassthrough config.sniPassthroughRoutes hostname = none)
    (hstep : IngressPairing.step config s (.detected socket hostname preface connectionId) =
      some next) :
    (connectionId, socket) ∈ next.history.ids ∧ connectionId ∉ s.history.ids.map Prod.fst := by
  simp only [IngressPairing.step, IngressPairing.Event.socket, Option.bind_some] at hstep
  obtain ⟨handler, -, hhandler⟩ := Option.bind_eq_some_iff.mp hstep
  rw [handlerStep] at hhandler
  split at hhandler
  · rw [State.detected, hroute] at hhandler
    dsimp only at hhandler
    split at hhandler
    · cases hhandler
    · rename_i hfresh
      cases hhandler
      refine ⟨List.mem_append_right _ (List.mem_singleton.mpr rfl), ?_⟩
      intro hm
      obtain ⟨used, hused, hsame⟩ := List.mem_map.mp hm
      exact hfresh (List.any_eq_true.mpr ⟨used, hused, beq_iff_eq.mpr hsame⟩)
  · cases hhandler

/-- The request for a connection, when there is one. -/
theorem announcement_cases (config : IngressConfig) (socket : ℕ) (hostname : Option String)
    (connectionId : String) (clientIp : Option String) (tls : Bool) :
    announcement config socket hostname connectionId clientIp tls = [] ∨
      selectSniPassthrough config.sniPassthroughRoutes hostname = none ∧
        announcement config socket hostname connectionId clientIp tls =
          [(socket, ⟨connectionId, ⟨hostname, clientIp, tls⟩⟩)] := by
  rw [announcement]
  cases selectSniPassthrough config.sniPassthroughRoutes hostname with
  | some route => exact .inl rfl
  | none =>
    cases connectionSubject config hostname with
    | error error => exact .inl rfl
    | ok subject => exact .inr ⟨rfl, rfl⟩

/-- The ingress announces a connection. -/
theorem Known.detect (h : Known config own system) {socket : ℕ} {hostname : Option String}
    {preface : List UInt8} {connectionId : String} (clientIp : Option String) (tls : Bool)
    (hstep : IngressPairing.step config system.ingress
      (.detected socket hostname preface connectionId) = some next) :
    Known config own { system with
      ingress := next
      announced := system.announced ++
        announcement config socket hostname connectionId clientIp tls } := by
  have hnew : ∀ pair ∈ announcement config socket hostname connectionId clientIp tls,
      (pair.2.connectionId, pair.1) ∈ next.history.ids := by
    intro pair hm
    rcases announcement_cases config socket hostname connectionId clientIp tls with
      hnone | ⟨hroute, hone⟩
    · rw [hnone] at hm
      cases hm
    · rw [hone] at hm
      rw [List.mem_singleton.mp hm]
      exact (detected_announces hroute hstep).1
  refine h.advance hstep hnew ?_ ?_ ?_
  · rcases announcement_cases config socket hostname connectionId clientIp tls with
      hnone | ⟨hroute, hone⟩
    · rw [hnone, List.append_nil]
      exact h.announcedOnce
    · rw [hone, List.map_append, List.map_singleton, ← List.concat_eq_append]
      refine List.Nodup.concat ?_ h.announcedOnce
      intro hm
      obtain ⟨pair, hpair, hsame⟩ := List.mem_map.mp hm
      refine (detected_announces hroute hstep).2 (List.mem_map.mpr ⟨_, h.announced pair hpair, ?_⟩)
      exact hsame
  · intro winner hcollected
    obtain ⟨_, _, _, hevent, -⟩ := hcollected
    cases hevent
  · intro relay hevent
    cases hevent

/-- The ingress moves without a task. -/
theorem Known.admit (h : Known config own system) {event : IngressPairing.Event}
    (hadmits : system.admits own event = true)
    (hstep : IngressPairing.step config system.ingress event = some next) :
    Known config own { system with ingress := next } := by
  have hknown := h.advance hstep (List.forall_mem_nil _)
    (by rw [List.append_nil]; exact h.announcedOnce) ?_ ?_
  · rw [List.append_nil] at hknown
    exact hknown
  · rintro winner ⟨socket, messages, message, rfl, hm, hreply, hpayload⟩ inbox hinbox hown
    have hgenuine := List.all_eq_true.mp hadmits message hm
    rw [System.genuine, hreply, hinbox] at hgenuine
    dsimp only at hgenuine
    rw [if_pos hown, hpayload] at hgenuine
    cases hl : system.tasks.lookup inbox with
    | none =>
      rw [hl] at hgenuine
      cases hgenuine
    | some task =>
      rw [hl] at hgenuine
      exact ⟨task, rfl, (beq_iff_eq.mp hgenuine).symm⟩
  · rintro relay rfl inbox task hl hcallback
    have hcaller := ((h.tasks inbox task hl).caller _ hcallback).2
    rw [System.admits, Bool.not_eq_true', List.contains_eq_mem, decide_eq_false_iff_not] at hadmits
    exact absurd hcaller hadmits

/-- A task sends its prefix. -/
theorem Known.present (h : Known config own system) (hl : system.tasks.lookup inbox = some task)
    {callback : ℕ} (hcallback : task.callback = some callback)
    (hstep : IngressPairing.step config system.ingress
      (.callbackPrefix callback task.envelope) = some next) :
    Known config own { system with ingress := next } := by
  have hknown := h.advance hstep (List.forall_mem_nil _)
    (by rw [List.append_nil]; exact h.announcedOnce) ?_ ?_
  · rw [List.append_nil] at hknown
    exact hknown
  · intro winner hcollected
    obtain ⟨_, _, _, hevent, -⟩ := hcollected
    cases hevent
  · intro relay hevent other found hfound hopened
    injection hevent with hsame henvelope
    rw [← hsame] at hopened
    have hinbox := h.callbacks inbox other task found callback hl hfound hcallback hopened
    rw [← hinbox, hl] at hfound
    cases hfound
    exact henvelope.symm

/-- Every step keeps what is known. -/
theorem Known.step (h : Known config own system) {event : Event Key} {later : System Key}
    (hstep : step config own system event = some later) : Known config own later := by
  cases event with
  | ingress event =>
    rw [ClaimProtocol.step] at hstep
    split at hstep
    · rename_i hadmits
      obtain ⟨next, hnext, rfl⟩ := Option.map_eq_some_iff.mp hstep
      exact h.admit hadmits hnext
    · cases hstep
  | detect socket hostname preface connectionId clientIp tls =>
    obtain ⟨next, hnext, rfl⟩ := Option.map_eq_some_iff.mp hstep
    exact h.detect clientIp tls hnext
  | receive inbox session index =>
    obtain ⟨found, hfound, hclaimed⟩ := Option.bind_eq_some_iff.mp hstep
    split at hclaimed
    · rename_i hguard
      cases hclaimed
      rw [Bool.and_eq_true, Bool.and_eq_true, Option.isNone_iff_eq_none, List.any_eq_true] at hguard
      obtain ⟨⟨hown, hnew⟩, hmatched⟩ := hguard
      exact h.receive hown hnew (List.mem_of_getElem? hfound) hmatched
    · cases hclaimed
  | acknowledge inbox ack =>
    obtain ⟨task, hl, hacked⟩ := Option.bind_eq_some_iff.mp hstep
    split at hacked
    · rename_i hguard
      cases hacked
      simp only [Bool.and_eq_true, List.contains_eq_mem, decide_eq_true_eq, beq_iff_eq,
        Bool.not_eq_true'] at hguard
      obtain ⟨⟨⟨hpublished, hsubject⟩, hwaiting⟩, -⟩ := hguard
      refine h.retask hl rfl rfl rfl ?_ fun haccepted => ⟨ack, hpublished, haccepted, hsubject⟩
      intro haccepted
      rw [hwaiting] at haccepted
      cases haccepted
    · cases hacked
  | abandon inbox =>
    obtain ⟨task, hl, rfl⟩ := Option.map_eq_some_iff.mp hstep
    exact h.retask hl rfl rfl rfl (fun haccepted => haccepted) (h.tasks inbox task hl).accepted
  | dial inbox =>
    obtain ⟨task, hl, hdialed⟩ := Option.bind_eq_some_iff.mp hstep
    split at hdialed
    · rename_i hguard
      obtain ⟨next, hnext, rfl⟩ := Option.map_eq_some_iff.mp hdialed
      rw [Bool.and_eq_true, Bool.and_eq_true] at hguard
      exact h.dial hl hguard.1.1 hnext
    · cases hdialed
  | present inbox =>
    obtain ⟨task, hl, hpresented⟩ := Option.bind_eq_some_iff.mp hstep
    split at hpresented
    · cases hpresented
    · obtain ⟨callback, hcallback, hsent⟩ := Option.bind_eq_some_iff.mp hpresented
      obtain ⟨next, hnext, rfl⟩ := Option.map_eq_some_iff.mp hsent
      exact h.present hl hcallback hnext

/-- Every reachable system is known. -/
theorem known_of_reachable
    (hr : Reachable (ClaimProtocol.step config own) (System.initial config) system) :
    Known config own system :=
  hr.invariant (fun _ _ _ h hstep => h.step hstep) (known_initial config own)

/-- An accepted task has won its connection. -/
theorem Known.won (h : Known config own system) (hl : system.tasks.lookup inbox = some task)
    (haccepted : task.accepted = true) :
    ⟨task.request.connectionId, task.session.config.clientId, some inbox⟩ ∈
      system.ingress.history.winners := by
  have htask := h.tasks inbox task hl
  obtain ⟨ack, hack, hyes, hsubject⟩ := htask.accepted haccepted
  obtain ⟨winner, hwinner, hid, hclient, hreply⟩ :=
    (reachable_consistent h.ingress).2.acceptedWinner ack hack hyes
  rw [hsubject] at hreply
  obtain ⟨found, hfound, hclaim⟩ := h.winners winner hwinner inbox hreply htask.own
  rw [hl] at hfound
  cases hfound
  injection hclaim with hclientId hconnectionId
  have hsame : winner = ⟨task.request.connectionId, task.session.config.clientId, some inbox⟩ := by
    rw [hclientId, hconnectionId, ← hreply]
  exact hsame ▸ hwinner

end

/-- What clients and the ingress agree on. -/
structure ServedAsAnnounced (system : System Key) : Prop where
  /-- An accepted task is the winner of its connection, under its own name. -/
  won : ∀ inbox task, system.tasks.lookup inbox = some task → task.accepted = true →
    ⟨task.request.connectionId, task.session.config.clientId, some inbox⟩ ∈
      system.ingress.history.winners
  /-- One task at most is accepted for a connection. -/
  single : ∀ inbox other task otherTask, system.tasks.lookup inbox = some task →
    system.tasks.lookup other = some otherTask → task.accepted = true →
      otherTask.accepted = true → task.request.connectionId = otherTask.request.connectionId →
        inbox = other
  /-- Only accepted tasks call back. -/
  called : ∀ inbox task callback, system.tasks.lookup inbox = some task →
    task.callback = some callback → task.accepted = true
  /-- The callback of a task is relayed to the socket of the request that the
  task answers, and to no other. -/
  bound : ∀ relay ∈ system.ingress.history.relays, ∀ inbox task,
    system.tasks.lookup inbox = some task → task.callback = some relay.callback →
      relay.envelope = task.envelope ∧ (relay.ingress, task.request) ∈ system.announced
  /-- There is one request for a socket. -/
  announcedOnce : ∀ socket request other, (socket, request) ∈ system.announced →
    (socket, other) ∈ system.announced → request = other
  /-- One of the rules of a task matches the hostname of its request. -/
  matched : ∀ inbox task, system.tasks.lookup inbox = some task →
    ∃ backend ∈ task.session.backends,
      backend.matchesHostname task.request.connection.hostname = true

/-- In every interleaving, one client at most is told to serve a connection,
it is the winner, and its callback can be joined only to the very socket whose
detected hostname one of its rules matches. -/
theorem served_as_announced (config : IngressConfig) (own : String → Bool) (system : System Key)
    (hr : Reachable (step config own) (System.initial config) system) :
    ServedAsAnnounced system := by
  have hknown := known_of_reachable hr
  have hconsistent := (reachable_consistent hknown.ingress).2
  constructor
  case won => exact fun inbox task hl haccepted => hknown.won hl haccepted
  case single =>
    intro inbox other task otherTask hl hother haccepted hotherAccepted hsame
    have hwinner := List.inj_on_of_nodup_map hconsistent.winners (hknown.won hl haccepted)
      (hknown.won hother hotherAccepted) hsame
    injection hwinner with _ _ hreply
    exact Option.some.inj hreply
  case called =>
    exact fun inbox task callback hl hcallback =>
      ((hknown.tasks inbox task hl).caller callback hcallback).1
  case bound =>
    intro relay hrelay inbox task hl hcallback
    have henvelope := hknown.relays relay hrelay inbox task hl hcallback
    obtain ⟨socket, hsocket⟩ := (hknown.tasks inbox task hl).announced
    have hid := (hconsistent.relays relay hrelay).announced
    rw [henvelope] at hid
    rw [hconsistent.socket_unique hid (hknown.announced _ hsocket)]
    exact ⟨henvelope, hsocket⟩
  case announcedOnce =>
    intro socket request other hrequest hother
    have hid := List.inj_on_of_nodup_map hknown.sockets.once (hknown.announced _ hrequest)
      (hknown.announced _ hother) rfl
    have hpair := List.inj_on_of_nodup_map hknown.announcedOnce hrequest hother
      (congrArg Prod.fst hid)
    exact congrArg Prod.snd hpair
  case matched => exact fun inbox task hl => (hknown.tasks inbox task hl).matched

/-- Inboxes of the clients of the samples. -/
def sampleOwn (inbox : String) : Bool := inbox == "_INBOX.reader"

/-- A reader and someone else claim one connection, and the reader calls
back. -/
def sampleService : List (Event Unit) :=
  [.ingress .acceptPublic,
    .detect 0 (some "docs.example") [] "c1" (some "192.0.2.1") true,
    .receive "_INBOX.reader" (readerState true) 0,
    .ingress (.collected 0 [⟨.ok ⟨"zoe", "c1"⟩, some "_INBOX.zoe"⟩,
      ⟨.ok (Task.claim ⟨readerState true, ⟨"c1", ⟨some "docs.example", none, false⟩⟩, false, none,
        false⟩), some "_INBOX.reader"⟩]),
    .ingress (.publishedAck 0), .ingress (.publishedAck 0), .ingress (.register 0),
    .acknowledge "_INBOX.reader" ⟨"_INBOX.reader", true, "docs-client", "c1", none⟩,
    .dial "_INBOX.reader", .present "_INBOX.reader"]

/-- The reader serves the connection. -/
theorem served_as_announced_reader :
    ∃ system, run (step sampleConfig sampleOwn) (System.initial sampleConfig) sampleService =
      some system ∧ system.ingress.history.relays = [⟨0, 0, "docs-client", "c1"⟩] ∧
      ServedAsAnnounced system := by
  have hrelays : (run (step sampleConfig sampleOwn) (System.initial sampleConfig)
      sampleService).map (fun system => system.ingress.history.relays) =
        some [⟨0, 0, "docs-client", "c1"⟩] := by decide +kernel
  obtain ⟨system, hrun, hsystem⟩ := Option.map_eq_some_iff.mp hrelays
  exact ⟨system, hrun, hsystem, served_as_announced sampleConfig sampleOwn system ⟨_, hrun⟩⟩

end LfpPipe.ClaimProtocol
