import Mathlib.Data.String.Basic
import LfpPipe.RotatingCursor
import LfpPipe.IngressSafety

/-!
# Fair selection among claims

The cursor of a route is reduced by a number of claimants that changes from
request to request, and it indexes a list that was sorted after its arrival. The
winner does not depend on the order of arrival, and while a route keeps its
claimants each of them wins in turn, whatever the cursor was before and whatever
the other tasks of the ingress do in between. A claim that is not valid ends the
selection, also when there are valid ones.
-/

namespace LfpPipe.ClaimSelection

open Fallible SharedConfig TransitionRuns RotatingCursor IngressClaims IngressPairing

/-- The clients of the claims that can be decoded, in the order of arrival. -/
def claimantsOf (messages : List ClaimMessage) : List String :=
  messages.filterMap fun message => message.payload.toOption.map ConnectionClaim.clientId

/-- The order in which claims are counted. -/
def sortedClients (clients : List String) : List String :=
  clients.insertionSort fun left right => left ≤ right

/-- The order of arrival does not matter. -/
theorem sortedClients_perm {clients others : List String} (h : clients.Perm others) :
    sortedClients clients = sortedClients others := by
  have hsorted : (sortedClients clients).SortedLE := List.sortedLE_insertionSort
  have hothers : (sortedClients others).SortedLE := List.sortedLE_insertionSort
  refine List.Perm.eq_of_sortedLE hsorted hothers ?_
  have hleft : (sortedClients clients).Perm clients := List.perm_insertionSort _ clients
  have hright : (sortedClients others).Perm others := List.perm_insertionSort _ others
  exact hleft.trans (h.trans hright.symm)

/-- Sorting keeps the number of clients. -/
theorem length_sortedClients (clients : List String) :
    (sortedClients clients).length = clients.length := List.length_insertionSort _ clients

/-- Messages that are received name their clients. -/
theorem claimants_of_collect {connectionId : String} {messages : List ClaimMessage}
    {received : List ReceivedClaim}
    (h : collect (receiveClaim connectionId) messages = .ok received) :
    received.map (fun claim => claim.1.clientId) = claimantsOf messages := by
  have hpairs := collect_eq_ok.mp h
  induction hpairs with
  | nil => rfl
  | @cons message claim messages received hreceive hrest ih =>
    simp only [receiveClaim, bind_eq_ok, ensure_eq_ok, Except.ok.injEq] at hreceive
    obtain ⟨decoded, hpayload, -, -, rfl⟩ := hreceive
    rw [List.map_cons, ih (collect_eq_ok.mpr hrest), claimantsOf, claimantsOf,
      List.filterMap_cons, hpayload]
    rfl

/-- The valid claims are counted in the order of their clients. -/
theorem clients_of_validClaims {connectionId : String} {messages : List ClaimMessage}
    {claims : List ReceivedClaim} (h : validClaims connectionId messages = .ok claims) :
    claims.map (fun claim => claim.1.clientId) = sortedClients (claimantsOf messages) := by
  simp only [validClaims, bind_eq_ok, Except.ok.injEq] at h
  obtain ⟨received, hcollect, rfl⟩ := h
  rw [← claimants_of_collect hcollect, sortedClients]
  apply List.map_insertionSort
  intro left _ right _
  exact Iff.rfl

/-- There is a valid claim for each message. -/
theorem length_validClaims {connectionId : String} {messages : List ClaimMessage}
    {claims : List ReceivedClaim} (h : validClaims connectionId messages = .ok claims) :
    claims.length = messages.length := by
  simp only [validClaims, bind_eq_ok, Except.ok.injEq] at h
  obtain ⟨received, hcollect, rfl⟩ := h
  rw [List.length_insertionSort]
  exact (collect_eq_ok.mp hcollect).length_eq.symm

/-- The index lies within a list of claims that is not empty. -/
theorem nextClaimIndex_lt (cursors : String → ℕ) (key : String) {claimCount : ℕ}
    (h : 0 < claimCount) : (nextClaimIndex cursors key claimCount).1 < claimCount :=
  Nat.mod_lt (cursors key) h

/-- A selection among valid claims finds a winner. -/
theorem selectWinner_of_validClaims {connectionId : String} {messages : List ClaimMessage}
    {claims : List ReceivedClaim} (h : validClaims connectionId messages = .ok claims)
    (hne : messages ≠ []) (cursors : String → ℕ) (hostname : Option String) :
    ∃ selection, selectWinner cursors hostname connectionId messages = .ok selection := by
  have hpos : 0 < claims.length := by
    rw [length_validClaims h]
    exact List.length_pos_iff.mpr hne
  have hinside : (nextClaimIndex cursors (routeKey hostname) claims.length).1 < claims.length :=
    nextClaimIndex_lt cursors (routeKey hostname) hpos
  rw [selectWinner, h]
  change ∃ selection, (orMissing "index out of bounds"
    claims[(nextClaimIndex cursors (routeKey hostname) claims.length).1]? >>= _) = .ok selection
  rw [List.getElem?_eq_getElem hinside]
  exact ⟨_, rfl⟩

/-- What a selection has selected: the client under the cursor, in the order of
the clients, after which the cursor moves on. -/
theorem selectWinner_spec {cursors : String → ℕ} {hostname : Option String}
    {connectionId : String} {messages : List ClaimMessage} {selection : Selection}
    (h : selectWinner cursors hostname connectionId messages = .ok selection) :
    (sortedClients (claimantsOf messages))[cursors (routeKey hostname) %
        (claimantsOf messages).length]? = some selection.winner.clientId ∧
      selection.cursors =
        (nextClaimIndex cursors (routeKey hostname) (claimantsOf messages).length).2 := by
  simp only [selectWinner, bind_eq_ok, orMissing_eq_ok, Except.ok.injEq] at h
  obtain ⟨claims, hclaims, winner, hwinner, rfl⟩ := h
  have hclients := clients_of_validClaims hclaims
  have hlength : claims.length = (claimantsOf messages).length := by
    rw [← length_sortedClients, ← hclients, List.length_map]
  rw [← hclients, ← hlength]
  refine ⟨?_, rfl⟩
  rw [List.getElem?_map]
  exact congrArg (Option.map fun claim : ReceivedClaim => claim.1.clientId) hwinner

/-- The same claims in another order select the same client. -/
theorem selectWinner_perm {cursors : String → ℕ} {hostname : Option String} {connectionId : String}
    {messages others : List ClaimMessage} {selection : Selection} (hperm : messages.Perm others)
    (h : selectWinner cursors hostname connectionId messages = .ok selection) :
    ∃ other, selectWinner cursors hostname connectionId others = .ok other ∧
      other.winner.clientId = selection.winner.clientId ∧ other.cursors = selection.cursors := by
  have hclaimants : (claimantsOf messages).Perm (claimantsOf others) := hperm.filterMap _
  obtain ⟨hwinner, hcursors⟩ := selectWinner_spec h
  have hne : messages ≠ [] := by
    intro hempty
    rw [hempty] at hwinner
    cases hwinner
  have hothers : others ≠ [] := by
    intro hempty
    rw [hempty] at hperm
    exact hne hperm.eq_nil
  have hvalid : ∃ claims, validClaims connectionId others = .ok claims := by
    simp only [selectWinner, bind_eq_ok] at h
    obtain ⟨claims, hclaims, -⟩ := h
    simp only [validClaims, bind_eq_ok] at hclaims
    obtain ⟨received, hreceived, -⟩ := hclaims
    obtain ⟨again, hagain, -⟩ := collect_perm hperm hreceived
    rw [validClaims, hagain]
    exact ⟨_, rfl⟩
  obtain ⟨claims, hclaims⟩ := hvalid
  obtain ⟨other, hother⟩ := selectWinner_of_validClaims hclaims hothers cursors hostname
  obtain ⟨hotherWinner, hotherCursors⟩ := selectWinner_spec hother
  rw [← sortedClients_perm hclaimants, ← hclaimants.length_eq, hwinner] at hotherWinner
  rw [← hclaimants.length_eq, ← hcursors] at hotherCursors
  exact ⟨other, hother, (Option.some.inj hotherWinner).symm, hotherCursors⟩

/-- One selection of a run. -/
structure Round where
  /-- Cursor key of the route. -/
  route : String
  /-- The clients of the claims, in the order of arrival. -/
  claimants : List String
  /-- The selected client. -/
  winner : String
  deriving DecidableEq, Repr

/-- The selection that an event makes in a state of the ingress. -/
def roundOf (s : State) : Event → Option Round
  | .collected socket messages =>
    match s.handlers.lookup socket with
    | some ⟨_, .claiming connectionId hostname _⟩ =>
      match selectWinner s.routeClaimCursor hostname connectionId messages with
      | .ok selection =>
        some ⟨routeKey hostname, claimantsOf messages, selection.winner.clientId⟩
      | .error _ => none
    | _ => none
  | _ => none

/-- The selections of a run in their order. -/
def rounds (config : IngressConfig) : State → List Event → List Round
  | _, [] => []
  | s, event :: rest =>
    match step config s event with
    | some next => (roundOf s event).toList ++ rounds config next rest
    | none => []

/-- What a selection changes. -/
structure Served (s : State) (round : Round) (next : State) : Prop where
  /-- The client under the cursor wins. -/
  winner : (sortedClients round.claimants)[s.routeClaimCursor round.route %
    round.claimants.length]? = some round.winner
  /-- The cursor of the route moves on. -/
  cursors : next.routeClaimCursor =
    (nextClaimIndex s.routeClaimCursor round.route round.claimants.length).2
  /-- The winner is remembered. -/
  recorded : next.history.winners.map Winner.clientId =
    s.history.winners.map Winner.clientId ++ [round.winner]

/-- The cursors and the winners are as they were. -/
structure Unmoved (s next : State) : Prop where
  /-- The cursors are the same. -/
  cursors : next.routeClaimCursor = s.routeClaimCursor
  /-- The winners are the same. -/
  winners : next.history.winners = s.history.winners

/-- A collection of claims is a selection, or ends the handler. -/
theorem handlerStep_collected {config : IngressConfig} {s next : State} {socket other : ℕ}
    {handler : Handler} {messages : List ClaimMessage}
    (hlookup : s.handlers.lookup other = some handler)
    (h : handlerStep config s socket handler (.collected other messages) = some next) :
    match roundOf s (.collected other messages) with
    | some round => Served s round next
    | none => Unmoved s next := by
  obtain ⟨permit, stage⟩ := handler
  cases stage with
  | claiming connectionId hostname preface =>
    simp only [handlerStep, State.collected] at h
    rw [roundOf, hlookup]
    dsimp only
    cases hsubject : connectionSubject config hostname with
    | error error =>
      rw [hsubject] at h
      cases h
    | ok subject =>
      cases messages with
      | nil =>
        rw [hsubject] at h
        cases h
      | cons first rest =>
        rw [hsubject] at h
        dsimp only at h
        cases hselect : selectWinner s.routeClaimCursor hostname connectionId (first :: rest) with
        | error error =>
          rw [hselect] at h
          cases h
          exact ⟨rfl, rfl⟩
        | ok selection =>
          rw [hselect] at h
          cases h
          obtain ⟨hwinner, hcursors⟩ := selectWinner_spec hselect
          refine ⟨hwinner, hcursors, ?_⟩
          exact List.map_append
  | detecting => cases h
  | passthrough backendAddr => cases h
  | acknowledging _ _ _ _ => cases h

/-- Accepting a public socket moves no cursor. -/
theorem unmoved_acceptPublic (config : IngressConfig) (s : State) :
    Unmoved s (s.acceptPublic config) := by
  rw [State.acceptPublic]
  split
  · exact ⟨rfl, rfl⟩
  · split
    · exact ⟨rfl, rfl⟩
    · exact ⟨rfl, rfl⟩

/-- Accepting a callback moves no cursor. -/
theorem unmoved_acceptCallback (config : IngressConfig) (s : State) :
    Unmoved s (s.acceptCallback config) := by
  rw [State.acceptCallback]
  split
  · exact ⟨rfl, rfl⟩
  · split
    · exact ⟨rfl, rfl⟩
    · exact ⟨rfl, rfl⟩

/-- A cleanup timer moves no cursor. -/
theorem unmoved_cleanup (s : State) (timers : List (String × ℕ)) (connectionId : String) :
    Unmoved s ({ s with timers := timers }.cleanup connectionId) := by
  rw [State.cleanup]
  split
  · split
    · exact ⟨rfl, rfl⟩
    · exact ⟨rfl, rfl⟩
  · exact ⟨rfl, rfl⟩

/-- A callback moves no cursor. -/
theorem unmoved_handleClientData (s : State) (callback : ℕ) (permit : Bool)
    (envelope : PrefixEnvelope) : Unmoved s (s.handleClientData callback permit envelope) := by
  rw [State.handleClientData]
  split
  · exact ⟨rfl, rfl⟩
  · split
    · exact ⟨rfl, rfl⟩
    · exact ⟨rfl, rfl⟩

/-- After detection no cursor has moved. -/
theorem unmoved_detected {config : IngressConfig} {s next : State} {socket : ℕ} {permit : Bool}
    {hostname : Option String} {preface : List UInt8} {connectionId : String}
    (h : s.detected config socket permit hostname preface connectionId = some next) :
    Unmoved s next := by
  rw [State.detected] at h
  split at h
  · cases h
    exact ⟨rfl, rfl⟩
  · split at h
    · cases h
    · cases h
      exact ⟨rfl, rfl⟩

/-- A handler step makes a selection, or moves no cursor. -/
theorem handlerStep_round {config : IngressConfig} {s next : State} {socket : ℕ}
    {handler : Handler} {event : Event} (hsocket : event.socket = some socket)
    (hlookup : s.handlers.lookup socket = some handler)
    (h : handlerStep config s socket handler event = some next) :
    match roundOf s event with
    | some round => Served s round next
    | none => Unmoved s next := by
  cases event with
  | collected other messages =>
    cases hsocket
    exact handlerStep_collected hlookup h
  | detected other hostname preface connectionId =>
    obtain ⟨permit, stage⟩ := handler
    cases stage with
    | detecting => exact unmoved_detected h
    | passthrough backendAddr => cases h
    | claiming _ _ _ => cases h
    | acknowledging _ _ _ _ => cases h
  | handlerEnded other =>
    rw [handlerStep] at h
    split at h
    · cases h
    · cases h
      exact ⟨rfl, rfl⟩
  | publishedAck other =>
    rw [handlerStep] at h
    split at h
    · cases h
      exact ⟨rfl, rfl⟩
    · cases h
  | publishFailed other =>
    rw [handlerStep] at h
    split at h
    · cases h
      exact ⟨rfl, rfl⟩
    · cases h
  | register other =>
    rw [handlerStep] at h
    split at h
    · cases h
      exact ⟨rfl, rfl⟩
    · cases h
  | tick => cases h
  | acceptPublic => cases h
  | wake connectionId => cases h
  | acceptCallback => cases h
  | callbackEnded callback => cases h
  | callbackPrefix callback envelope => cases h
  | relayEnded callback => cases h

/-- A step that is left to a handler makes a selection, or moves no cursor. -/
theorem socketStep_round {config : IngressConfig} {s next : State} (event : Event)
    (h : (event.socket.bind fun socket => (s.handlers.lookup socket).bind fun handler =>
      handlerStep config s socket handler event) = some next) :
    match roundOf s event with
    | some round => Served s round next
    | none => Unmoved s next := by
  rw [Option.bind_eq_some_iff] at h
  obtain ⟨socket, hsocket, h⟩ := h
  rw [Option.bind_eq_some_iff] at h
  obtain ⟨handler, hlookup, hstep⟩ := h
  exact handlerStep_round hsocket hlookup hstep

/-- A step makes a selection, or moves no cursor. -/
theorem step_round {config : IngressConfig} {s next : State} {event : Event}
    (h : step config s event = some next) :
    match roundOf s event with
    | some round => Served s round next
    | none => Unmoved s next := by
  cases event with
  | tick =>
    cases h
    exact ⟨rfl, rfl⟩
  | acceptPublic =>
    cases h
    exact unmoved_acceptPublic config s
  | wake connectionId =>
    rw [step] at h
    split at h
    · cases h
      exact unmoved_cleanup s _ connectionId
    · cases h
  | acceptCallback =>
    cases h
    exact unmoved_acceptCallback config s
  | callbackEnded callback =>
    obtain ⟨permit, -, rfl⟩ := Option.map_eq_some_iff.mp h
    exact ⟨rfl, rfl⟩
  | callbackPrefix callback envelope =>
    obtain ⟨permit, -, rfl⟩ := Option.map_eq_some_iff.mp h
    exact unmoved_handleClientData s callback permit envelope
  | relayEnded callback =>
    obtain ⟨permit, -, rfl⟩ := Option.map_eq_some_iff.mp h
    exact ⟨rfl, rfl⟩
  | detected socket hostname preface connectionId =>
    exact socketStep_round (.detected socket hostname preface connectionId) h
  | handlerEnded socket =>
    exact socketStep_round (.handlerEnded socket) h
  | collected socket messages =>
    exact socketStep_round (.collected socket messages) h
  | publishedAck socket =>
    exact socketStep_round (.publishedAck socket) h
  | publishFailed socket =>
    exact socketStep_round (.publishFailed socket) h
  | register socket =>
    exact socketStep_round (.register socket) h

/-- The selections of a run are remembered in their order. -/
theorem rounds_recorded {config : IngressConfig} {s last : State} {events : List Event}
    (hrun : run (step config) s events = some last) :
    last.history.winners.map Winner.clientId =
      s.history.winners.map Winner.clientId ++ (rounds config s events).map Round.winner := by
  induction events generalizing s with
  | nil =>
    cases hrun
    rw [rounds, List.map_nil, List.append_nil]
  | cons event events ih =>
    obtain ⟨next, hnext, hrest⟩ := run_cons_iff.mp hrun
    have hstep := step_round hnext
    rw [ih hrest, rounds, hnext]
    dsimp only
    cases hround : roundOf s event with
    | none =>
      rw [hround] at hstep
      rw [hstep.winners]
      rfl
    | some round =>
      rw [hround] at hstep
      rw [hstep.recorded, List.append_assoc]
      rfl

/-- The selections of one route in a run. -/
def turnsOf (config : IngressConfig) (s : State) (events : List Event) (route : String) :
    List Round :=
  (rounds config s events).filter fun round => round.route == route

/-- While a route keeps its claimants, its cursor goes round them. -/
theorem turnsOf_takes {config : IngressConfig} {s last : State} {events : List Event}
    {route : String} {clients : List String} (hrun : run (step config) s events = some last)
    (hclaims : ∀ round ∈ turnsOf config s events route, round.claimants.Perm clients) :
    Takes (sortedClients clients) (s.routeClaimCursor route)
      ((turnsOf config s events route).map Round.winner) := by
  induction events generalizing s with
  | nil => exact .nil _
  | cons event events ih =>
    obtain ⟨next, hnext, hrest⟩ := run_cons_iff.mp hrun
    have hstep := step_round hnext
    rw [turnsOf, rounds, hnext] at hclaims ⊢
    dsimp only at hclaims ⊢
    cases hround : roundOf s event with
    | none =>
      rw [hround] at hstep hclaims
      rw [← hstep.cursors]
      exact ih hrest hclaims
    | some round =>
      rw [hround] at hstep hclaims
      rw [Option.toList_some, List.singleton_append, List.filter_cons] at hclaims ⊢
      by_cases hroute : round.route = route
      · rw [if_pos (beq_iff_eq.mpr hroute)] at hclaims ⊢
        have hperm := hclaims round List.mem_cons_self
        have hlength : round.claimants.length = (sortedClients clients).length := by
          rw [length_sortedClients, hperm.length_eq]
        have hcursor : next.routeClaimCursor route =
            (s.routeClaimCursor route + 1) % (sortedClients clients).length := by
          rw [hstep.cursors, nextClaimIndex, hroute, hlength]
          exact if_pos rfl
        have hwinner := hstep.winner
        rw [sortedClients_perm hperm, hroute, hlength] at hwinner
        have hlater := ih hrest fun other hother =>
          hclaims other (List.mem_cons_of_mem round hother)
        rw [hcursor] at hlater
        exact .cons hwinner hlater
      · have hother : ¬ (round.route == route) = true := by
          rw [beq_iff_eq]
          exact hroute
        rw [if_neg hother] at hclaims ⊢
        have hcursor : next.routeClaimCursor route = s.routeClaimCursor route := by
          rw [hstep.cursors, nextClaimIndex]
          exact if_neg (Ne.symm hroute)
        rw [← hcursor]
        exact ih hrest hclaims

/-- The index of a selection lies within its claims, of which there is one for
each collected message; the order of arrival does not change the winner; and
while a route keeps its claimants, as many selections as there are claimants let
each of them win once, from any state of the ingress and with anything else in
between. -/
theorem claim_selection_fair (config : IngressConfig) :
    (∀ (cursors : String → ℕ) (key : String) (claimCount : ℕ), 0 < claimCount →
      (nextClaimIndex cursors key claimCount).1 < claimCount) ∧
    (∀ (connectionId : String) (messages : List ClaimMessage) (claims : List ReceivedClaim),
      messages ≠ [] → validClaims connectionId messages = .ok claims →
      0 < claims.length ∧ ∀ (cursors : String → ℕ) (hostname : Option String),
        ∃ selection, selectWinner cursors hostname connectionId messages = .ok selection) ∧
    (∀ (cursors : String → ℕ) (hostname : Option String) (connectionId : String)
      (messages others : List ClaimMessage) (selection : Selection), messages.Perm others →
      selectWinner cursors hostname connectionId messages = .ok selection →
      ∃ other, selectWinner cursors hostname connectionId others = .ok other ∧
        other.winner.clientId = selection.winner.clientId ∧ other.cursors = selection.cursors) ∧
    (∀ (s last : State) (events : List Event) (route : String) (clients : List String),
      run (step config) s events = some last → clients.Nodup →
      (∀ round ∈ turnsOf config s events route, round.claimants.Perm clients) →
      (turnsOf config s events route).length = clients.length →
      ∀ client ∈ clients,
        ((turnsOf config s events route).map Round.winner).count client = 1) := by
  refine ⟨?_, ?_, ?_, ?_⟩
  · intro cursors key claimCount hpos
    exact nextClaimIndex_lt cursors key hpos
  · intro connectionId messages claims hne hvalid
    refine ⟨?_, selectWinner_of_validClaims hvalid hne⟩
    rw [length_validClaims hvalid]
    exact List.length_pos_iff.mpr hne
  · intro cursors hostname connectionId messages others selection hperm hselect
    exact selectWinner_perm hperm hselect
  · intro s last events route clients hrun hnodup hclaims hlength client hclient
    have htakes := turnsOf_takes hrun hclaims
    have hturns : ((turnsOf config s events route).map Round.winner).length =
        (sortedClients clients).length := by
      rw [List.length_map, hlength, length_sortedClients]
    have hsorted : (sortedClients clients).Perm clients := List.perm_insertionSort _ clients
    have hperm := (htakes.perm hturns).trans hsorted
    rw [hperm.count_eq]
    exact List.count_eq_one_of_mem hnodup hclient

/-- The claim of one client for a connection. -/
def soundClaim (client connectionId : String) : ClaimMessage :=
  ⟨.ok ⟨client, connectionId⟩, some ("ack." ++ client)⟩

/-- Two connections of one hostname, which the same clients claim in a different
order, with a connection of another hostname in between. -/
def sampleRounds : List Event :=
  [.acceptPublic, .detected 0 (some "docs.example") [] "c1",
    .collected 0 [soundClaim "laptop" "c1", soundClaim "desktop" "c1"],
    .acceptPublic, .detected 1 (some "wiki.example") [] "c2",
    .collected 1 [soundClaim "laptop" "c2"],
    .acceptPublic, .detected 2 (some "docs.example") [] "c3",
    .collected 2 [soundClaim "desktop" "c3", soundClaim "laptop" "c3"]]

/-- Each of the two clients wins once. -/
theorem claim_selection_fair_two :
    ∃ last, run (step IngressSafety.sampleConfig) (initial IngressSafety.sampleConfig)
        sampleRounds = some last ∧
      last.history.winners.map Winner.clientId = ["desktop", "laptop", "laptop"] ∧
      ∀ client ∈ ["laptop", "desktop"], ((turnsOf IngressSafety.sampleConfig
        (initial IngressSafety.sampleConfig) sampleRounds "docs.example").map
          Round.winner).count client = 1 := by
  have hruns : (run (step IngressSafety.sampleConfig) (initial IngressSafety.sampleConfig)
      sampleRounds).isSome = true := by decide +kernel
  obtain ⟨last, hrun⟩ := Option.isSome_iff_exists.mp hruns
  have hrounds : (rounds IngressSafety.sampleConfig (initial IngressSafety.sampleConfig)
      sampleRounds).map Round.winner = ["desktop", "laptop", "laptop"] := by decide +kernel
  have hlast := rounds_recorded hrun
  rw [hrounds] at hlast
  have hturns : turnsOf IngressSafety.sampleConfig (initial IngressSafety.sampleConfig)
      sampleRounds "docs.example" =
        [⟨"docs.example", ["laptop", "desktop"], "desktop"⟩,
          ⟨"docs.example", ["desktop", "laptop"], "laptop"⟩] := by decide +kernel
  refine ⟨last, hrun, hlast, ?_⟩
  refine (claim_selection_fair IngressSafety.sampleConfig).2.2.2 _ last sampleRounds "docs.example"
    ["laptop", "desktop"] hrun (by decide) ?_ ?_
  · rw [hturns]
    intro round hround
    rcases List.mem_pair.mp hround with rfl | rfl
    · exact List.Perm.refl _
    · exact List.Perm.swap _ _ _
  · rw [hturns]
    rfl

/-- A claim message that decodes to a claim of the connection. -/
def isValid (connectionId : String) (message : ClaimMessage) : Bool :=
  match message.payload with
  | .ok claim => claim.connectionId == connectionId
  | .error _ => false

/-- A message is received exactly when it is valid. -/
theorem succeeds_receiveClaim {connectionId : String} {message : ClaimMessage} :
    Succeeds (receiveClaim connectionId message) ↔ isValid connectionId message = true := by
  rw [receiveClaim, isValid]
  cases message.payload with
  | error error =>
    constructor
    · intro h
      obtain ⟨claim, hclaim⟩ := h
      cases hclaim
    · intro h
      cases h
  | ok claim =>
    rw [succeeds_bind]
    dsimp only
    constructor
    · intro h
      obtain ⟨decoded, hdecoded, hrest⟩ := h
      cases hdecoded
      obtain ⟨_, hensure, -⟩ := succeeds_bind.mp hrest
      exact ensure_eq_ok.mp hensure
    · intro h
      exact ⟨claim, rfl, succeeds_bind.mpr ⟨(), ensure_eq_ok.mpr h, succeeds_ok _⟩⟩

/-- The winner is the one that the valid claims alone would select. -/
def SelectsAmongValid (cursors : String → ℕ) (hostname : Option String) (connectionId : String)
    (messages : List ClaimMessage) : Prop :=
  ∃ selection alone, selectWinner cursors hostname connectionId messages = .ok selection ∧
    selectWinner cursors hostname connectionId (messages.filter (isValid connectionId)) =
      .ok alone ∧
    selection.winner = alone.winner

/-- Where there is a valid claim, the winner is selected among the valid claims
exactly when no other message was collected. -/
theorem invalid_claims_ignored_iff {cursors : String → ℕ} {hostname : Option String}
    {connectionId : String} {messages : List ClaimMessage}
    (h : ∃ message ∈ messages, isValid connectionId message = true) :
    SelectsAmongValid cursors hostname connectionId messages ↔
      ∀ message ∈ messages, isValid connectionId message = true := by
  constructor
  · intro hselects message hm
    obtain ⟨selection, alone, hselect, -, -⟩ := hselects
    simp only [selectWinner, bind_eq_ok] at hselect
    obtain ⟨claims, hclaims, -⟩ := hselect
    simp only [validClaims, bind_eq_ok] at hclaims
    obtain ⟨received, hreceived, -⟩ := hclaims
    exact succeeds_receiveClaim.mp (succeeds_collect.mp ⟨received, hreceived⟩ message hm)
  · intro hall
    have hfilter : messages.filter (isValid connectionId) = messages :=
      List.filter_eq_self.mpr hall
    have hne : messages ≠ [] := by
      intro hempty
      obtain ⟨message, hm, -⟩ := h
      rw [hempty] at hm
      cases hm
    have hcollect : Succeeds (collect (receiveClaim connectionId) messages) :=
      succeeds_collect.mpr fun message hm => succeeds_receiveClaim.mpr (hall message hm)
    obtain ⟨received, hreceived⟩ := hcollect
    have hvalid : ∃ claims, validClaims connectionId messages = .ok claims := by
      rw [validClaims, hreceived]
      exact ⟨_, rfl⟩
    obtain ⟨claims, hclaims⟩ := hvalid
    obtain ⟨selection, hselect⟩ := selectWinner_of_validClaims hclaims hne cursors hostname
    refine ⟨selection, selection, hselect, ?_, rfl⟩
    rw [hfilter]
    exact hselect

/-- Two valid claims select a winner. -/
theorem invalid_claims_ignored_two :
    SelectsAmongValid (fun _ => 0) (some "app.example.com") "c1"
      [soundClaim "laptop" "c1", soundClaim "desktop" "c1"] := by
  have hall : ∀ message ∈ [soundClaim "laptop" "c1", soundClaim "desktop" "c1"],
      isValid "c1" message = true := by
    intro message hm
    rcases List.mem_cons.mp hm with rfl | hm
    · rfl
    · rw [List.mem_singleton.mp hm]
      rfl
  have hvalid : ∃ message ∈ [soundClaim "laptop" "c1", soundClaim "desktop" "c1"],
      isValid "c1" message = true := ⟨soundClaim "laptop" "c1", List.mem_cons_self, rfl⟩
  exact (invalid_claims_ignored_iff hvalid).mpr hall

/-- A payload that is no claim ends the selection of a valid one. -/
theorem undecodable_claim_ends_selection :
    (∃ message ∈ [soundClaim "laptop" "c1", ⟨.error ["expected value at line 1 column 1"], none⟩],
      isValid "c1" message = true) ∧
    ¬ SelectsAmongValid (fun _ => 0) (some "app.example.com") "c1"
      [soundClaim "laptop" "c1", ⟨.error ["expected value at line 1 column 1"], none⟩] := by
  refine ⟨⟨soundClaim "laptop" "c1", List.mem_cons_self, rfl⟩, ?_⟩
  intro h
  obtain ⟨selection, alone, hselect, -, -⟩ := h
  cases hselect

end LfpPipe.ClaimSelection
