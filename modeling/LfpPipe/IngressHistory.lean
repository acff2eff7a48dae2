import LfpPipe.IngressSafety

/-!
# What a step of the ingress adds to its history

Which event brings a winner or a relay is told here, next to what no event
takes away. A winner is the sender of one of the messages that were collected,
a relay is for a callback that has just sent its prefix, and a public socket
is announced once.
-/

namespace LfpPipe.IngressHistory

open Fallible SharedConfig OwnedTables TransitionRuns IngressClaims IngressPairing
open IngressOwnership IngressSafety

variable {config : IngressConfig} {s next : State}

/-- The winner is the sender of one of the messages. -/
theorem selectWinner_mem {cursors : String → ℕ} {hostname : Option String} {connectionId : String}
    {messages : List ClaimMessage} {selection : Selection}
    (h : selectWinner cursors hostname connectionId messages = .ok selection) :
    ∃ message ∈ messages, message.reply = selection.winner.reply ∧
      message.payload = .ok ⟨selection.winner.clientId, selection.winner.connectionId⟩ := by
  simp only [selectWinner, validClaims, bind_eq_ok, orMissing_eq_ok, Except.ok.injEq] at h
  obtain ⟨claims, ⟨unsorted, hcollect, rfl⟩, winner, hwinner, rfl⟩ := h
  have hm := List.mem_of_getElem? hwinner
  rw [List.mem_insertionSort] at hm
  obtain ⟨message, hmessage, hreceive⟩ := exists_mem_of_forall₂ (collect_eq_ok.mp hcollect) hm
  simp only [receiveClaim, bind_eq_ok, ensure_eq_ok, Except.ok.injEq] at hreceive
  obtain ⟨claim, hclaim, -, -, rfl⟩ := hreceive
  exact ⟨message, hmessage, rfl, hclaim⟩

/-- A message was collected whose sender is the winner. -/
def CollectedFrom (event : Event) (winner : Winner) : Prop :=
  ∃ socket messages message, event = .collected socket messages ∧ message ∈ messages ∧
    message.reply = winner.reply ∧ message.payload = .ok ⟨winner.clientId, winner.connectionId⟩

/-- What a step of the ingress adds to its history. -/
structure Grows (s : State) (event : Event) (next : State) : Prop where
  /-- Identifiers stay handed out. -/
  ids : ∀ used ∈ s.history.ids, used ∈ next.history.ids
  /-- Acknowledgements stay published. -/
  published : ∀ ack ∈ s.history.published, ack ∈ next.history.published
  /-- Callbacks are numbered upwards. -/
  nextCallback : s.nextCallback ≤ next.nextCallback
  /-- A new winner sent one of the collected messages. -/
  winners : ∀ winner ∈ next.history.winners,
    winner ∈ s.history.winners ∨ CollectedFrom event winner
  /-- A new relay is for a callback that sends its prefix. -/
  relays : ∀ relay ∈ next.history.relays,
    relay ∈ s.history.relays ∨ event = .callbackPrefix relay.callback relay.envelope

/-- A handler starts no relay, and a winner is the sender of a message. -/
theorem handlerStep_ledger {socket : ℕ} {handler : Handler} {event : Event}
    (hs : handlerStep config s socket handler event = some next) :
    next.history.relays = s.history.relays ∧
      ∀ winner ∈ next.history.winners,
        winner ∈ s.history.winners ∨ CollectedFrom event winner := by
  have hkept : s.history.relays = s.history.relays ∧ ∀ winner ∈ s.history.winners,
      winner ∈ s.history.winners ∨ CollectedFrom event winner := ⟨rfl, fun winner hm => .inl hm⟩
  obtain ⟨permit, stage⟩ := handler
  cases event with
  | detected other hostname preface connectionId =>
    cases stage with
    | detecting =>
      simp only [handlerStep, State.detected] at hs
      split at hs
      · cases hs
        exact hkept
      · split at hs
        · cases hs
        · cases hs
          exact hkept
    | passthrough backendAddr => cases hs
    | claiming _ _ _ => cases hs
    | acknowledging _ _ _ _ => cases hs
  | handlerEnded other =>
    cases stage with
    | acknowledging _ _ _ _ => cases hs
    | detecting =>
      cases hs
      exact hkept
    | passthrough backendAddr =>
      cases hs
      exact hkept
    | claiming _ _ _ =>
      cases hs
      exact hkept
  | collected other messages =>
    cases stage with
    | claiming connectionId hostname preface =>
      simp only [handlerStep, State.collected] at hs
      split at hs
      · split at hs
        · cases hs
          exact hkept
        · next selection hselect =>
          cases hs
          refine ⟨rfl, fun winner hm => ?_⟩
          rcases List.mem_append.mp hm with hold | hnew
          · exact .inl hold
          · rw [List.mem_singleton.mp hnew]
            obtain ⟨message, hmessage, hreply, hpayload⟩ := selectWinner_mem hselect
            exact .inr ⟨other, _, message, rfl, hmessage, hreply, hpayload⟩
      · cases hs
    | detecting => cases hs
    | passthrough backendAddr => cases hs
    | acknowledging _ _ _ _ => cases hs
  | publishedAck other =>
    cases stage with
    | acknowledging connectionId preface winner acks =>
      cases acks with
      | nil => cases hs
      | cons ack rest =>
        cases hs
        exact hkept
    | detecting => cases hs
    | passthrough backendAddr => cases hs
    | claiming _ _ _ => cases hs
  | publishFailed other =>
    cases stage with
    | acknowledging connectionId preface winner acks =>
      cases acks with
      | nil => cases hs
      | cons ack rest =>
        cases hs
        exact hkept
    | detecting => cases hs
    | passthrough backendAddr => cases hs
    | claiming _ _ _ => cases hs
  | register other =>
    cases stage with
    | acknowledging connectionId preface winner acks =>
      cases acks with
      | nil =>
        cases hs
        exact hkept
      | cons ack rest => cases hs
    | detecting => cases hs
    | passthrough backendAddr => cases hs
    | claiming _ _ _ => cases hs
  | tick => cases hs
  | acceptPublic => cases hs
  | wake connectionId => cases hs
  | acceptCallback => cases hs
  | callbackEnded callback => cases hs
  | callbackPrefix callback envelope => cases hs
  | relayEnded callback => cases hs

/-- A step that is left to a handler starts no relay. -/
theorem socketStep_ledger (event : Event)
    (hs : (event.socket.bind fun socket => (s.handlers.lookup socket).bind fun handler =>
      handlerStep config s socket handler event) = some next) :
    next.history.relays = s.history.relays ∧
      ∀ winner ∈ next.history.winners,
        winner ∈ s.history.winners ∨ CollectedFrom event winner := by
  obtain ⟨socket, -, hhandler⟩ := Option.bind_eq_some_iff.mp hs
  obtain ⟨handler, -, hstep⟩ := Option.bind_eq_some_iff.mp hhandler
  exact handlerStep_ledger hstep

/-- New winners and relays come from the event. -/
theorem step_ledger {event : Event}
    (hs : step config s event = some next) :
    (∀ winner ∈ next.history.winners, winner ∈ s.history.winners ∨ CollectedFrom event winner) ∧
      ∀ relay ∈ next.history.relays,
        relay ∈ s.history.relays ∨ event = .callbackPrefix relay.callback relay.envelope := by
  have hkept : (∀ winner ∈ s.history.winners,
      winner ∈ s.history.winners ∨ CollectedFrom event winner) ∧
      ∀ relay ∈ s.history.relays,
        relay ∈ s.history.relays ∨ event = .callbackPrefix relay.callback relay.envelope :=
    ⟨fun winner hm => .inl hm, fun relay hm => .inl hm⟩
  have hhandler : ∀ event : Event,
      (event.socket.bind fun socket => (s.handlers.lookup socket).bind fun handler =>
        handlerStep config s socket handler event) = some next →
      (∀ winner ∈ next.history.winners, winner ∈ s.history.winners ∨ CollectedFrom event winner) ∧
        ∀ relay ∈ next.history.relays,
          relay ∈ s.history.relays ∨ event = .callbackPrefix relay.callback relay.envelope := by
    intro event hs
    obtain ⟨hrelays, hwinners⟩ := socketStep_ledger event hs
    exact ⟨hwinners, fun relay hm => .inl (hrelays ▸ hm)⟩
  cases event with
  | tick =>
    cases hs
    exact hkept
  | acceptPublic =>
    simp only [step, State.acceptPublic, Option.some.injEq] at hs
    subst hs
    split
    · exact hkept
    · split
      · exact hkept
      · exact hkept
  | wake connectionId =>
    simp only [step] at hs
    split at hs
    · simp only [Option.some.injEq, State.cleanup] at hs
      subst hs
      split
      · split
        · exact hkept
        · exact hkept
      · exact hkept
    · cases hs
  | acceptCallback =>
    simp only [step, State.acceptCallback, Option.some.injEq] at hs
    subst hs
    split
    · exact hkept
    · split
      · exact hkept
      · exact hkept
  | callbackEnded callback =>
    obtain ⟨permit, -, rfl⟩ := Option.map_eq_some_iff.mp hs
    exact hkept
  | callbackPrefix callback envelope =>
    obtain ⟨permit, -, rfl⟩ := Option.map_eq_some_iff.mp hs
    unfold State.handleClientData
    split
    · exact hkept
    · split
      · exact hkept
      · refine ⟨fun winner hm => .inl hm, fun relay hm => ?_⟩
        rcases List.mem_append.mp hm with hold | hnew
        · exact .inl hold
        · rw [List.mem_singleton.mp hnew]
          exact .inr rfl
  | relayEnded callback =>
    obtain ⟨permit, -, rfl⟩ := Option.map_eq_some_iff.mp hs
    exact hkept
  | detected socket hostname preface connectionId =>
    exact hhandler (.detected socket hostname preface connectionId) hs
  | handlerEnded socket => exact hhandler (.handlerEnded socket) hs
  | collected socket messages => exact hhandler (.collected socket messages) hs
  | publishedAck socket => exact hhandler (.publishedAck socket) hs
  | publishFailed socket => exact hhandler (.publishFailed socket) hs
  | register socket => exact hhandler (.register socket) hs

/-- No move forgets identifiers, acknowledgements or callbacks. -/
theorem moves_remember (h : Moves config s next) :
    (∀ used ∈ s.history.ids, used ∈ next.history.ids) ∧
      (∀ ack ∈ s.history.published, ack ∈ next.history.published) ∧
      s.nextCallback ≤ next.nextCallback := by
  have hsame : (∀ used ∈ s.history.ids, used ∈ s.history.ids) ∧
      (∀ ack ∈ s.history.published, ack ∈ s.history.published) ∧
      s.nextCallback ≤ s.nextCallback := ⟨fun _ hm => hm, fun _ hm => hm, Nat.le_refl _⟩
  cases h with
  | announced hostname preface hl hfresh =>
    exact ⟨fun used hm => List.mem_append_left _ hm, hsame.2⟩
  | published hl => exact ⟨hsame.1, fun ack hm => List.mem_append_left _ hm, hsame.2.2⟩
  | callbackRejected => exact ⟨hsame.1, hsame.2.1, Nat.le_succ _⟩
  | callbackOpened permit capacity hpermit hcapacity =>
    exact ⟨hsame.1, hsame.2.1, Nat.le_succ _⟩
  | ticked => exact hsame
  | rejected => exact hsame
  | opened permit capacity hpermit hcapacity => exact hsame
  | bypassed backendAddr hl => exact hsame
  | ended hl hstage => exact hsame
  | selected hl hid hfair => exact hsame
  | publishFailed hl => exact hsame
  | registered hl => exact hsame
  | idled timers => exact hsame
  | expired timers hl => exact hsame
  | callbackEnded hl => exact hsame
  | unknown hl hnone => exact hsame
  | mismatched hl hentry hclient => exact hsame
  | paired hl hentry hclient => exact hsame
  | relayEnded hl => exact hsame

/-- Every step of the ingress adds to its history only. -/
theorem step_grows {event : Event}
    (hs : step config s event = some next) : Grows s event next := by
  obtain ⟨hids, hpublished, hcallbacks⟩ := moves_remember (step_moves hs)
  obtain ⟨hwinners, hrelays⟩ := step_ledger hs
  exact ⟨hids, hpublished, hcallbacks, hwinners, hrelays⟩

/-- A public socket is announced at most once, after its detection. -/
structure AnnouncedOnce (s : State) : Prop where
  /-- Only accepted sockets are announced. -/
  opened : ∀ used ∈ s.history.ids, used.2 < s.nextIngress
  /-- A socket under detection is not announced yet. -/
  detecting : ∀ socket permit, s.handlers.lookup socket = some ⟨permit, .detecting⟩ →
    socket ∉ s.history.ids.map Prod.snd
  /-- No socket is announced twice. -/
  once : (s.history.ids.map Prod.snd).Nodup

/-- A move that announces nothing and starts no detection. -/
theorem AnnouncedOnce.of_same (h : AnnouncedOnce s) (hids : next.history.ids = s.history.ids)
    (hopened : s.nextIngress ≤ next.nextIngress)
    (hhandlers : ∀ socket permit, next.handlers.lookup socket = some ⟨permit, .detecting⟩ →
      s.handlers.lookup socket = some ⟨permit, .detecting⟩) : AnnouncedOnce next := by
  refine ⟨?_, ?_, ?_⟩
  · rw [hids]
    exact fun used hm => Nat.lt_of_lt_of_le (h.opened used hm) hopened
  · rw [hids]
    exact fun socket permit hl => h.detecting socket permit (hhandlers socket permit hl)
  · rw [hids]
    exact h.once

/-- A handler that moves to a later stage is not under detection. -/
theorem detecting_of_insert {socket other : ℕ} {permit moved : Bool} {stage : Stage}
    (hstage : stage ≠ .detecting)
    (hl : (s.handlers.insert socket ⟨moved, stage⟩).lookup other = some ⟨permit, .detecting⟩) :
    s.handlers.lookup other = some ⟨permit, .detecting⟩ := by
  rcases lookup_of_insert hl with ⟨-, hsame⟩ | ⟨-, hold⟩
  · cases hsame
    exact absurd rfl hstage
  · exact hold

/-- A handled socket was accepted. -/
theorem lt_nextIngress (h : SocketsPlaced s) {socket : ℕ} {handler : Handler}
    (hl : s.handlers.lookup socket = some handler) : socket < s.nextIngress := by
  by_contra hlt
  have hpos : 0 < owned handlerSocket s.handlers socket :=
    owned_pos hl (List.mem_singleton.mpr rfl)
  have hzero := (h socket).2 hlt
  unfold socketPlaces at hzero
  omega

/-- Every move announces a socket at most once. -/
theorem moves_announcedOnce (hplaced : SocketsPlaced s) (hs : AnnouncedOnce s)
    (h : Moves config s next) : AnnouncedOnce next := by
  have hsame : ∀ socket permit, s.handlers.lookup socket = some ⟨permit, .detecting⟩ →
      s.handlers.lookup socket = some ⟨permit, .detecting⟩ := fun _ _ hl => hl
  have herase : ∀ gone socket permit,
      (s.handlers.erase gone).lookup socket = some ⟨permit, .detecting⟩ →
        s.handlers.lookup socket = some ⟨permit, .detecting⟩ :=
    fun gone socket permit hl => (lookup_of_erase hl).2
  cases h with
  | @announced socket permit hostname preface connectionId hl hfresh =>
    refine ⟨?_, ?_, ?_⟩
    · intro used hm
      rcases List.mem_append.mp hm with hold | hnew
      · exact hs.opened used hold
      · rw [List.mem_singleton.mp hnew]
        exact lt_nextIngress hplaced hl
    · intro other permit' hother hm
      have hold := detecting_of_insert (by simp) hother
      rcases List.mem_append.mp (List.map_append ▸ hm) with hbefore | hnew
      · exact hs.detecting other permit' hold hbefore
      · rw [List.map_singleton, List.mem_singleton] at hnew
        subst hnew
        rcases lookup_of_insert hother with ⟨-, hstage⟩ | ⟨hne, -⟩
        · cases hstage
        · exact hne rfl
    · simp only [State.announce, List.map_append, List.map_cons, List.map_nil]
      rw [← List.concat_eq_append]
      exact List.Nodup.concat (hs.detecting socket permit hl) hs.once
  | opened permit capacity hpermit hcapacity =>
    refine ⟨fun used hm => Nat.lt_succ_of_lt (hs.opened used hm), ?_, hs.once⟩
    intro socket permit' hl hm
    rcases lookup_of_insert hl with ⟨rfl, -⟩ | ⟨-, hold⟩
    · obtain ⟨used, hused, hsocket⟩ := List.mem_map.mp hm
      exact absurd (hsocket ▸ hs.opened used hused) (Nat.lt_irrefl _)
    · exact hs.detecting socket permit' hold hm
  | bypassed backendAddr hl =>
    exact hs.of_same rfl (Nat.le_refl _) fun _ _ => detecting_of_insert (by simp)
  | selected hl hid hfair =>
    exact hs.of_same rfl (Nat.le_refl _) fun _ _ => detecting_of_insert (by simp)
  | published hl =>
    exact hs.of_same rfl (Nat.le_refl _) fun _ _ => detecting_of_insert (by simp)
  | rejected => exact hs.of_same rfl (Nat.le_succ _) hsame
  | ended hl hstage => exact hs.of_same rfl (Nat.le_refl _) (herase _)
  | publishFailed hl => exact hs.of_same rfl (Nat.le_refl _) (herase _)
  | registered hl => exact hs.of_same rfl (Nat.le_refl _) (herase _)
  | ticked => exact hs.of_same rfl (Nat.le_refl _) hsame
  | idled timers => exact hs.of_same rfl (Nat.le_refl _) hsame
  | expired timers hl => exact hs.of_same rfl (Nat.le_refl _) hsame
  | callbackRejected => exact hs.of_same rfl (Nat.le_refl _) hsame
  | callbackOpened permit capacity hpermit hcapacity =>
    exact hs.of_same rfl (Nat.le_refl _) hsame
  | callbackEnded hl => exact hs.of_same rfl (Nat.le_refl _) hsame
  | unknown hl hnone => exact hs.of_same rfl (Nat.le_refl _) hsame
  | mismatched hl hentry hclient => exact hs.of_same rfl (Nat.le_refl _) hsame
  | paired hl hentry hclient => exact hs.of_same rfl (Nat.le_refl _) hsame
  | relayEnded hl => exact hs.of_same rfl (Nat.le_refl _) hsame

end LfpPipe.IngressHistory
