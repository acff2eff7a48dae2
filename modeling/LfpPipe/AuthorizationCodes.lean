import Mathlib.Data.List.Basic

/-!
# Sign-ins with authorization codes and proof keys

An agent begins a sign-in with a challenge, a user signs in at an identity
provider from some agent, which gets a code that is bound to a challenge, and
the code finishes a sign-in that was begun with this challenge. Agents may be
dishonest and then share what they have. The ledger records what happened;
the rules say when an entry may be made, and as long as they are followed
every session belongs to a user who signed in from the same agent.
-/

namespace LfpPipe.AuthorizationCodes

variable {Agent Code Challenge User : Type*}

/-- An agent can have what another one has: the two are the same, or both
dishonest. -/
def Shares (honest : Agent → Prop) (left right : Agent) : Prop :=
  left = right ∨ (¬ honest left ∧ ¬ honest right)

/-- An agent has what it has. -/
theorem Shares.refl {honest : Agent → Prop} (agent : Agent) : Shares honest agent agent := .inl rfl

/-- What is passed on twice is passed on. -/
theorem Shares.trans {honest : Agent → Prop} {first second third : Agent}
    (hleft : Shares honest first second) (hright : Shares honest second third) :
    Shares honest first third := by
  rcases hleft with rfl | ⟨hfirst, hsecond⟩
  · exact hright
  · rcases hright with rfl | ⟨-, hthird⟩
    · exact .inr ⟨hfirst, hsecond⟩
    · exact .inr ⟨hfirst, hthird⟩

/-- An honest agent has what it has only. -/
theorem Shares.eq_of_honest {honest : Agent → Prop} {left right : Agent}
    (h : Shares honest left right) (hright : honest right) : left = right := by
  rcases h with rfl | ⟨-, hdishonest⟩
  · rfl
  · exact absurd hright hdishonest

/-- A code that the identity provider has handed out. -/
structure Grant (Agent Code Challenge User : Type*) where
  /-- From where the user signed in, and who got the code. -/
  agent : Agent
  /-- The code. -/
  code : Code
  /-- The challenge of the authorization request. -/
  challenge : Challenge
  /-- The user that signed in. -/
  user : User
  deriving DecidableEq

/-- What has happened so far. -/
structure Ledger (Agent Code Challenge User : Type*) where
  /-- The challenges that sign-ins were begun with, and by whom. -/
  begun : List (Agent × Challenge)
  /-- The codes that were handed out. -/
  grants : List (Grant Agent Code Challenge User)
  /-- The sessions that were opened, each with the grant that it was opened for. -/
  sessions : List (Agent × Grant Agent Code Challenge User)

/-- Nothing has happened. -/
def Ledger.empty : Ledger Agent Code Challenge User := ⟨[], [], []⟩

/-- One more thing that happens. -/
inductive Entry (Agent Code Challenge User : Type*) where
  /-- A sign-in begins. -/
  | begin (agent : Agent) (challenge : Challenge)
  /-- A user signs in, and the agent gets a code. -/
  | grant (grant : Grant Agent Code Challenge User)
  /-- A session is opened with a code. -/
  | finish (agent : Agent) (grant : Grant Agent Code Challenge User)

/-- Write an entry down. -/
def Ledger.record (ledger : Ledger Agent Code Challenge User) :
    Entry Agent Code Challenge User → Ledger Agent Code Challenge User
  | .begin agent challenge => { ledger with begun := (agent, challenge) :: ledger.begun }
  | .grant grant => { ledger with grants := grant :: ledger.grants }
  | .finish agent grant => { ledger with sessions := (agent, grant) :: ledger.sessions }

/-- When an entry may be made. -/
inductive Permitted (honest : Agent → Prop) (ledger : Ledger Agent Code Challenge User) :
    Entry Agent Code Challenge User → Prop where
  /-- The challenge of an honest agent was not guessed before. -/
  | begin {agent : Agent} {challenge : Challenge}
    (hfresh : honest agent → ∀ grant ∈ ledger.grants, grant.challenge ≠ challenge) :
    Permitted honest ledger (.begin agent challenge)
  /-- An authorization request with the challenge of an honest agent comes from
  this agent. -/
  | grant {grant : Grant Agent Code Challenge User}
    (hown : ∀ owner, (owner, grant.challenge) ∈ ledger.begun → honest owner → owner = grant.agent) :
    Permitted honest ledger (.grant grant)
  /-- The code answers a sign-in that the agent has the proof key of, and an
  honest agent that got a code shows it to nobody. -/
  | finish {agent owner : Agent} {grant : Grant Agent Code Challenge User}
    (hgrant : grant ∈ ledger.grants) (hbegun : (owner, grant.challenge) ∈ ledger.begun)
    (hshares : Shares honest owner agent) (hcode : honest grant.agent → grant.agent = agent) :
    Permitted honest ledger (.finish agent grant)

/-- What the rules keep true. -/
structure Sound (honest : Agent → Prop) (ledger : Ledger Agent Code Challenge User) : Prop where
  /-- A code for the challenge of an honest agent was handed to this agent. -/
  grants : ∀ grant ∈ ledger.grants, ∀ owner, (owner, grant.challenge) ∈ ledger.begun →
    honest owner → owner = grant.agent
  /-- Every session is one of a user who signed in from the same agent, for a
  sign-in that the agent itself has begun. -/
  sessions : ∀ agent grant, (agent, grant) ∈ ledger.sessions → grant ∈ ledger.grants ∧
    Shares honest grant.agent agent ∧
      ∃ owner, Shares honest owner agent ∧ (owner, grant.challenge) ∈ ledger.begun

/-- At the beginning there is nothing to show. -/
theorem sound_empty (honest : Agent → Prop) :
    Sound honest (.empty : Ledger Agent Code Challenge User) where
  grants _ hg := by cases hg
  sessions _ _ hs := by cases hs

/-- A code that finishes a sign-in was handed to an agent that shares with the
one that finishes it. -/
theorem Sound.shares {honest : Agent → Prop} {ledger : Ledger Agent Code Challenge User}
    (h : Sound honest ledger) {agent owner : Agent} {grant : Grant Agent Code Challenge User}
    (hgrant : grant ∈ ledger.grants) (hbegun : (owner, grant.challenge) ∈ ledger.begun)
    (hshares : Shares honest owner agent) (hcode : honest grant.agent → grant.agent = agent) :
    Shares honest grant.agent agent := by
  by_cases hreceiver : honest grant.agent
  · exact .inl (hcode hreceiver)
  · by_cases hagent : honest agent
    · have howner := hshares.eq_of_honest hagent
      subst howner
      exact .inl (h.grants grant hgrant owner hbegun hagent).symm
    · exact .inr ⟨hreceiver, hagent⟩

/-- Every permitted entry keeps the ledger sound. -/
theorem Sound.record {honest : Agent → Prop} {ledger : Ledger Agent Code Challenge User}
    (h : Sound honest ledger) {entry : Entry Agent Code Challenge User}
    (hpermitted : Permitted honest ledger entry) : Sound honest (ledger.record entry) := by
  cases hpermitted with
  | @begin agent challenge hfresh =>
    constructor
    case grants =>
      intro grant hg owner hbegun howner
      rcases List.mem_cons.mp hbegun with hnew | hold
      · obtain ⟨rfl, hchallenge⟩ := Prod.mk.inj hnew
        exact absurd hchallenge (hfresh howner grant hg)
      · exact h.grants grant hg owner hold howner
    case sessions =>
      intro receiver grant hs
      obtain ⟨hg, hshares, owner, howner, hbegun⟩ := h.sessions receiver grant hs
      exact ⟨hg, hshares, owner, howner, List.mem_cons_of_mem _ hbegun⟩
  | @grant added hown =>
    constructor
    case grants =>
      intro grant hg owner hbegun howner
      rcases List.mem_cons.mp hg with rfl | hold
      · exact hown owner hbegun howner
      · exact h.grants grant hold owner hbegun howner
    case sessions =>
      intro receiver grant hs
      obtain ⟨hg, hshares, hbegun⟩ := h.sessions receiver grant hs
      exact ⟨List.mem_cons_of_mem _ hg, hshares, hbegun⟩
  | @finish agent owner added hgrant hbegun hshares hcode =>
    constructor
    case grants => exact h.grants
    case sessions =>
      intro receiver grant hs
      rcases List.mem_cons.mp hs with hnew | hold
      · obtain ⟨rfl, rfl⟩ := Prod.mk.inj hnew
        exact ⟨hgrant, h.shares hgrant hbegun hshares hcode, owner, hshares, hbegun⟩
      · exact h.sessions receiver grant hold

/-- A system follows the rules in a step when it makes a permitted entry or none. -/
def Follows (honest : Agent → Prop) (ledger next : Ledger Agent Code Challenge User) : Prop :=
  next = ledger ∨ ∃ entry, Permitted honest ledger entry ∧ next = ledger.record entry

/-- Following the rules keeps the ledger sound. -/
theorem Sound.follows {honest : Agent → Prop} {ledger next : Ledger Agent Code Challenge User}
    (h : Sound honest ledger) (hfollows : Follows honest ledger next) : Sound honest next := by
  rcases hfollows with rfl | ⟨entry, hpermitted, rfl⟩
  · exact h
  · exact h.record hpermitted

end LfpPipe.AuthorizationCodes
