import LfpPipe.CoupledRuns
import LfpPipe.ManagedClients
import LfpPipe.StoredConfigurations

/-!
# Answers do not depend on the accounts of others

Two states of Authentik that differ in what other accounts are called and carry as
attributes are compared handler by handler. Both runs send the same requests,
and whatever becomes of them the answers are the same, errors included. The only
thing that an error tells about the attributes of another account is a number
that no floating point value holds.
-/

namespace LfpPipe.OwnershipIndependence

open GoText OwnedTables CoupledRuns RouteAuth TunnelTickets JsonValues RemotePrograms
open AuthentikApi DeviceEnrollment DevicePresence ServicePrincipals IdentityProvisioning
open StoredConfigurations ManagedClients

/-- The metadata of an account names the signed-in user, whose subject is not
empty, as its owner. -/
def Owner (checked : ℤ) (credentials : Credentials) (user : User) : Prop :=
  ∃ session, requireSession checked credentials = .ok session ∧ session.subject ≠ "" ∧
    (metadataFromUser user).managed = true ∧ (metadataFromUser user).ownerSubject = session.subject

/-- Calls to Authentik, each with its own outcome. -/
def calls (alloc : Allocator) : Outcome String → Service Authentik Request Answer :=
  fun outcome => deliver (apply alloc) outcome

/-- One account, or two accounts that are not owned and may have different display
names and attributes. -/
def Indistinct (owner : User → Prop) (user other : User) : Prop :=
  user = other ∨ ¬ owner user ∧ ¬ owner other ∧
    ∃ name attributes, other = { user with name := name, attributes := attributes }

/-- Accounts that are read alike too. -/
structure AlikeUser (float : FloatReader) (owner : User → Prop) (user other : User) : Prop where
  /-- They differ when they are not owned only. -/
  indistinct : Indistinct owner user other
  /-- They are refused for the same number, or not at all. -/
  refused : refusedFields float user.attributes = refusedFields float other.attributes

/-- States that differ in the accounts of others only. -/
def Alike (float : FloatReader) (owner : User → Prop) (s other : Authentik) : Prop :=
  ∃ users, other = { s with users := users } ∧
    List.Forall₂ (AlikeUser float owner) s.users users

/-- A handler gives one answer in all such states, whatever becomes of its calls. -/
def Independent {Result : Type} (alloc : Allocator) (float : FloatReader) (s : Authentik)
    (owner : User → Prop) (handler another : Api Result) : Prop :=
  ∀ outcomes other result, Alike float owner s other →
    (perform (calls alloc) outcomes s handler).2 = .done result →
      (perform (calls alloc) outcomes other another).2 = .done result

section

variable {alloc : Allocator} {float : FloatReader} {owner : User → Prop} {s other : Authentik}

/-- The subject of a session is not empty. -/
theorem subject_ne_empty {checked : ℤ} {credentials : Credentials} {session : BrowserSession}
    (h : requireSession checked credentials = .ok session) : session.subject ≠ "" := by
  rw [requireSession] at h
  split at h
  · cases h
  · split at h
    · cases h
    · rename_i hcheck
      cases h
      rw [Bool.or_eq_true, not_or, beq_iff_eq] at hcheck
      exact hcheck.1

/-- What the check of two accounts looks at besides attributes is the same. -/
theorem Indistinct.kept {Value : Type} (read : User → Value)
    (hread : ∀ user name attributes,
      read { user with name := name, attributes := attributes } = read user)
    {user other : User} (h : Indistinct owner user other) : read other = read user := by
  rcases h with rfl | ⟨-, -, name, attributes, rfl⟩
  · rfl
  · exact hread user name attributes

end

section

variable {alloc : Allocator} {float : FloatReader} {checked : ℤ} {credentials : Credentials}
  {s other : Authentik}

/-- Both runs are in the states that they started in, with results that are
related. -/
def Reading {First Second : Type} (related : First → Second → Prop) (s other : Authentik) :
    First → Second → Authentik → Authentik → Prop :=
  fun first second state last => related first second ∧ state = s ∧ last = other

/-- Registries that have the same under the login names of owned accounts. -/
def SeenAlike (owner : User → Prop) (s : Authentik) (registry others : Registry) : Prop :=
  ∀ user ∈ s.users, owner user →
    entriesOf user.username registry.list = entriesOf user.username others.list

variable {sha256 : List UInt8 → List UInt8}

end

end LfpPipe.OwnershipIndependence
