import LfpPipe.OwnershipIndependence

/-!
# Accounts are only reached by their owners

Every handler that works on service accounts looks at the ownership metadata
first, each in its own way. Whatever Authentik stores in the untyped attributes
and whatever becomes of the calls, the accounts that the signed-in user does not
own stay as they are, and an answer describes owned accounts only. The metadata
is that of the stored accounts, although the handlers see decoded ones.
-/

namespace LfpPipe.OwnershipMediation

open GoText OwnedTables RouteAuth TunnelTickets JsonValues RemotePrograms AuthentikApi
open DeviceEnrollment DevicePresence ServicePrincipals IdentityProvisioning StoredConfigurations
open ManagedClients OwnershipIndependence

/-- The accounts that are not owned are as they were. -/
def Untouched (owner : User → Prop) (before after : Authentik) : Prop :=
  ∀ user, ¬ owner user → (user ∈ after.users ↔ user ∈ before.users)

/-- Wherever a handler is cut off it has changed owned accounts only, and when it
answers it discloses only what it may. All of the answer, errors included, is the
same whatever the other accounts contain. -/
structure Mediated {Result : Type} (alloc : Allocator) (float : FloatReader) (s : Authentik)
    (owner : User → Prop) (handler : Api Result) (discloses : Result → Prop) : Prop where
  /-- The other accounts are as they were. -/
  untouched : ∀ outcomes, Untouched owner s (perform (calls alloc) outcomes s handler).1
  /-- The answer is one that may be given. -/
  disclosed : ∀ outcomes result,
    (perform (calls alloc) outcomes s handler).2 = .done result → discloses result
  /-- It does not depend on the accounts of others. -/
  independent : Independent alloc float s owner handler handler

section

variable {alloc : Allocator} {float : FloatReader} {s : Authentik} {owner : User → Prop}

variable {checked : ℤ} {credentials : Credentials} {id : String}

/-- What an owned principal is. -/
structure Found (float : FloatReader) (s : Authentik) (checked : ℤ) (credentials : Credentials)
    (pk : ℤ) (stored user : User) : Prop where
  /-- The account with the key. -/
  found : userAt s pk = some stored
  /-- As it was decoded. -/
  decoded : decodeUser float stored = .ok user
  /-- It belongs to the signed-in user. -/
  owned : Owner checked credentials stored

/-- An owned account is one of the users. -/
theorem Found.mem {pk : ℤ} {stored user : User}
    (h : Found float s checked credentials pk stored user) : stored ∈ s.users :=
  List.mem_of_find?_eq_some h.found

variable {sha256 : List UInt8 → List UInt8}

end

end LfpPipe.OwnershipMediation
