import LfpPipe.ClientAuthorizer
import LfpPipe.RemotePrograms

/-!
# The verification keys of a bearer policy

Fetching, caching and refreshing the keys of one policy, and the
verification of tokens with them, translated from
`client/src/authorization.rs`. Requests share the keys, the time of the last
fetch attempt and the lock that protects it. A request is a program whose
calls are what it does between two points where it may have to wait, so
that any number of requests can be interleaved. Clocks count nanoseconds.
-/

namespace LfpPipe.VerificationKeys

open RustText Fallible SharedConfig ClientIdentity ClientAuthorizer RemotePrograms Program
open TransitionRuns

/-- What a key may be used for. -/
inductive PublicKeyUse where
  | signature
  | encryption
  | other (name : String)
  deriving DecidableEq, Repr

/-- One published key. -/
structure Jwk (Material : Type) where
  /-- Its identifier. -/
  keyId : Option String
  /-- Its intended use. -/
  publicKeyUse : Option PublicKeyUse
  /-- The algorithm that it is meant for. -/
  keyAlgorithm : Option String
  /-- The key itself. -/
  material : Material

/-- A published set of keys. -/
structure JwkSet (Material : Type) where
  /-- Keys in their published order. -/
  keys : List (Jwk Material)

/-- The keys that tokens are verified with. -/
structure KeyState (Material : Type) where
  /-- The keys. -/
  set : JwkSet Material
  /-- System time at which they were obtained. -/
  obtainedAt : ℕ

/-- What is checked of a token besides its signature. -/
structure Validation where
  /-- Algorithm of the signature. -/
  algorithm : Algorithm
  /-- Clock skew in seconds. -/
  leeway : ℕ
  /-- Check the start of the validity. -/
  validateNbf : Bool
  /-- Accepted issuers. -/
  issuers : List String
  /-- Accepted audiences. -/
  audiences : List String
  /-- Claims that have to be there. -/
  requiredSpecClaims : List String
  deriving DecidableEq, Repr

/-- Functions of the token and serialization crates. -/
structure TokenCrate (Material DecodingKey : Type) where
  /-- Read the header of a token: its algorithm and key identifier. -/
  decodeHeader : String → Except String (Algorithm × Option String)
  /-- The signature algorithm that a key algorithm stands for. -/
  algorithmOfKey : String → Option Algorithm
  /-- Construct the key that signatures are checked with. -/
  fromJwk : Jwk Material → Except AnyError DecodingKey
  /-- Check signature and registered claims of a token at a time. -/
  decode : String → DecodingKey → Validation → ℕ → Except String Value
  /-- Serialize a key set. -/
  encodeSet : JwkSet Material → Except AnyError String
  /-- Read a key set back. -/
  decodeSet : String → Except AnyError (JwkSet Material)

/-- An answer to a network request, which can fail in three ways. -/
structure HttpAnswer (Body : Type) where
  /-- Whether the request was sent and answered. -/
  sent : Except AnyError Unit
  /-- Whether the status is a success. -/
  status : Except AnyError Unit
  /-- The decoded body. -/
  body : Except AnyError Body

/-- The part of a discovery document that is used. -/
structure DiscoveryDocument where
  /-- Issuer that the document names. -/
  issuer : String
  /-- Where the keys are. -/
  jwksUri : String
  deriving DecidableEq, Repr

/-- How the identity provider answers during one fetch. -/
structure Network (Material : Type) where
  /-- Answer to a request for the discovery document. -/
  discovery : String → HttpAnswer DiscoveryDocument
  /-- Answer to a request for the keys. -/
  jwks : String → HttpAnswer (JwkSet Material)

/-- How the file system answers. -/
structure Files where
  /-- Directory of a path; empty for a bare name. -/
  parent : String → Option String
  /-- Create a directory with those above it. -/
  createDirAll : String → Except AnyError Unit
  /-- Open an atomic replacement of a file. -/
  openAtomic : String → Except AnyError Unit
  /-- Write a text to the replacement. -/
  writeAll : String → String → Except AnyError Unit
  /-- Put the replacement in the place of the file. -/
  commit : String → Except AnyError Unit
  /-- Whether the metadata of a file can be read. -/
  metadata : String → Except AnyError Unit
  /-- Modification time of a file. -/
  modified : String → Except AnyError ℕ
  /-- Content of a file. -/
  read : String → Except AnyError String

variable {Material DecodingKey Key : Type}

/-- A number of seconds on the clocks. -/
def fromSecs (seconds : ℕ) : ℕ := seconds * 1000000000

/-- Body of a successful answer, with a context for each way to fail. -/
def HttpAnswer.json {Body : Type} (answer : HttpAnswer Body)
    (sending status decoding : String) : Except AnyError Body := do
  withContext sending answer.sent
  withContext status answer.status
  withContext decoding answer.body

/-- Fetch the keys, after discovery unless their place is configured. -/
def fetchJwks (config : ClientAuthorizationConfig) (network : Network Material) :
    Except AnyError (JwkSet Material) := do
  let jwksUri ← match config.jwksUri with
    | some uri => .ok uri
    | none => do
      let discovery ← (network.discovery
        (trimEndMatches '/' config.issuer ++ "/.well-known/openid-configuration")).json
          "fetch OIDC discovery document" "OIDC discovery endpoint returned an error"
          "decode OIDC discovery document"
      ensure (discovery.issuer == config.issuer)
        "OIDC discovery issuer does not exactly match configuration"
      .ok discovery.jwksUri
  let set ← (network.jwks jwksUri).json "fetch JWKS" "JWKS endpoint returned an error" "decode JWKS"
  ensure (!set.keys.isEmpty) "JWKS contains no keys"
  .ok set

/-- Keys may be too old; a limit of zero is none, and keys from the future
have no age. -/
def ensureCacheAge (config : ClientAuthorizationConfig) (now obtainedAt : ℕ) :
    Except AnyError Unit :=
  if config.jwksMaxStaleSeconds = 0 then .ok ()
  else
    ensure (now - obtainedAt ≤ fromSecs config.jwksMaxStaleSeconds)
      "cached JWKS exceeds jwks_max_stale_seconds"

/-- Replace the cache file. -/
def persistJwks (crate : TokenCrate Material DecodingKey) (files : Files) (path : String)
    (set : JwkSet Material) : Except AnyError Unit := do
  checkSome (fun parent =>
    withContext ("create JWKS cache directory " ++ parent) (files.createDirAll parent))
    ((files.parent path).filter fun value => !value.isEmpty)
  let bytes ← withContext "encode JWKS cache" (crate.encodeSet set)
  withContext ("open atomic JWKS cache " ++ path) (files.openAtomic path)
  withContext ("write JWKS cache " ++ path) (files.writeAll path bytes)
  withContext ("replace JWKS cache " ++ path) (files.commit path)

/-- Read the cache file; its age is that of its last modification. -/
def loadCachedJwks (crate : TokenCrate Material DecodingKey) (files : Files)
    (config : ClientAuthorizationConfig) (now : ℕ) : Except AnyError (KeyState Material) := do
  let path := config.jwksCacheFile
  withContext ("read JWKS cache metadata " ++ path) (files.metadata path)
  let obtainedAt ← withContext "read JWKS cache modification time" (files.modified path)
  ensureCacheAge config now obtainedAt
  let bytes ← withContext ("read JWKS cache " ++ path) (files.read path)
  let set ← withContext "decode cached JWKS" (crate.decodeSet bytes)
  ensure (!set.keys.isEmpty) "cached JWKS contains no keys"
  .ok ⟨set, obtainedAt⟩

/-- How the first keys of a policy come about. -/
structure Startup (Material : Type) where
  /-- Answers of the identity provider. -/
  network : Network Material
  /-- Answers of the file system. -/
  files : Files
  /-- Monotonic time at which the fetch starts. -/
  attemptedAt : ℕ
  /-- Time until the keys are there. -/
  elapsed : ℕ
  /-- System time at which they are there. -/
  systemTime : ℕ

/-- The first keys: fetched and written to the cache file, or else cached. -/
def loadKeys (crate : TokenCrate Material DecodingKey) (startup : Startup Material)
    (config : ClientAuthorizationConfig) : Except AnyError (KeyState Material) :=
  match fetchJwks config startup.network with
  | .ok set =>
    persistJwks crate startup.files config.jwksCacheFile set >>= fun _ =>
      .ok ⟨set, startup.systemTime⟩
  | .error remoteError =>
    withContext ("identity provider unavailable (" ++ String.intercalate ": " remoteError ++
      ") and JWKS cache is unusable")
      (loadCachedJwks crate startup.files config startup.systemTime)

/-- What the requests of one policy share, with the clocks they read. -/
structure Shared (Material : Type) where
  /-- The verification keys. -/
  keys : KeyState Material
  /-- Monotonic time of the last fetch attempt. -/
  lastAttempt : ℕ
  /-- The request that holds the lock of the last attempt. -/
  holder : Option ℕ
  /-- Monotonic time. -/
  instant : ℕ
  /-- System time. -/
  systemTime : ℕ

/-- Load a bearer verifier with its first keys. The time of the last attempt
starts with the time at which the keys are there. -/
def load (ext : Externals Key) (expandHome : String → Except AnyError String)
    (crate : TokenCrate Material DecodingKey) (startup : Startup Material)
    (config : ClientAuthorizationConfig) :
    Except AnyError (JwtAuthorizer × Shared Material) := do
  let cacheFile ← expandHome config.jwksCacheFile
  let expanded := { config with jwksCacheFile := cacheFile }
  let algorithms ← collect (parseAlgorithm ext) config.algorithms
  ensure (!algorithms.isEmpty) "JWT algorithm allowlist cannot be empty"
  let state ← loadKeys crate startup expanded
  let loadedAt := startup.attemptedAt + startup.elapsed
  .ok (⟨expanded, algorithms⟩, ⟨state, loadedAt, none, loadedAt, startup.systemTime⟩)

/-- The first key with an identifier. -/
def JwkSet.find (set : JwkSet Material) (kid : String) : Option (Jwk Material) :=
  set.keys.find? fun jwk => jwk.keyId == some kid

/-- The key for a token, from the keys that were read and the system time. -/
def keyFor (crate : TokenCrate Material DecodingKey) (config : ClientAuthorizationConfig)
    (state : KeyState Material) (now : ℕ) (kid : String) (algorithm : Algorithm) :
    Except AnyError DecodingKey := do
  ensureCacheAge config now state.obtainedAt
  let jwk ← orMissing "JWT signing key was not found" (state.set.find kid)
  checkSome (fun usage => ensure (usage == .signature) "JWK is not a signing key")
    jwk.publicKeyUse
  checkSome (fun keyAlgorithm => ensure (crate.algorithmOfKey keyAlgorithm == some algorithm)
    "JWK algorithm does not match JWT header") jwk.keyAlgorithm
  withContext "construct JWT verification key" (crate.fromJwk jwk)

/-- What a request does between two points where it may have to wait. -/
inductive Request (Material : Type) where
  /-- Take the lock of the last attempt. -/
  | lock
  /-- Time since the last attempt. -/
  | elapsed
  /-- Note that an attempt starts now. -/
  | recordAttempt
  /-- Wait for the fetch. -/
  | fetch
  /-- Write the cache file. -/
  | persist (set : JwkSet Material)
  /-- Replace the keys by others obtained now. -/
  | writeKeys (set : JwkSet Material)
  /-- Read the keys and the system time. -/
  | readKeys
  /-- Give the lock back. -/
  | unlock

/-- What each of them answers. -/
abbrev Answer (Material : Type) : Request Material → Type
  | .lock => Unit
  | .elapsed => ℕ
  | .recordAttempt => Unit
  | .fetch => Except AnyError (JwkSet Material)
  | .persist _ => Except AnyError Unit
  | .writeKeys _ => Unit
  | .readKeys => KeyState Material × ℕ
  | .unlock => Unit

/-- Answers from outside during one call. -/
structure World (Material : Type) where
  /-- Answers of the identity provider. -/
  network : Network Material
  /-- Answers of the file system. -/
  files : Files

/-- How a call of a request changes what is shared, and its answer. -/
def serve (crate : TokenCrate Material DecodingKey) (config : ClientAuthorizationConfig)
    (task : ℕ) (world : World Material) :
    Service (Shared Material) (Request Material) (Answer Material)
  | shared, .lock => ({ shared with holder := some task }, ())
  | shared, .elapsed => (shared, shared.instant - shared.lastAttempt)
  | shared, .recordAttempt => ({ shared with lastAttempt := shared.instant }, ())
  | shared, .fetch => (shared, fetchJwks config world.network)
  | shared, .persist set => (shared, persistJwks crate world.files config.jwksCacheFile set)
  | shared, .writeKeys set => ({ shared with keys := ⟨set, shared.systemTime⟩ }, ())
  | shared, .readKeys => (shared, (shared.keys, shared.systemTime))
  | shared, .unlock => ({ shared with holder := none }, ())

/-- A program of a request. -/
abbrev Task (Material Result : Type) := Program (Request Material) (Answer Material) Result

/-- One call of a request. -/
def ask (request : Request Material) : Task Material (Answer Material request) := send request

/-- A call goes on after its answer. -/
@[simp] theorem ask_bind {Result : Type} (request : Request Material)
    (rest : Answer Material request → Task Material Result) :
    (ask request >>= rest) = call request rest := rfl

/-- Time between two attempts. -/
def minimumInterval (config : ClientAuthorizationConfig) (force : Bool) : ℕ :=
  if force then fromSecs 10 else fromSecs config.jwksRefreshSeconds

/-- Fetch new keys. A failed fetch keeps the present ones while they are
young enough. -/
def refreshKeys (config : ClientAuthorizationConfig) : Task Material (Except AnyError Unit) := do
  ask .recordAttempt
  let fetched ← ask .fetch
  match fetched with
  | .ok set => do
    let persisted ← ask (.persist set)
    match persisted with
    | .ok () => do
      ask (.writeKeys set)
      pure (.ok ())
    | .error error => pure (.error error)
  | .error _ => do
    let read ← ask .readKeys
    pure (ensureCacheAge config read.2 read.1.obtainedAt)

/-- Fetch new keys when the last attempt is long enough ago. The lock is
held from before the time is read until the end. -/
def refreshIfDue (config : ClientAuthorizationConfig) (force : Bool) :
    Task Material (Except AnyError Unit) := do
  ask .lock
  let elapsed ← ask .elapsed
  let result ← if elapsed < minimumInterval config force then pure (.ok ()) else refreshKeys config
  ask .unlock
  pure result

/-- The algorithm and key identifier of a token, when it may be verified. -/
def tokenHeader (crate : TokenCrate Material DecodingKey) (bearer : JwtAuthorizer)
    (token : String) : Except AnyError (Algorithm × String) :=
  match crate.decodeHeader token with
  | .error error => .error ["invalid JWT header: " ++ error]
  | .ok (algorithm, kid) => do
    ensure (bearer.algorithms.contains algorithm) "JWT algorithm is not allowed"
    let kid ← orMissing "JWT header is missing kid" kid
    .ok (algorithm, kid)

/-- Signature and registered claims of a token under a key. -/
def decodeToken (crate : TokenCrate Material DecodingKey) (config : ClientAuthorizationConfig)
    (token : String) (algorithm : Algorithm) (key : DecodingKey) (now : ℕ) :
    Except AnyError Value :=
  match crate.decode token key ⟨algorithm, config.leewaySeconds, true, [config.issuer],
    config.audiences, ["exp", "iss", "aud"]⟩ now with
  | .error error => .error ["JWT validation failed: " ++ error]
  | .ok claims => .ok claims

/-- Verify a token: refresh the keys when it is time, look its key up, and
once more after a forced refresh, and check it with that key. -/
def verifyToken (crate : TokenCrate Material DecodingKey) (bearer : JwtAuthorizer)
    (token : String) : Task Material (Except AnyError Value) := do
  let refreshed ← refreshIfDue bearer.config false
  match refreshed >>= fun _ => tokenHeader crate bearer token with
  | .error error => pure (.error error)
  | .ok (algorithm, kid) => do
    let read ← ask .readKeys
    match keyFor crate bearer.config read.1 read.2 kid algorithm with
    | .ok key => pure (decodeToken crate bearer.config token algorithm key read.2)
    | .error _ => do
      let forced ← refreshIfDue bearer.config true
      match forced with
      | .error error => pure (.error error)
      | .ok () => do
        let again ← ask .readKeys
        pure (keyFor crate bearer.config again.1 again.2 kid algorithm >>= fun key =>
          decodeToken crate bearer.config token algorithm key again.2)

/-- Verify a token and its roles. -/
def authorizeToken (crate : TokenCrate Material DecodingKey) (bearer : JwtAuthorizer)
    (token : String) : Task Material (Except Denial Value) := do
  let verified ← verifyToken crate bearer token
  match verified with
  | .error error => pure (.error (.unauthorized error))
  | .ok claims => pure (validateRoles claims bearer.config >>= fun _ => .ok claims)

/-- The requests of a policy at one moment: what they share, and what is left
of each of them. -/
abbrev System (Material : Type) :=
  Shared Material × (ℕ → Task Material (Except Denial Value))

/-- What can happen next. -/
inductive Event (Material : Type) where
  /-- The clocks go on. -/
  | advance (instant systemTime : ℕ)
  /-- A request goes on to the next point where it may have to wait. -/
  | proceed (task : ℕ) (world : World Material)
  /-- A request is dropped by its connection. -/
  | abandon (task : ℕ)

/-- Whether a program waits for the lock. -/
def waitsForLock {Result : Type} : Task Material Result → Bool
  | call .lock _ => true
  | _ => false

/-- A dropped request gives back the lock if it holds it. -/
def Shared.release (shared : Shared Material) (task : ℕ) : Shared Material :=
  { shared with holder := if shared.holder = some task then none else shared.holder }

/-- One more event. A request that waits for a held lock cannot go on, and a
dropped one has no result that anyone sees. -/
def step (crate : TokenCrate Material DecodingKey) (config : ClientAuthorizationConfig)
    (system : System Material) : Event Material → Option (System Material)
  | .advance instant systemTime =>
    some ({ system.1 with
      instant := system.1.instant + instant
      systemTime := system.1.systemTime + systemTime }, system.2)
  | .proceed task world =>
    if system.1.holder.isSome && waitsForLock (system.2 task) then none
    else interleave (fun event => serve crate config event.1 event.2) system (task, (task, world))
  | .abandon task =>
    some (system.1.release task,
      Function.update system.2 task (done (.error (.unauthorized []))))

/-- The requests before any of them has started. -/
def requests (crate : TokenCrate Material DecodingKey) (bearer : JwtAuthorizer)
    (shared : Shared Material) (token : ℕ → String) : System Material :=
  (shared, fun task => authorizeToken crate bearer (token task))

end LfpPipe.VerificationKeys
