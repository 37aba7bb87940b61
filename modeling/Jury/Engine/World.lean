import Jury.Engine.Snapshot
import Jury.Engine.Validation

-- The two storages an engine writes to and how their answers can go wrong. A write may take effect
-- and still be reported as failed; a process that stops in the middle of an operation is one whose
-- remaining calls all fail.
namespace Jury.Engine

open Lib Protocol Witness

inductive Fault where
  | none
  | refused (kind : StorageErrorKind)
  | lostReply (kind : StorageErrorKind)
deriving DecidableEq

structure World where
  -- The witness that the database and the anchor service are set up for.
  witnessId : PrincipalId
  store : PersistedWitnessState
  anchor : Option WitnessStateAnchorV1
  -- How the coming calls of either storage end; calls beyond the list work.
  faults : List Fault
  -- Every state the database has been in, the current one first.
  history : List PersistedWitnessState

-- An engine is built anew around the storages for every operation and keeps nothing between two.
structure EngineContext where
  identity : WitnessEngineIdentity
  wallTimeMs : UInt64
  faults : List Fault
  entropy : Entropy

abbrev EngineM := EStateM WitnessEngineError World

section Storage

variable [Crypto]

-- The row of the database is checked against its limit, its witness and its own encoding when it is read.
def storeLoad (witnessId : PrincipalId) (current : PersistedWitnessState) :
    Except StorageErrorKind PersistedWitnessState := do
  rejectIf (decide (current.jsonSize > MAX_PERSISTED_WITNESS_STATE_BYTES)) .capacityExhausted
  rejectIf (current.logical.witnessId != witnessId) .unavailable
  let _ ← current.logical.canonicalDatabaseState.mapError fun _ => StorageErrorKind.unavailable
  return current

-- A commit advances the database by one generation, and never over a pending anchor. Generations are
-- kept in signed columns.
def storeCommit (witnessId : PrincipalId) (expectedGeneration : UInt64)
    (replacement current : PersistedWitnessState) : Except StorageErrorKind PersistedWitnessState := do
  rejectIf
    (replacement.logical.witnessId != witnessId
      || replacement.logical.stateGeneration != saturatingAdd expectedGeneration 1
      || replacement.pendingAnchor.isNone)
    .unavailable
  let current ← storeLoad witnessId current
  rejectIf
    (current.logical.stateGeneration != expectedGeneration
      || current.pendingAnchor.isSome)
    .unavailable
  encodePersistedState replacement
  rejectIf (decide (replacement.logical.stateGeneration.toNat ≥ 2 ^ 63)) .unavailable
  return replacement

def PersistedWitnessState.marked (state : PersistedWitnessState) (candidate : WitnessStateAnchorV1) :
    PersistedWitnessState :=
  { state with publishedAnchor := some candidate, pendingAnchor := none }

def storeMarkAnchorPublished (witnessId : PrincipalId) (candidateDigest : Digest32)
    (current : PersistedWitnessState) : Except StorageErrorKind PersistedWitnessState := do
  let current ← storeLoad witnessId current
  let candidate ← orReject current.pendingAnchor .unavailable
  let digest ← candidate.digest.mapError fun _ => StorageErrorKind.unavailable
  rejectIf (digest != candidateDigest) .unavailable
  encodePersistedState (current.marked candidate)
  rejectIf (decide (current.logical.stateGeneration.toNat ≥ 2 ^ 63)) .unavailable
  return current.marked candidate

def validateCandidate (witnessId : PrincipalId) (candidate : WitnessStateAnchorV1) :
    Except StorageErrorKind Unit := do
  candidate.validateShape.mapError fun _ => .unavailable
  rejectIf (candidate.witnessId != witnessId) .unavailable

def successorGeneration : Option WitnessStateAnchorV1 → UInt64
  | none => 1
  | some anchor => saturatingAdd anchor.stateGeneration 1

def boundedJson (size : Nat) (kind : StorageErrorKind) : Except StorageErrorKind Unit :=
  rejectIf (decide (size > MAX_ANCHOR_HTTP_BYTES)) kind

-- Whatever the predecessor will be, the anchor fits into what is sent and into what is answered.
def publishable (witnessId : PrincipalId) (candidate : WitnessStateAnchorV1) : Except StorageErrorKind Unit := do
  validateCandidate witnessId candidate
  boundedJson (AnchorCasRequest.mk (some ZERO_DIGEST) candidate).jsonSize .capacityExhausted
  boundedJson (AnchorCasResponse.mk .applied (some candidate)).jsonSize .capacityExhausted

def loadAnchor (witnessId : PrincipalId) : Option WitnessStateAnchorV1 → Except StorageErrorKind (Option WitnessStateAnchorV1)
  | none => return none
  | some anchor => do
    validateCandidate witnessId anchor
    let _ ← anchor.digest.mapError fun _ => StorageErrorKind.unavailable
    return some anchor

-- The anchor service: it keeps one anchor and replaces it only by its direct successor.
def anchorCompareAndSwap (witnessId : PrincipalId) (expected : Option WitnessStateAnchorV1)
    (candidate : WitnessStateAnchorV1) (current : Option WitnessStateAnchorV1) :
    Except StorageErrorKind (AnchorCasResponse × Option WitnessStateAnchorV1) := do
  validateCandidate witnessId candidate
  let expectedDigest ← expected.mapM fun anchor => anchor.digest.mapError fun _ => .unavailable
  boundedJson (AnchorCasRequest.mk expectedDigest candidate).jsonSize .capacityExhausted
  let current ← loadAnchor witnessId current
  if current = some candidate then return (⟨.applied, current⟩, current)
  let currentDigest ← current.mapM fun anchor => anchor.digest.mapError fun _ => .unavailable
  if currentDigest != expectedDigest
      || candidate.predecessorAnchorDigest != expectedDigest.getD ZERO_DIGEST
      || candidate.stateGeneration != successorGeneration current then
    return (⟨.conflict, current⟩, current)
  let _ ← candidate.digest.mapError fun _ => .unavailable
  rejectIf (decide (candidate.stateGeneration.toNat ≥ 2 ^ 63)) .unavailable
  return (⟨.applied, some candidate⟩, some candidate)

-- An answer is read after the anchor has been replaced, and one that is too long is not read.
def swapReply (candidate : WitnessStateAnchorV1) (response : AnchorCasResponse) :
    Except StorageErrorKind AnchorCompareAndSwap := do
  boundedJson response.jsonSize .unavailable
  match response.outcome with
  | .applied => do
    rejectIf (response.exactAnchor != some candidate) .unavailable
    return .published
  | .conflict => return .conflict

def anchorRead (witnessId : PrincipalId) (current : Option WitnessStateAnchorV1) :
    Except StorageErrorKind (Option WitnessStateAnchorV1) := do
  match ← loadAnchor witnessId current with
  | none => return none
  | some anchor => do
    boundedJson anchor.jsonSize .unavailable
    validateCandidate witnessId anchor
    return some anchor

end Storage

def World.nextFault (world : World) : Fault × World :=
  match world.faults with
  | [] => (.none, world)
  | fault :: rest => (fault, { world with faults := rest })

def World.write (world : World) (store : PersistedWitnessState) : World :=
  { world with store, history := store :: world.history }

def readCall {α : Type} (mapError : StorageErrorKind → WitnessEngineError)
    (read : World → Except StorageErrorKind α) : EngineM α := fun world =>
  let (fault, world) := world.nextFault
  match fault with
  | .none =>
    match read world with
    | .ok value => .ok value world
    | .error kind => .error (mapError kind) world
  | .refused kind | .lostReply kind => .error (mapError kind) world

-- A call that changes a storage, or only claims not to have.
def writeCall {α : Type} (mapError : StorageErrorKind → WitnessEngineError)
    (change : World → Except StorageErrorKind (α × World)) : EngineM α := fun world =>
  let (fault, world) := world.nextFault
  match fault with
  | .none =>
    match change world with
    | .ok (value, next) => .ok value next
    | .error kind => .error (mapError kind) world
  | .refused kind => .error (mapError kind) world
  | .lostReply kind =>
    match change world with
    | .ok (_, next) => .error (mapError kind) next
    | .error _ => .error (mapError kind) world

variable [Crypto]

def load : EngineM PersistedWitnessState :=
  readCall mapStoreError fun world => storeLoad world.witnessId world.store

def commit (expectedGeneration : UInt64) (replacement : PersistedWitnessState) : EngineM Unit :=
  writeCall mapStoreError fun world => do
    let store ← storeCommit world.witnessId expectedGeneration replacement world.store
    return ((), world.write store)

def markAnchorPublished (candidateDigest : Digest32) : EngineM Unit :=
  writeCall mapStoreError fun world => do
    let store ← storeMarkAnchorPublished world.witnessId candidateDigest world.store
    return ((), world.write store)

def ensurePublishable (candidate : WitnessStateAnchorV1) : EngineM Unit :=
  readCall mapAnchorError fun world => publishable world.witnessId candidate

def readAnchor : EngineM (Option WitnessStateAnchorV1) :=
  readCall mapAnchorError fun world => anchorRead world.witnessId world.anchor

def compareAndSwap (expected : Option WitnessStateAnchorV1) (candidate : WitnessStateAnchorV1) :
    EngineM AnchorCompareAndSwap := do
  let response ← writeCall mapAnchorError fun world => do
    let (response, anchor) ← anchorCompareAndSwap world.witnessId expected candidate world.anchor
    return (response, { world with anchor })
  check ((swapReply candidate response).mapError mapAnchorError)

end Jury.Engine
