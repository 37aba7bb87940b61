import Jury.Engine.World

-- One generation at a time: a new logical state is committed together with the anchor that is to be
-- published for it, and nothing is released before the anchor has been read back.
namespace Jury.Engine

open Lib Protocol Witness Policy

def validateStoredIdentity (identity : WitnessEngineIdentity) (state : PersistedWitnessState) :
    Except WitnessEngineError Unit := do
  rejectIf (state.logical.witnessId != identity.principalId) (refused .restoredStateUnsafe)
  rejectIf
    (state.logical.stateGeneration == 0
      && (!state.logical.vaults.isEmpty
        || !state.logical.replay.isEmpty
        || state.logical.lastAcceptedWallTimeMs != 0
        || state.publishedAnchor.isSome
        || state.pendingAnchor.isSome))
    (refused .restoredStateUnsafe)

def requireSafeClock (state : PersistedWitnessState) (nowMs : UInt64) : Except WitnessEngineError Unit :=
  rejectIf (decide (saturatingAdd nowMs ACCEPTED_CLOCK_SKEW_MS < state.logical.lastAcceptedWallTimeMs))
    (refused .unsafeClock)

def maxOrZero (values : List UInt64) : UInt64 := values.foldl (fun a b => if a < b then b else a) 0

variable [Crypto]

def validateAnchor (identity : WitnessEngineIdentity) (anchor : WitnessStateAnchorV1) :
    Except WitnessEngineError Unit := do
  let descriptor ← orReject identity.publicDescriptor (refused .internalFailure)
  rejectIf
    (anchor.witnessId != descriptor.principalId
      || anchor.witnessSigningKeyEpoch != 1
      || anchor.witnessSigningKeyFingerprint
        != signingKeyFingerprint 3 descriptor.principalId 1 descriptor.verificationPublicKey)
    (refused .restoredStateUnsafe)
  let preimage ← orRefuse anchor.signaturePreimage .invalid
  rejectIf (!verifyBytes descriptor.verificationPublicKey preimage anchor.signature) (refused .restoredStateUnsafe)

def predecessorDigest (published : Option WitnessStateAnchorV1) : Except WitnessEngineError Digest32 :=
  match published with
  | none => .ok ZERO_DIGEST
  | some anchor => orRefuse anchor.digest .invalid

def requireAnchored (identity : WitnessEngineIdentity) (logical : WitnessLogicalState)
    (anchor external : WitnessStateAnchorV1) : Except WitnessEngineError Unit := do
  let exact ← exactAnchorEq anchor external
  rejectIf (!exact || anchor.stateGeneration != logical.stateGeneration) (refused .anchorConflict)
  let digest ← logical.databaseStateDigest
  rejectIf (anchor.databaseStateDigest != digest) (refused .anchorConflict)
  validateAnchor identity anchor

-- Without an anchor only the very first state is acceptable.
def publishedEquality (identity : WitnessEngineIdentity) (state : PersistedWitnessState)
    (external : Option WitnessStateAnchorV1) : Except WitnessEngineError Unit :=
  match state.publishedAnchor, external with
  | none, none => rejectIf (state.logical.stateGeneration != 0) (refused .anchorConflict)
  | some anchor, some external => requireAnchored identity state.logical anchor external
  | _, _ => .error (refused .anchorConflict)

def requirePublishedEquality (identity : WitnessEngineIdentity) (state : PersistedWitnessState) : EngineM Unit := do
  let external ← readAnchor
  check (publishedEquality identity state external)

def markPublished (candidate : WitnessStateAnchorV1) : EngineM Unit := do
  let digest ← check (orRefuse candidate.digest .invalid)
  markAnchorPublished digest

-- Whether the external anchor is the candidate; one that cannot be encoded is not.
def observedIs (observed : Option WitnessStateAnchorV1) (candidate : WitnessStateAnchorV1) : Bool :=
  observed.any fun anchor =>
    match exactAnchorEq anchor candidate with
    | .ok same => same
    | .error _ => false

def validatePending (identity : WitnessEngineIdentity) (state : PersistedWitnessState)
    (candidate : WitnessStateAnchorV1) : Except WitnessEngineError Unit := do
  validateAnchor identity candidate
  let databaseDigest ← state.logical.databaseStateDigest
  let expectedPredecessor ← predecessorDigest state.publishedAnchor
  rejectIf
    (candidate.stateGeneration != state.logical.stateGeneration
      || candidate.databaseStateDigest != databaseDigest
      || candidate.predecessorAnchorDigest != expectedPredecessor)
    (refused .anchorConflict)

def predecessorMatches (published external : Option WitnessStateAnchorV1) : Except WitnessEngineError Bool :=
  match published, external with
  | none, none => .ok true
  | some expected, some actual => exactAnchorEq expected actual
  | _, _ => .ok false

-- A conflict is none when the anchor turns out to be the candidate already.
def resolveSwap (candidate : WitnessStateAnchorV1) : AnchorCompareAndSwap → EngineM Unit
  | .published => pure ()
  | .conflict => do
    let observed ← readAnchor
    check (rejectIf (!observedIs observed candidate) (refused .anchorConflict))

def confirmReadback (candidate : WitnessStateAnchorV1) (observed : Option WitnessStateAnchorV1) :
    Except WitnessEngineError Unit := do
  let readback ← orReject observed (refused .anchorConflict)
  let exact ← exactAnchorEq readback candidate
  rejectIf (!exact) (refused .anchorConflict)

-- The swap of the external anchor, and the readback that has to confirm it.
def swapAnchor (published : Option WitnessStateAnchorV1) (candidate : WitnessStateAnchorV1) : EngineM Unit := do
  let outcome ← compareAndSwap published candidate
  resolveSwap candidate outcome
  let observed ← readAnchor
  check (confirmReadback candidate observed)

def publishPending (identity : WitnessEngineIdentity) (state : PersistedWitnessState)
    (candidate : WitnessStateAnchorV1) : EngineM Unit := do
  check (validatePending identity state candidate)
  let external ← readAnchor
  if observedIs external candidate then markPublished candidate
  else do
    let matching ← check (predecessorMatches state.publishedAnchor external)
    check (rejectIf (!matching) (refused .anchorConflict))
    swapAnchor state.publishedAnchor candidate
    markPublished candidate

def reconcile (identity : WitnessEngineIdentity) (state : PersistedWitnessState) : EngineM Unit :=
  match state.pendingAnchor with
  | some candidate => publishPending identity state candidate
  | none => requirePublishedEquality identity state

-- The state an operation may start from: committed, published and confirmed. A pending anchor is
-- published first.
def readyState (identity : WitnessEngineIdentity) : EngineM PersistedWitnessState := do
  let state ← load
  check (validateStoredIdentity identity state)
  reconcile identity state
  let ready ← load
  check (validateStoredIdentity identity ready)
  check (rejectIf ready.pendingAnchor.isSome (refused .anchorConflict))
  requirePublishedEquality identity ready
  return ready

def highWatermark (logical : WitnessLogicalState) (vaultId : VaultId) (vault : RegisteredWitnessVault) :
    Except WitnessEngineError VaultHighWatermarkV1 := do
  let checkpointDigest ← orRefuse vault.currentCheckpoint.digest .invalid
  return {
    vaultId
    genesisFingerprint := vault.currentCheckpoint.genesisFingerprint
    policySequence := vault.currentCheckpoint.vaultPolicySequence
    checkpointDigest
    highestRetainedRequestExpiryMs := maxOrZero
      ((logical.replay.toList.filter fun record => record.1.1 == vaultId).map fun record =>
        record.2.request.expiresAtMs) }

def buildAnchor (identity : WitnessEngineIdentity) (state : PersistedWitnessState) (nowMs : UInt64) :
    Except WitnessEngineError WitnessStateAnchorV1 := do
  let descriptor ← orReject identity.publicDescriptor (refused .internalFailure)
  let databaseStateDigest ← state.logical.databaseStateDigest
  let vaultHighWatermarks ← state.logical.vaults.toList.mapM fun (vaultId, vault) =>
    highWatermark state.logical vaultId vault
  let predecessorAnchorDigest ← predecessorDigest state.publishedAnchor
  let anchor : WitnessStateAnchorV1 := {
    schema := 1
    witnessId := descriptor.principalId
    witnessSigningKeyFingerprint :=
      signingKeyFingerprint 3 descriptor.principalId 1 descriptor.verificationPublicKey
    witnessSigningKeyEpoch := 1
    stateGeneration := state.logical.stateGeneration
    databaseStateDigest
    vaultHighWatermarks
    replayRetainThroughMs := maxOrZero (state.logical.replay.values.map (·.retainThroughMs))
    lastAcceptedWallTimeMs := state.logical.lastAcceptedWallTimeMs
    predecessorAnchorDigest
    issuedAtMs := nowMs
    signature := NO_SIGNATURE }
  let preimage ← orRefuse anchor.signaturePreimage .invalid
  let signature ← orReject (identity.signWitnessStatement preimage) (refused .internalFailure)
  return { anchor with signature }

def advanceGeneration (logical : WitnessLogicalState) (nowMs : UInt64) :
    Except WitnessEngineError WitnessLogicalState := do
  let stateGeneration ← orReject (checkedAdd logical.stateGeneration 1) (refused .capacityExhausted)
  return { logical with
    stateGeneration
    lastAcceptedWallTimeMs :=
      if logical.lastAcceptedWallTimeMs < nowMs then nowMs else logical.lastAcceptedWallTimeMs }

def commitAndPublish (identity : WitnessEngineIdentity) (state : PersistedWitnessState) (nowMs : UInt64) :
    EngineM PersistedWitnessState := do
  let expectedGeneration := state.logical.stateGeneration
  let logical ← check (advanceGeneration state.logical nowMs)
  let candidate ← check (buildAnchor identity { state with logical } nowMs)
  ensurePublishable candidate
  commit expectedGeneration { state with logical, pendingAnchor := some candidate }
  readyState identity

end Jury.Engine
