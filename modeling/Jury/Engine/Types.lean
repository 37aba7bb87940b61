import Jury.Policy.Journal
import Jury.Protocol.Witness.State

-- What a witness engine keeps, what it answers, and the identity it signs with.
namespace Jury.Engine

open Lib Protocol Vault Witness Policy

inductive WitnessEngineError where
  | refused (reason : WitnessReasonV1)
  | storeUnavailable
  | anchorUnavailable
deriving DecidableEq

def WitnessEngineError.reason : WitnessEngineError → WitnessReasonV1
  | refused reason => reason
  | storeUnavailable => .internalFailure
  | anchorUnavailable => .unavailable

export WitnessEngineError (refused)

def orRefuse {ε α : Type} (x : Except ε α) (reason : WitnessReasonV1) : Except WitnessEngineError α :=
  x.mapError fun _ => refused reason

@[simp] theorem orRefuse_eq_ok {ε α : Type} {x : Except ε α} {reason : WitnessReasonV1} {a : α} :
    orRefuse x reason = .ok a ↔ x = .ok a := mapError_eq_ok

inductive StorageErrorKind where
  | unavailable
  | capacityExhausted
deriving DecidableEq

def mapStoreError : StorageErrorKind → WitnessEngineError
  | .unavailable => .storeUnavailable
  | .capacityExhausted => refused .capacityExhausted

def mapAnchorError : StorageErrorKind → WitnessEngineError
  | .unavailable => .anchorUnavailable
  | .capacityExhausted => refused .capacityExhausted

inductive AnchorCompareAndSwap where
  | published
  | conflict
deriving DecidableEq

structure RegisteredWitnessVault where
  acceptedRegistration : RegistrationBytes
  currentCheckpoint : VaultPolicyCheckpointV1
  currentPolicyMaterial : PolicyMaterialBytes
deriving DecidableEq

abbrev CancellationBytes := BoundedBytes (48 * 1024)

structure WitnessReplayEntry where
  request : WitnessRequestV1
  actionManifestDigest : Digest32
  state : ReplayStateV1
  retainThroughMs : UInt64
  approvals : List ApprovalDecisionV1
  cancellation : Option CancellationBytes
  response : Option WitnessResponseV1
deriving DecidableEq

abbrev ReplayKey := VaultId × RequestId

instance : Std.TransOrd ReplayKey := inferInstance

def requestKey (request : WitnessRequestV1) : ReplayKey := (request.vaultId, request.requestId)

structure WitnessLogicalState where
  witnessId : PrincipalId
  stateGeneration : UInt64
  vaults : BTreeMap VaultId RegisteredWitnessVault
  replay : BTreeMap ReplayKey WitnessReplayEntry
  lastAcceptedWallTimeMs : UInt64
deriving DecidableEq

def WitnessLogicalState.empty (witnessId : PrincipalId) : WitnessLogicalState :=
  { witnessId, stateGeneration := 0, vaults := ∅, replay := ∅, lastAcceptedWallTimeMs := 0 }

structure PersistedWitnessState where
  logical : WitnessLogicalState
  publishedAnchor : Option WitnessStateAnchorV1
  pendingAnchor : Option WitnessStateAnchorV1
deriving DecidableEq

def PersistedWitnessState.empty (witnessId : PrincipalId) : PersistedWitnessState :=
  { logical := .empty witnessId, publishedAnchor := none, pendingAnchor := none }

inductive WitnessProgress where
  | reserved
  | pending
  | stable (response : WitnessResponseV1)
deriving DecidableEq

inductive CancellationProgress where
  | cancelled (response : WitnessResponseV1)
  | tooLate (response : WitnessResponseV1)
deriving DecidableEq

structure WitnessOperationalStatus where
  witnessId : PrincipalId
  stateGeneration : UInt64
  replayRecordCount : Nat
  compactableReplayRecordCount : Nat
  replayRetainThroughMs : UInt64
  publishedAnchor : Option WitnessStateAnchorV1
deriving DecidableEq

structure ApprovalTally where
  approved : Nat
  undecided : Nat
  conflicted : Bool
deriving DecidableEq

structure ValidatedRequest where
  suite : VaultSuite
  rule : WitnessAccessRule
  policy : WitnessPolicy
  capsule : WitnessShareCapsuleV1
  capsuleSetDigest : Digest32
deriving DecidableEq

structure WitnessContributionTarget where
  requestDigest : Digest32
  actionManifestDigest : Digest32
  responseId : ResponseId
  checkpointDigest : Digest32
  capsuleSetDigest : Digest32
  sessionPublicKey : RecipientPublicKey1216
  sessionFingerprint : Digest32
  expiresAtMs : UInt64
deriving DecidableEq

-- What a random source will hand out, block by block; `none` is a failed draw.
abbrev Entropy := List (Option (FixedBytes 32))

-- Keys stay with the provider: it signs, and seals a share to a request's session. Each operation may
-- fail, and nothing is assumed of the values that it returns.
structure WitnessEngineIdentity where
  principalId : PrincipalId
  publicDescriptor : Option PrincipalDescriptorV1
  signWitnessStatement : Bytes → Option Signature64
  sealWitnessContribution : VaultSuite → WitnessShareCapsuleV1 → WitnessContributionTarget → Entropy →
    Option WitnessContributionEnvelopeV1

def boundedBytes (max : Nat) (bytes : Bytes) : Except WitnessEngineError (BoundedBytes max) :=
  orRefuse (BoundedBytes.new max bytes) .capacityExhausted

variable [Crypto]

namespace WitnessReplayEntry

def approvalBytes (approval : ApprovalDecisionV1) : Except WitnessEngineError ApprovalBytes := do
  let bytes ← orRefuse approval.canonicalBytes .invalid
  boundedBytes _ bytes

def responseBytes (response : WitnessResponseV1) : Except WitnessEngineError ResponseBytes := do
  let bytes ← orRefuse response.canonicalBytes .invalid
  boundedBytes _ bytes

def toProtocol (entry : WitnessReplayEntry) (key : ReplayKey) :
    Except WitnessEngineError WitnessReplayRecordV1 := do
  let message ← orRefuse entry.request.canonicalBytes .invalid
  let requestMessage ← boundedBytes _ message
  let approvalDecisions ← entry.approvals.mapM approvalBytes
  let witnessResponse ← entry.response.mapM responseBytes
  let requestDigest ← orRefuse entry.request.digest .invalid
  return {
    schema := 1
    vaultId := key.1
    requestId := key.2
    requestDigest
    requestMessage
    actionManifestDigest := entry.actionManifestDigest
    state := entry.state
    expiresAtMs := entry.request.expiresAtMs
    retainThroughMs := entry.retainThroughMs
    approvalDecisions
    cancellation := entry.cancellation
    witnessResponse }

end WitnessReplayEntry

def RegisteredWitnessVault.toProtocol (vault : RegisteredWitnessVault) (vaultId : VaultId) :
    Except WitnessEngineError WitnessVaultStateV1 := do
  let checkpoint ← orRefuse vault.currentCheckpoint.canonicalBytes .invalid
  let currentCheckpoint ← boundedBytes _ checkpoint
  return {
    schema := 1
    vaultId
    genesisFingerprint := vault.currentCheckpoint.genesisFingerprint
    acceptedRegistration := vault.acceptedRegistration
    currentCheckpoint
    currentPolicyMaterial := vault.currentPolicyMaterial }

namespace WitnessLogicalState

def canonicalDatabaseState (state : WitnessLogicalState) : Except WitnessEngineError WitnessDatabaseStateV1 := do
  let vaultStates ← state.vaults.toList.mapM fun (vaultId, vault) => vault.toProtocol vaultId
  let replayRecords ← state.replay.toList.mapM fun (key, entry) => entry.toProtocol key
  return {
    schema := 1
    witnessId := state.witnessId
    stateGeneration := state.stateGeneration
    vaultStates
    replayRecords
    lastAcceptedWallTimeMs := state.lastAcceptedWallTimeMs }

def databaseStateDigest (state : WitnessLogicalState) : Except WitnessEngineError Digest32 := do
  let database ← state.canonicalDatabaseState
  orRefuse database.digest .invalid

end WitnessLogicalState

end Jury.Engine
