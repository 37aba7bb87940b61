import Jury.Protocol.Witness.Decision

-- What a witness keeps and what it publishes about it: replay records, vault states, the digest of
-- the database and the signed anchor.
namespace Jury.Protocol.Witness

open Lib Protocol

structure VaultHighWatermarkV1 where
  vaultId : VaultId
  genesisFingerprint : Digest32
  policySequence : UInt64
  checkpointDigest : Digest32
  highestRetainedRequestExpiryMs : UInt64
deriving DecidableEq

def VaultHighWatermarkV1.canonicalBytes (watermark : VaultHighWatermarkV1) : Bytes :=
  watermark.vaultId.asBytes.bytes ++
  (watermark.genesisFingerprint.bytes ++
  (u64be watermark.policySequence ++
  (watermark.checkpointDigest.bytes ++
  u64be watermark.highestRetainedRequestExpiryMs)))

structure WitnessStateAnchorV1 where
  schema : UInt16
  witnessId : PrincipalId
  witnessSigningKeyFingerprint : Digest32
  witnessSigningKeyEpoch : UInt64
  stateGeneration : UInt64
  databaseStateDigest : Digest32
  vaultHighWatermarks : List VaultHighWatermarkV1
  replayRetainThroughMs : UInt64
  lastAcceptedWallTimeMs : UInt64
  predecessorAnchorDigest : Digest32
  issuedAtMs : UInt64
  signature : Signature64
deriving DecidableEq

namespace WitnessStateAnchorV1

def fields (anchor : WitnessStateAnchorV1) : Except WitnessProtocolErrorKind Bytes := do
  let watermarks ← orReject (listFixed anchor.vaultHighWatermarks (·.canonicalBytes)) .capacityExhausted
  return u16be anchor.schema ++
    (anchor.witnessId.asBytes.bytes ++
    (anchor.witnessSigningKeyFingerprint.bytes ++
    (u64be anchor.witnessSigningKeyEpoch ++
    (u64be anchor.stateGeneration ++
    (anchor.databaseStateDigest.bytes ++
    (watermarks ++
    (u64be anchor.replayRetainThroughMs ++
    (u64be anchor.lastAcceptedWallTimeMs ++
    (anchor.predecessorAnchorDigest.bytes ++
    u64be anchor.issuedAtMs)))))))))

def validateShape (anchor : WitnessStateAnchorV1) : Except WitnessProtocolErrorKind Unit :=
  rejectIf
    (anchor.schema != 1
      || anchor.witnessSigningKeyEpoch == 0
      || anchor.stateGeneration == 0
      || anchor.issuedAtMs == 0
      || !sortedByKey anchor.vaultHighWatermarks (·.vaultId))
    .invalidFormat

def signaturePreimage (anchor : WitnessStateAnchorV1) : Except WitnessProtocolErrorKind Bytes :=
  signedPreimage anchor.validateShape "jury-witness-v1/state-anchor/signature" anchor.fields

def canonicalBytes (anchor : WitnessStateAnchorV1) : Except WitnessProtocolErrorKind Bytes :=
  signedBytes anchor.validateShape anchor.fields anchor.signature

variable [Crypto]

def digest (anchor : WitnessStateAnchorV1) : Except WitnessProtocolErrorKind Digest32 := do
  let preimage ← anchor.signaturePreimage
  hashSigned "jury-witness-v1/state-anchor/hash" preimage anchor.signature

end WitnessStateAnchorV1

structure WitnessCheckpointAcknowledgementV1 where
  schema : UInt16
  witnessId : PrincipalId
  vaultId : VaultId
  checkpointDigest : Digest32
  vaultPolicySequence : UInt64
  activeWitnessPolicySetDigest : Digest32
  stateGeneration : UInt64
  anchorDigest : Digest32
  exactAnchor : WitnessStateAnchorV1
deriving DecidableEq

inductive ReplayStateV1 where
  | reserved
  | approved
  | denied
  | cancelled
deriving DecidableEq

def ReplayStateV1.tag : ReplayStateV1 → UInt8
  | reserved => 1
  | approved => 2
  | denied => 3
  | cancelled => 4

structure WitnessReplayRecordV1 where
  schema : UInt16
  vaultId : VaultId
  requestId : RequestId
  requestDigest : Digest32
  requestMessage : RequestBytes
  actionManifestDigest : Digest32
  state : ReplayStateV1
  expiresAtMs : UInt64
  retainThroughMs : UInt64
  approvalDecisions : List ApprovalBytes
  cancellation : Option (BoundedBytes (48 * 1024))
  witnessResponse : Option ResponseBytes
deriving DecidableEq

def WitnessReplayRecordV1.canonicalBytes (record : WitnessReplayRecordV1) :
    Except WitnessProtocolErrorKind Bytes := do
  rejectIf
    (record.schema != 1
      || decide (record.retainThroughMs < saturatingAdd record.expiresAtMs REPLAY_RETENTION_MS)
      || decide (record.approvalDecisions.length > MAX_RECORDED_APPROVALS))
    .invalidFormat
  let request ← orReject (bytesField record.requestMessage.asBytes) .capacityExhausted
  let approvals ← orReject (listBytes (record.approvalDecisions.map (·.asBytes))) .capacityExhausted
  let cancellation ← orReject (optionalBytes (record.cancellation.map (·.asBytes))) .capacityExhausted
  let response ← orReject (optionalBytes (record.witnessResponse.map (·.asBytes))) .capacityExhausted
  return u16be record.schema ++
    (record.vaultId.asBytes.bytes ++
    (record.requestId.asBytes.bytes ++
    (record.requestDigest.bytes ++
    (request ++
    (record.actionManifestDigest.bytes ++
    (octets [record.state.tag] ++
    (u64be record.expiresAtMs ++
    (u64be record.retainThroughMs ++
    (approvals ++
    (cancellation ++
    response))))))))))

abbrev RegistrationBytes := BoundedBytes (64 * 1024)
abbrev CheckpointBytes := BoundedBytes (64 * 1024)
abbrev PolicyMaterialBytes := BoundedBytes (16 * 1024 * 1024)

structure WitnessVaultStateV1 where
  schema : UInt16
  vaultId : VaultId
  genesisFingerprint : Digest32
  acceptedRegistration : RegistrationBytes
  currentCheckpoint : CheckpointBytes
  currentPolicyMaterial : PolicyMaterialBytes
deriving DecidableEq

def WitnessVaultStateV1.canonicalBytes (vault : WitnessVaultStateV1) :
    Except WitnessProtocolErrorKind Bytes := do
  rejectIf (vault.schema != 1) .invalidFormat
  let registration ← orReject (bytesField vault.acceptedRegistration.asBytes) .capacityExhausted
  let checkpoint ← orReject (bytesField vault.currentCheckpoint.asBytes) .capacityExhausted
  let material ← orReject (bytesField vault.currentPolicyMaterial.asBytes) .capacityExhausted
  return u16be vault.schema ++
    (vault.vaultId.asBytes.bytes ++
    (vault.genesisFingerprint.bytes ++
    (registration ++
    (checkpoint ++
    material))))

structure WitnessDatabaseStateV1 where
  schema : UInt16
  witnessId : PrincipalId
  stateGeneration : UInt64
  vaultStates : List WitnessVaultStateV1
  replayRecords : List WitnessReplayRecordV1
  lastAcceptedWallTimeMs : UInt64
deriving DecidableEq

namespace WitnessDatabaseStateV1

def canonicalBody (database : WitnessDatabaseStateV1) : Except WitnessProtocolErrorKind Bytes := do
  rejectIf
    (database.schema != 1
      || !sortedByKey database.vaultStates (·.vaultId)
      || !sortedByKey database.replayRecords (fun record => (record.vaultId, record.requestId))
      || decide (database.replayRecords.length > MAX_REPLAY_RECORDS_PER_SERVICE))
    .invalidOrdering
  let vaults ← database.vaultStates.mapM (·.canonicalBytes)
  let records ← database.replayRecords.mapM (·.canonicalBytes)
  let vaults ← orReject (listBytes vaults) .capacityExhausted
  let records ← orReject (listBytes records) .capacityExhausted
  return u16be database.schema ++
    (database.witnessId.asBytes.bytes ++
    (u64be database.stateGeneration ++
    (vaults ++
    (records ++
    u64be database.lastAcceptedWallTimeMs))))

variable [Crypto]

def digest (database : WitnessDatabaseStateV1) : Except WitnessProtocolErrorKind Digest32 := do
  let body ← database.canonicalBody
  hashBytes "jury-witness-v1/database-state/hash" body

end WitnessDatabaseStateV1

variable [Crypto]

def WitnessCheckpointAcknowledgementV1.validateShape (acknowledgement : WitnessCheckpointAcknowledgementV1) :
    Except WitnessProtocolErrorKind Unit := do
  acknowledgement.exactAnchor.validateShape
  let anchorDigest ← acknowledgement.exactAnchor.digest
  let matchingWatermark :=
    (acknowledgement.exactAnchor.vaultHighWatermarks.find?
      fun watermark => watermark.vaultId == acknowledgement.vaultId).any fun watermark =>
        watermark.policySequence == acknowledgement.vaultPolicySequence
          && watermark.checkpointDigest == acknowledgement.checkpointDigest
  rejectIf
    (acknowledgement.schema != 1
      || acknowledgement.vaultPolicySequence == 0
      || acknowledgement.stateGeneration == 0
      || acknowledgement.witnessId != acknowledgement.exactAnchor.witnessId
      || acknowledgement.stateGeneration != acknowledgement.exactAnchor.stateGeneration
      || acknowledgement.anchorDigest != anchorDigest
      || !matchingWatermark)
    .invalidFormat

end Jury.Protocol.Witness
