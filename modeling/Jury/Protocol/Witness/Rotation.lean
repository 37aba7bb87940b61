import Jury.Protocol.Witness.Base

-- The owner's record that a change of witness policy came with fresh epochs and capsules for every
-- item under it.
namespace Jury.Protocol.Witness

open Lib Protocol

def MAX_ROTATION_ITEMS : Nat := 10000

inductive WitnessRotationReasonV1 where
  | witnessMembership
  | witnessThreshold
  | shareIndex
  | contributionKey
  | construction
  | suite
  | witnessSigningKey
  | approverRuleOrLabel
  | directMode
deriving DecidableEq

def WitnessRotationReasonV1.tag : WitnessRotationReasonV1 → UInt8
  | witnessMembership => 1
  | witnessThreshold => 2
  | shareIndex => 3
  | contributionKey => 4
  | construction => 5
  | suite => 6
  | witnessSigningKey => 7
  | approverRuleOrLabel => 8
  | directMode => 9

structure WitnessRotationItemV1 where
  itemId : ItemId
  priorKeyEpoch : UInt64
  nextKeyEpoch : UInt64
  nextDescriptorRevision : UInt64
  nextDescriptorRevisionSealId : RevisionSealId
  nextDescriptorCapsuleSetDigest : Digest32
  nextBodyRevision : UInt64
  nextBodyRevisionSealId : RevisionSealId
  nextBodyCapsuleSetDigest : Digest32
deriving DecidableEq

def WitnessRotationItemV1.canonicalBytes (item : WitnessRotationItemV1) : Except WitnessProtocolErrorKind Bytes := do
  rejectIf
    (item.priorKeyEpoch == 0
      || item.nextKeyEpoch != saturatingAdd item.priorKeyEpoch 1
      || item.nextDescriptorRevision == 0
      || item.nextBodyRevision == 0)
    .invalidFormat
  return item.itemId.asBytes.bytes ++
    (u64be item.priorKeyEpoch ++
    (u64be item.nextKeyEpoch ++
    (u64be item.nextDescriptorRevision ++
    (item.nextDescriptorRevisionSealId.asBytes.bytes ++
    (item.nextDescriptorCapsuleSetDigest.bytes ++
    (u64be item.nextBodyRevision ++
    (item.nextBodyRevisionSealId.asBytes.bytes ++
    item.nextBodyCapsuleSetDigest.bytes)))))))

structure WitnessPolicyRotationV1 where
  schema : UInt16
  rotationId : RotationId
  vaultId : VaultId
  genesisFingerprint : Digest32
  priorVaultPolicySequence : UInt64
  priorVaultPolicyHash : Digest32
  nextVaultPolicySequence : UInt64
  nextVaultPolicyHash : Digest32
  priorWitnessPolicyId : WitnessPolicyId
  priorWitnessPolicyRevision : UInt64
  priorWitnessPolicyDigest : Digest32
  nextWitnessPolicyId : WitnessPolicyId
  nextWitnessPolicyRevision : UInt64
  nextWitnessPolicyDigest : Digest32
  reason : WitnessRotationReasonV1
  affectedItems : List WitnessRotationItemV1
  issuedAtMs : UInt64
  ownerId : PrincipalId
  ownerKeyFingerprint : Digest32
  ownerKeyEpoch : UInt64
  signature : Signature64
deriving DecidableEq

namespace WitnessPolicyRotationV1

def fields (rotation : WitnessPolicyRotationV1) : Except WitnessProtocolErrorKind Bytes := do
  let items ← rotation.affectedItems.mapM (·.canonicalBytes)
  let items ← orReject (listBytes items) .capacityExhausted
  return u16be rotation.schema ++
    (rotation.rotationId.asBytes.bytes ++
    (rotation.vaultId.asBytes.bytes ++
    (rotation.genesisFingerprint.bytes ++
    (u64be rotation.priorVaultPolicySequence ++
    (rotation.priorVaultPolicyHash.bytes ++
    (u64be rotation.nextVaultPolicySequence ++
    (rotation.nextVaultPolicyHash.bytes ++
    (rotation.priorWitnessPolicyId.asBytes.bytes ++
    (u64be rotation.priorWitnessPolicyRevision ++
    (rotation.priorWitnessPolicyDigest.bytes ++
    (rotation.nextWitnessPolicyId.asBytes.bytes ++
    (u64be rotation.nextWitnessPolicyRevision ++
    (rotation.nextWitnessPolicyDigest.bytes ++
    (octets [rotation.reason.tag] ++
    (items ++
    (u64be rotation.issuedAtMs ++
    (rotation.ownerId.asBytes.bytes ++
    (rotation.ownerKeyFingerprint.bytes ++
    u64be rotation.ownerKeyEpoch))))))))))))))))))

def validateShape (rotation : WitnessPolicyRotationV1) : Except WitnessProtocolErrorKind Unit := do
  rejectIf
    (rotation.schema != 1
      || rotation.priorVaultPolicySequence == 0
      || rotation.nextVaultPolicySequence != saturatingAdd rotation.priorVaultPolicySequence 1
      || rotation.priorWitnessPolicyRevision == 0
      || rotation.nextWitnessPolicyRevision == 0
      || rotation.affectedItems.isEmpty
      || decide (rotation.affectedItems.length > MAX_ROTATION_ITEMS)
      || !sortedByKey rotation.affectedItems (·.itemId)
      || rotation.issuedAtMs == 0
      || rotation.ownerKeyEpoch == 0)
    .invalidFormat
  rotation.affectedItems.forM fun item => do
    let _ ← item.canonicalBytes
    return ()

def signaturePreimage (rotation : WitnessPolicyRotationV1) : Except WitnessProtocolErrorKind Bytes :=
  signedPreimage rotation.validateShape "jury-witness-v1/rotation/signature" rotation.fields

variable [Crypto]

def digest (rotation : WitnessPolicyRotationV1) : Except WitnessProtocolErrorKind Digest32 := do
  let preimage ← rotation.signaturePreimage
  hashSigned "jury-witness-v1/rotation/hash" preimage rotation.signature

end WitnessPolicyRotationV1

abbrev WitnessDescriptorBytes := BoundedBytes 4096

-- The owner's record that a witness which cannot show its replay state has been replaced.
structure WitnessRecoveryV1 where
  schema : UInt16
  recoveryId : RecoveryId
  vaultId : VaultId
  genesisFingerprint : Digest32
  unavailablePriorWitnessId : Option PrincipalId
  newWitnessDescriptor : WitnessDescriptorBytes
  newRegistrationDigest : Digest32
  priorCheckpointDigest : Digest32
  nextCheckpointDigest : Digest32
  rotationRecordDigest : Digest32
  statement : UInt8
  issuedAtMs : UInt64
  ownerId : PrincipalId
  ownerKeyFingerprint : Digest32
  ownerKeyEpoch : UInt64
  signature : Signature64
deriving DecidableEq

namespace WitnessRecoveryV1

def fields (recovery : WitnessRecoveryV1) : Except WitnessProtocolErrorKind Bytes := do
  let descriptor ← orReject (bytesField recovery.newWitnessDescriptor.asBytes) .capacityExhausted
  return u16be recovery.schema ++
    (recovery.recoveryId.asBytes.bytes ++
    (recovery.vaultId.asBytes.bytes ++
    (recovery.genesisFingerprint.bytes ++
    (optionalFixed (recovery.unavailablePriorWitnessId.map (·.asBytes.bytes)) ++
    (descriptor ++
    (recovery.newRegistrationDigest.bytes ++
    (recovery.priorCheckpointDigest.bytes ++
    (recovery.nextCheckpointDigest.bytes ++
    (recovery.rotationRecordDigest.bytes ++
    (octets [recovery.statement] ++
    (u64be recovery.issuedAtMs ++
    (recovery.ownerId.asBytes.bytes ++
    (recovery.ownerKeyFingerprint.bytes ++
    u64be recovery.ownerKeyEpoch)))))))))))))

def validateShape (recovery : WitnessRecoveryV1) : Except WitnessProtocolErrorKind Unit :=
  rejectIf
    (recovery.schema != 1
      || recovery.newWitnessDescriptor.isEmpty
      || recovery.statement != 1
      || recovery.issuedAtMs == 0
      || recovery.ownerKeyEpoch == 0)
    .invalidFormat

def signaturePreimage (recovery : WitnessRecoveryV1) : Except WitnessProtocolErrorKind Bytes :=
  signedPreimage recovery.validateShape "jury-witness-v1/recovery/signature" recovery.fields

end WitnessRecoveryV1

end Jury.Protocol.Witness
