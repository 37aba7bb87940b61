import Jury.Protocol.Vault.Types

-- Canonical bytes, signature preimages and digests of the vault records. A `none` stands for a field
-- longer than a 32-bit length can say.
namespace Jury.Protocol.Vault

open Lib Protocol

variable [Crypto]

def hpkePrefix (domain : String) (suite : UInt16) : Bytes := utf8 domain ++ octets [0] ++ u16be suite

def recipientPublicKeyFingerprint (key : RecipientPublicKey1216) : Digest32 :=
  sha256 (jce "jury-v1/recipient-public-bundle/fingerprint" ++ key.bytes)

namespace PrincipalDescriptorV1

def canonicalBody (descriptor : PrincipalDescriptorV1) : Bytes :=
  u16be descriptor.descriptorVersion ++
  (descriptor.principalId.asBytes.bytes ++
  (octets [descriptor.principalKind.tag] ++
  (descriptor.recipientPublicKey.bytes ++
  descriptor.verificationPublicKey.bytes)))

def canonicalBytes (descriptor : PrincipalDescriptorV1) : Bytes :=
  descriptor.canonicalBody ++ descriptor.selfSignature.bytes

def selfSignaturePreimage (descriptor : PrincipalDescriptorV1) : Bytes :=
  jce "jury-v1/principal-descriptor/self-signature" ++ descriptor.canonicalBody

end PrincipalDescriptorV1

def DescriptorMetadataV1.canonicalBytes (descriptor : DescriptorMetadataV1) : Bytes :=
  u64be descriptor.revision ++
  (descriptor.revisionSealId.asBytes.bytes ++
  (descriptor.nonce.bytes ++
  (u32be descriptor.ciphertextLength ++
  (descriptor.ciphertextDigest.bytes ++
  (octets [descriptor.plaintextSchema] ++
  u64be descriptor.keyEpoch)))))

def DirectSlotV1.canonicalBytes (slot : DirectSlotV1) : Bytes :=
  octets [slot.slotSchema, slot.slotAlgorithm] ++
  (u16be slot.suite ++
  (u16be slot.kem ++
  (u16be slot.kdf ++
  (u16be slot.aead ++
  (slot.vaultId.asBytes.bytes ++
  (slot.itemId.asBytes.bytes ++
  (u64be slot.keyEpoch ++
  (octets [slot.contentRole.tag] ++
  (u64be slot.revision ++
  (slot.revisionSealId.asBytes.bytes ++
  (slot.recipientPrincipalId.asBytes.bytes ++
  (u64be slot.policySequence ++
  (slot.recipientPublicKeyFingerprint.bytes ++
  (octets [slot.accessRole.tag, slot.itemAccessMode.tag] ++
  (slot.encapsulation.bytes ++
  slot.ciphertext.bytes)))))))))))))))

namespace WitnessShareCapsuleV1

def contextFields (capsule : WitnessShareCapsuleV1) : Bytes :=
  u16be capsule.capsuleSchema ++
  (u16be capsule.protocol ++
  (u16be capsule.construction ++
  (capsule.vaultId.asBytes.bytes ++
  (capsule.genesisFingerprint.bytes ++
  (capsule.itemId.asBytes.bytes ++
  (u64be capsule.keyEpoch ++
  (octets [capsule.itemAccessMode.tag] ++
  (capsule.slotId.asBytes.bytes ++
  (octets [capsule.contentRole.tag] ++
  (u64be capsule.revision ++
  (capsule.revisionSealId.asBytes.bytes ++
  (u64be capsule.vaultPolicySequence ++
  (capsule.witnessPolicyId.asBytes.bytes ++
  (u64be capsule.witnessPolicyRevision ++
  (capsule.witnessPolicyDigest.bytes ++
  (octets [capsule.threshold, capsule.memberCount] ++
  (capsule.witnessId.asBytes.bytes ++
  (capsule.contributionKeyFingerprint.bytes ++
  octets [capsule.shareIndex]))))))))))))))))))

def contextPreimageForSuite (capsule : WitnessShareCapsuleV1) (suite : VaultSuite) : Bytes :=
  hpkePrefix "jury-witness-v1/capsule/context" suite.id ++ capsule.contextFields

def recomputedContextDigestForSuite (capsule : WitnessShareCapsuleV1) (suite : VaultSuite) : Digest32 :=
  sha256 (capsule.contextPreimageForSuite suite)

def canonicalBytes (capsule : WitnessShareCapsuleV1) : Bytes :=
  capsule.contextFields ++
  (capsule.contextDigest.bytes ++
  (capsule.shareCommitment.bytes ++
  (capsule.encapsulation.bytes ++
  capsule.ciphertext.bytes)))

end WitnessShareCapsuleV1

namespace WitnessedSlotV1

def commonFields (slot : WitnessedSlotV1) : Bytes :=
  octets [slot.slotSchema, slot.slotAlgorithm] ++
  (u16be slot.suite ++
  (u16be slot.protocol ++
  (u16be slot.construction ++
  (slot.vaultId.asBytes.bytes ++
  (slot.genesisFingerprint.bytes ++
  (slot.itemId.asBytes.bytes ++
  (u64be slot.keyEpoch ++
  (octets [slot.itemAccessMode.tag] ++
  (slot.slotId.asBytes.bytes ++
  (octets [slot.contentRole.tag] ++
  (u64be slot.revision ++
  (slot.revisionSealId.asBytes.bytes ++
  (u64be slot.vaultPolicySequence ++
  (slot.witnessPolicyId.asBytes.bytes ++
  (u64be slot.witnessPolicyRevision ++
  (slot.witnessPolicyDigest.bytes ++
  octets [slot.threshold, slot.memberCount]))))))))))))))))

def capsuleSetPreimage (slot : WitnessedSlotV1) : Option Bytes := do
  let capsules ← listBytes (slot.capsules.map (·.canonicalBytes))
  return jce "jury-witness-v1/capsule-set/hash" ++ capsules

def recomputedCapsuleSetDigest (slot : WitnessedSlotV1) : Option Digest32 := do
  let preimage ← slot.capsuleSetPreimage
  return sha256 preimage

def canonicalBytes (slot : WitnessedSlotV1) : Option Bytes := do
  let capsules ← listBytes (slot.capsules.map (·.canonicalBytes))
  return slot.commonFields ++ (capsules ++ slot.capsuleSetDigest.bytes)

end WitnessedSlotV1

def witnessedSlotSetDigestPreimage (slots : List WitnessedSlotV1) : Option Bytes := do
  let encoded ← slots.mapM (·.canonicalBytes)
  let field ← listBytes encoded
  return jce "jury-witness-v1/slot-set/hash" ++ field

def witnessedSlotSetDigest (slots : List WitnessedSlotV1) : Option Digest32 := do
  let preimage ← witnessedSlotSetDigestPreimage slots
  return sha256 preimage

def WitnessedStateV1.recomputedDigest (state : WitnessedStateV1) : Option Digest32 :=
  witnessedSlotSetDigest state.slots

def SignedRolloverV1.signaturePreimage (statement : SignedRolloverV1) : Bytes :=
  jce "jury-v1/rollover/signature" ++
  (u16be statement.rolloverFormat ++
  (statement.rolloverId.asBytes.bytes ++
  (statement.sourceVaultId.asBytes.bytes ++
  (statement.sourceGenesisFingerprint.bytes ++
  (statement.terminalSourceRevisionHash.bytes ++
  (statement.destinationVaultId.asBytes.bytes ++
  (u16be statement.destinationSuite ++
  (statement.bootstrapManifestDigest.bytes ++
  statement.actingOwnerPrincipalId.asBytes.bytes))))))))

def SourceAttestationV1.canonicalBytes : SourceAttestationV1 → Option Bytes
  | legacyMigration sourceFormat migrationId finalLegacyAuditDigest terminalLegacyAuditMac =>
    some (octets [1] ++ (u16be sourceFormat ++ (migrationId.asBytes.bytes ++
      (finalLegacyAuditDigest.bytes ++ terminalLegacyAuditMac.bytes))))
  | rollover statement => do
    let preimage ← bytesField statement.signaturePreimage
    return octets [2] ++ (preimage ++ statement.signature.bytes)

namespace PolicyGenesisV1

def signaturePreimage (genesis : PolicyGenesisV1) : Option Bytes := do
  let source ← genesis.sourceAttestation.mapM (·.canonicalBytes)
  let owner ← bytesField genesis.owner.canonicalBytes
  let source ← optionalBytes source
  return jce "jury-v1/policy-genesis/signature" ++
    (genesis.vaultId.asBytes.bytes ++
    (u64be genesis.policySequence ++
    (genesis.previousPolicyHash.bytes ++
    (u64be genesis.createdAtMs ++
    (owner ++
    (source ++
    (u32be 0 ++ u32be 0)))))))

def fingerprintPreimage (genesis : PolicyGenesisV1) : Option Bytes := do
  let preimage ← genesis.signaturePreimage
  let field ← bytesField preimage
  return jce "jury-v1/policy-genesis/fingerprint" ++ (field ++ genesis.ownerSignature.bytes)

def recomputedFingerprint (genesis : PolicyGenesisV1) : Option Digest32 := do
  let preimage ← genesis.fingerprintPreimage
  return sha256 preimage

end PolicyGenesisV1

def slotTableBytes (directSlots : List DirectSlotV1) (witnessedState : Option WitnessedStateV1) :
    Option Bytes := do
  let direct ← listFixed directSlots (·.canonicalBytes)
  return direct ++ optionalFixed (witnessedState.map (·.digest.bytes))

def PolicyOperationV1.canonicalBytes : PolicyOperationV1 → Option Bytes
  | principalAdd descriptor displayLabel registrationProofDigest => do
    let descriptor ← bytesField descriptor.canonicalBytes
    let label ← bytesField (utf8 displayLabel)
    return octets [1] ++ (descriptor ++ (label ++ registrationProofDigest.bytes))
  | principalLabelChange principalId priorLabel nextLabel => do
    let prior ← bytesField (utf8 priorLabel)
    let next ← bytesField (utf8 nextLabel)
    return octets [2] ++ (principalId.asBytes.bytes ++ (prior ++ next))
  | principalRemove principalId removalReason =>
    some (octets [3] ++ (principalId.asBytes.bytes ++ octets [removalReason.tag]))
  | ownerGrant principalId => some (octets [4] ++ principalId.asBytes.bytes)
  | ownerRevoke principalId => some (octets [5] ++ principalId.asBytes.bytes)
  | itemCreate itemId itemKind keyEpoch descriptor currentItemRevisionHash directSlots witnessedState => do
    let slots ← slotTableBytes directSlots witnessedState
    return octets [6] ++ (itemId.asBytes.bytes ++ (octets [itemKind.tag] ++ (u64be keyEpoch ++
      (descriptor.canonicalBytes ++ (currentItemRevisionHash.bytes ++ slots)))))
  | itemRename itemId priorDescriptorRevision nextDescriptor =>
    some (octets [7] ++ (itemId.asBytes.bytes ++ (u64be priorDescriptorRevision ++ nextDescriptor.canonicalBytes)))
  | itemDelete itemId finalDescriptorDigest finalItemRevisionHash deletionPolicySequence =>
    some (octets [8] ++ (itemId.asBytes.bytes ++ (finalDescriptorDigest.bytes ++
      (finalItemRevisionHash.bytes ++ u64be deletionPolicySequence))))
  | itemRoleChange itemId principalId priorRole nextRole =>
    some (octets [9] ++ (itemId.asBytes.bytes ++ (principalId.asBytes.bytes ++
      (optionalU8 (priorRole.map (·.tag)) ++ optionalU8 (nextRole.map (·.tag))))))
  | itemReaderSetChange itemId priorEpoch nextEpoch priorReaderIds nextReaderIds replacementDescriptor
      replacementCurrentItemRevisionHash => do
    let prior ← listFixed priorReaderIds (·.asBytes.bytes)
    let next ← listFixed nextReaderIds (·.asBytes.bytes)
    return octets [10] ++ (itemId.asBytes.bytes ++ (u64be priorEpoch ++ (u64be nextEpoch ++ (prior ++ (next ++
      (replacementDescriptor.canonicalBytes ++ replacementCurrentItemRevisionHash.bytes))))))
  | itemSlotsReplace itemId nextEpoch directSlots witnessedState => do
    let slots ← slotTableBytes directSlots witnessedState
    return octets [11] ++ (itemId.asBytes.bytes ++ (u64be nextEpoch ++ slots))
  | principalReplace priorPrincipalId nextDescriptor registrationProofDigest => do
    let descriptor ← bytesField nextDescriptor.canonicalBytes
    return octets [12] ++ (priorPrincipalId.asBytes.bytes ++ (descriptor ++ registrationProofDigest.bytes))

namespace SignedPolicyRevisionV1

def signaturePreimage (revision : SignedPolicyRevisionV1) : Option Bytes := do
  let operations ← revision.operations.mapM (·.canonicalBytes)
  let field ← listBytes operations
  return jce "jury-v1/policy-revision/signature" ++
    (revision.vaultId.asBytes.bytes ++
    (u64be revision.sequence ++
    (revision.previousRevisionHash.bytes ++
    (u64be revision.timestampMs ++
    (revision.authorPrincipalId.asBytes.bytes ++
    (field ++
    revision.resultingPolicyStateHash.bytes))))))

def hashPreimage (revision : SignedPolicyRevisionV1) : Option Bytes := do
  let preimage ← revision.signaturePreimage
  let field ← bytesField preimage
  return jce "jury-v1/policy-revision/hash" ++ (field ++ revision.signature.bytes)

def recomputedHash (revision : SignedPolicyRevisionV1) : Option Digest32 := do
  let preimage ← revision.hashPreimage
  return sha256 preimage

end SignedPolicyRevisionV1

namespace SignedItemRevisionV1

def signaturePreimage (revision : SignedItemRevisionV1) : Bytes :=
  jce "jury-v1/item-revision/signature" ++
  (revision.vaultId.asBytes.bytes ++
  (revision.itemId.asBytes.bytes ++
  (u64be revision.itemRevision ++
  (revision.previousItemRevisionHash.bytes ++
  (u64be revision.keyEpoch ++
  (u64be revision.policySequence ++
  (revision.authorPrincipalId.asBytes.bytes ++
  (u64be revision.timestampMs ++
  (revision.revisionSealId.asBytes.bytes ++
  (revision.nonce.bytes ++
  (u32be revision.ciphertextLength ++
  (revision.ciphertextDigest.bytes ++
  octets [revision.plaintextSchema, revision.bucketId]))))))))))))

def hashPreimage (revision : SignedItemRevisionV1) : Option Bytes := do
  let field ← bytesField revision.signaturePreimage
  return jce "jury-v1/item-revision/hash" ++ (field ++ revision.signature.bytes)

def recomputedHash (revision : SignedItemRevisionV1) : Option Digest32 := do
  let preimage ← revision.hashPreimage
  return sha256 preimage

end SignedItemRevisionV1

end Jury.Protocol.Vault
