import Jury.Protocol.Identifiers

-- The records of a vault file that policy replay reads: descriptors, slots, policy operations and
-- the signed journal.
namespace Jury.Protocol.Vault

open Lib Protocol

inductive PrincipalKind where
  | human
  | machine
  | approver
  | witness
deriving DecidableEq

def PrincipalKind.tag : PrincipalKind → UInt8
  | human => 1
  | machine => 2
  | approver => 3
  | witness => 4

inductive ItemKind where
  | canonical
  | legacy
deriving DecidableEq

def ItemKind.tag : ItemKind → UInt8
  | canonical => 1
  | legacy => 2

inductive ContentRole where
  | descriptor
  | body
deriving DecidableEq

def ContentRole.tag : ContentRole → UInt8
  | descriptor => 1
  | body => 2

-- The derived order of the source: declaration order, which the tags follow.
instance : Ord ContentRole := keyOrd ContentRole.tag

instance : Std.TransOrd ContentRole := keyOrd_trans _

instance : Std.LawfulEqOrd ContentRole :=
  keyOrd_lawful fun a b h => by cases a <;> cases b <;> first | rfl | simp [ContentRole.tag] at h

inductive AccessRole where
  | reader
  | writer
  | owner
deriving DecidableEq

def AccessRole.tag : AccessRole → UInt8
  | reader => 1
  | writer => 2
  | owner => 3

inductive ItemAccessMode where
  | directOnly
  | witnessedOnly
  | mixed
deriving DecidableEq

def ItemAccessMode.tag : ItemAccessMode → UInt8
  | directOnly => 1
  | witnessedOnly => 2
  | mixed => 3

inductive RemovalReason where
  | operatorRemoval
  | replacement
  | suspectedCompromise
  | retirement
deriving DecidableEq

def RemovalReason.tag : RemovalReason → UInt8
  | operatorRemoval => 1
  | replacement => 2
  | suspectedCompromise => 3
  | retirement => 4

inductive VaultSuite where
  | suite1
  | suite2
deriving DecidableEq

def VaultSuite.fromId (id : UInt16) : Option VaultSuite :=
  if id = 1 then some suite1 else if id = 2 then some suite2 else none

def VaultSuite.id : VaultSuite → UInt16
  | suite1 => 1
  | suite2 => 2

def VaultSuite.hpkeAead : VaultSuite → UInt16
  | suite1 => 3
  | suite2 => 2

structure PrincipalDescriptorV1 where
  descriptorVersion : UInt16
  principalId : PrincipalId
  principalKind : PrincipalKind
  recipientPublicKey : RecipientPublicKey1216
  verificationPublicKey : VerificationPublicKey32
  selfSignature : Signature64
deriving DecidableEq

structure DescriptorMetadataV1 where
  revision : UInt64
  revisionSealId : RevisionSealId
  nonce : Nonce12
  ciphertextLength : UInt32
  ciphertextDigest : Digest32
  plaintextSchema : UInt8
  keyEpoch : UInt64
deriving DecidableEq

structure DirectSlotV1 where
  slotSchema : UInt8
  slotAlgorithm : UInt8
  suite : UInt16
  kem : UInt16
  kdf : UInt16
  aead : UInt16
  vaultId : VaultId
  itemId : ItemId
  keyEpoch : UInt64
  contentRole : ContentRole
  revision : UInt64
  revisionSealId : RevisionSealId
  recipientPrincipalId : PrincipalId
  policySequence : UInt64
  recipientPublicKeyFingerprint : Digest32
  accessRole : AccessRole
  itemAccessMode : ItemAccessMode
  encapsulation : Encapsulation1120
  ciphertext : DirectCiphertext48
deriving DecidableEq

structure WitnessShareCapsuleV1 where
  capsuleSchema : UInt16
  protocol : UInt16
  construction : UInt16
  vaultId : VaultId
  genesisFingerprint : Digest32
  itemId : ItemId
  keyEpoch : UInt64
  itemAccessMode : ItemAccessMode
  slotId : SlotId
  contentRole : ContentRole
  revision : UInt64
  revisionSealId : RevisionSealId
  vaultPolicySequence : UInt64
  witnessPolicyId : WitnessPolicyId
  witnessPolicyRevision : UInt64
  witnessPolicyDigest : Digest32
  threshold : UInt8
  memberCount : UInt8
  witnessId : PrincipalId
  contributionKeyFingerprint : Digest32
  shareIndex : UInt8
  contextDigest : Digest32
  shareCommitment : Digest32
  encapsulation : Encapsulation1120
  ciphertext : ShareCiphertext49
deriving DecidableEq

structure WitnessedSlotV1 where
  slotSchema : UInt8
  slotAlgorithm : UInt8
  suite : UInt16
  protocol : UInt16
  construction : UInt16
  vaultId : VaultId
  genesisFingerprint : Digest32
  itemId : ItemId
  keyEpoch : UInt64
  itemAccessMode : ItemAccessMode
  slotId : SlotId
  contentRole : ContentRole
  revision : UInt64
  revisionSealId : RevisionSealId
  vaultPolicySequence : UInt64
  witnessPolicyId : WitnessPolicyId
  witnessPolicyRevision : UInt64
  witnessPolicyDigest : Digest32
  threshold : UInt8
  memberCount : UInt8
  capsules : List WitnessShareCapsuleV1
  capsuleSetDigest : Digest32
deriving DecidableEq

structure WitnessedStateV1 where
  slots : List WitnessedSlotV1
  digest : Digest32
deriving DecidableEq

-- The number is that of the direct slots authenticated by the same policy operation.
def WitnessedStateV1.hasItemQuorumClaim (state : WitnessedStateV1) (directSlotCount : Nat) : Bool :=
  directSlotCount == 0 && state.slots.length == 2

structure BootstrapPrincipalV1 where
  principalId : PrincipalId
  unsignedDescriptorDigest : Digest32
  displayLabel : String
  owner : Bool
deriving DecidableEq

structure BootstrapGrantV1 where
  principalId : PrincipalId
  role : AccessRole
  direct : Bool
deriving DecidableEq

structure BootstrapWitnessedItemV1 where
  policyId : WitnessPolicyId
  descriptorSlotId : SlotId
  bodySlotId : SlotId
deriving DecidableEq

structure BootstrapItemV1 where
  sourceItemId : ItemId
  destinationItemId : ItemId
  itemKind : ItemKind
  descriptor : DescriptorMetadataV1
  initialItemRevisionHash : Digest32
  directSlotSetDigest : Digest32
  grants : List BootstrapGrantV1
  witnessed : Option BootstrapWitnessedItemV1
deriving DecidableEq

structure BootstrapWitnessPolicyV1 where
  sourcePolicyId : WitnessPolicyId
  sourcePolicyRevision : Option UInt64
  destinationPolicyId : WitnessPolicyId
  intentDigest : Digest32
deriving DecidableEq

structure BootstrapManifestV1 where
  version : UInt16
  sourceSuite : Option UInt16
  destinationSuite : UInt16
  destinationVaultId : VaultId
  createdAtMs : UInt64
  actingOwnerPrincipalId : PrincipalId
  principals : List BootstrapPrincipalV1
  items : List BootstrapItemV1
  witnessPolicies : List BootstrapWitnessPolicyV1
deriving DecidableEq

structure SignedRolloverV1 where
  rolloverFormat : UInt16
  rolloverId : RolloverId
  sourceVaultId : VaultId
  sourceGenesisFingerprint : Digest32
  terminalSourceRevisionHash : Digest32
  destinationVaultId : VaultId
  destinationSuite : UInt16
  bootstrapManifestDigest : Digest32
  bootstrapManifest : Option BootstrapManifestV1
  actingOwnerPrincipalId : PrincipalId
  signature : Signature64
deriving DecidableEq

inductive SourceAttestationV1 where
  | legacyMigration (sourceFormat : UInt16) (migrationId : MigrationId)
      (finalLegacyAuditDigest terminalLegacyAuditMac : Digest32)
  | rollover (statement : SignedRolloverV1)
deriving DecidableEq

-- The genesis lists no items and no grants: their element type is empty.
structure PolicyGenesisV1 where
  vaultId : VaultId
  policySequence : UInt64
  previousPolicyHash : Digest32
  createdAtMs : UInt64
  suite : UInt16
  owner : PrincipalDescriptorV1
  sourceAttestation : Option SourceAttestationV1
  ownerSignature : Signature64
deriving DecidableEq

inductive PolicyOperationV1 where
  | principalAdd (descriptor : PrincipalDescriptorV1) (displayLabel : String)
      (registrationProofDigest : Digest32)
  | principalLabelChange (principalId : PrincipalId) (priorLabel nextLabel : String)
  | principalRemove (principalId : PrincipalId) (removalReason : RemovalReason)
  | ownerGrant (principalId : PrincipalId)
  | ownerRevoke (principalId : PrincipalId)
  | itemCreate (itemId : ItemId) (itemKind : ItemKind) (keyEpoch : UInt64)
      (descriptor : DescriptorMetadataV1) (currentItemRevisionHash : Digest32)
      (directSlots : List DirectSlotV1) (witnessedState : Option WitnessedStateV1)
  | itemRename (itemId : ItemId) (priorDescriptorRevision : UInt64)
      (nextDescriptor : DescriptorMetadataV1)
  | itemDelete (itemId : ItemId) (finalDescriptorDigest finalItemRevisionHash : Digest32)
      (deletionPolicySequence : UInt64)
  | itemRoleChange (itemId : ItemId) (principalId : PrincipalId) (priorRole nextRole : Option AccessRole)
  | itemReaderSetChange (itemId : ItemId) (priorEpoch nextEpoch : UInt64)
      (priorReaderIds nextReaderIds : List PrincipalId) (replacementDescriptor : DescriptorMetadataV1)
      (replacementCurrentItemRevisionHash : Digest32)
  | itemSlotsReplace (itemId : ItemId) (nextEpoch : UInt64) (directSlots : List DirectSlotV1)
      (witnessedState : Option WitnessedStateV1)
  | principalReplace (priorPrincipalId : PrincipalId) (nextDescriptor : PrincipalDescriptorV1)
      (registrationProofDigest : Digest32)
deriving DecidableEq

structure SignedPolicyRevisionV1 where
  vaultId : VaultId
  sequence : UInt64
  previousRevisionHash : Digest32
  timestampMs : UInt64
  authorPrincipalId : PrincipalId
  operations : List PolicyOperationV1
  resultingPolicyStateHash : Digest32
  signature : Signature64
deriving DecidableEq

structure PolicyJournalV1 where
  genesis : PolicyGenesisV1
  revisions : List SignedPolicyRevisionV1
deriving DecidableEq

structure SignedItemRevisionV1 where
  vaultId : VaultId
  itemId : ItemId
  itemRevision : UInt64
  previousItemRevisionHash : Digest32
  keyEpoch : UInt64
  policySequence : UInt64
  authorPrincipalId : PrincipalId
  timestampMs : UInt64
  revisionSealId : RevisionSealId
  nonce : Nonce12
  ciphertextLength : UInt32
  ciphertextDigest : Digest32
  plaintextSchema : UInt8
  bucketId : UInt8
  signature : Signature64
deriving DecidableEq

structure ItemEnvelopeV1 where
  itemId : ItemId
  descriptor : DescriptorMetadataV1
  descriptorCiphertext : DescriptorCiphertext272
  priorRevisions : List SignedItemRevisionV1
  currentRevision : SignedItemRevisionV1
  bodyCiphertext : BoundedBytes 8388624
deriving DecidableEq

end Jury.Protocol.Vault
