import Jury.Lib.Outcome
import Jury.Lib.Word
import Jury.Protocol.Vault.Preimage

-- Format checks of single policy operations, made before replay looks at the policy state, and the
-- commitment of a rollover to its first revision.
namespace Jury.Protocol.Vault

open Lib Protocol

def MAX_VAULT_BYTES : Nat := 16 * 1024 * 1024
def MAX_ITEMS : Nat := 1024
def MAX_POLICY_REVISIONS : Nat := 4096
def MAX_PUBLIC_LABEL_BYTES : Nat := 256
def DESCRIPTOR_CIPHERTEXT_BYTES : UInt32 := 272

inductive FormatError where
  | artifactTooLarge
  | conflictMarker
  | invalidJson
  | nonCanonicalJson
  | capacityExhausted (dimension : String)
  | invalid (reason : String)
  | canonicalEncoding
deriving DecidableEq

variable [Crypto]

def validateDescriptorFormat (descriptor : PrincipalDescriptorV1) : Except FormatError Unit :=
  rejectIf (descriptor.descriptorVersion != 1 || descriptor.canonicalBytes.length != 1347)
    (.invalid "principal descriptor version differs")

def validateLabel (label : String) : Except FormatError Unit :=
  rejectIf (label.isEmpty || decide ((utf8 label).length > MAX_PUBLIC_LABEL_BYTES))
    (.invalid "public label length is invalid")

def validateDescriptorMetadata (descriptor : DescriptorMetadataV1) : Except FormatError Unit :=
  rejectIf
    (descriptor.revision == 0
      || descriptor.keyEpoch == 0
      || descriptor.plaintextSchema != 1
      || descriptor.ciphertextLength != DESCRIPTOR_CIPHERTEXT_BYTES
      || descriptor.canonicalBytes.length != 97)
    (.invalid "descriptor metadata differs")

structure DirectSlotScan where
  lastKey : Option (ContentRole × PrincipalId × Bytes)
  recipientRoles : BTreeMap PrincipalId AccessRole
  recipientContent : BTreeSet (PrincipalId × ContentRole)
  contentScopes : BTreeMap ContentRole (UInt64 × RevisionSealId)
  encapsulations : BTreeSet Encapsulation1120

def scanDirectSlot (vaultId : VaultId) (itemId : ItemId) (keyEpoch policySequence : UInt64)
    (accessMode : ItemAccessMode) (scan : DirectSlotScan) (slot : DirectSlotV1) :
    Except FormatError DirectSlotScan := do
  rejectIf
    (slot.slotSchema != 1
      || slot.slotAlgorithm != 1
      || (VaultSuite.fromId slot.suite).isNone
      || slot.kem != 0x647a
      || slot.kdf != 1
      || (VaultSuite.fromId slot.suite).map (·.hpkeAead) != some slot.aead
      || slot.vaultId != vaultId
      || slot.itemId != itemId
      || slot.keyEpoch != keyEpoch
      || slot.policySequence != policySequence
      || slot.itemAccessMode != accessMode
      || slot.revision == 0
      || slot.canonicalBytes.length != 1365)
    (.invalid "direct slot context differs")
  rejectIf (scan.encapsulations.contains slot.encapsulation) (.invalid "direct encapsulation is reused")
  let key := (slot.contentRole, slot.recipientPrincipalId, slot.canonicalBytes)
  rejectIf (scan.lastKey.any fun last => (compare last key).isGE) (.invalid "direct slots are not canonical")
  rejectIf (scan.recipientContent.contains (slot.recipientPrincipalId, slot.contentRole))
    (.invalid "direct recipient slot is duplicated")
  rejectIf (scan.recipientRoles[slot.recipientPrincipalId]?.any (· != slot.accessRole))
    (.invalid "direct recipient role differs")
  let scope := (slot.revision, slot.revisionSealId)
  rejectIf (scan.contentScopes[slot.contentRole]?.any (· != scope)) (.invalid "direct content seal differs")
  return {
    lastKey := some key
    recipientRoles := scan.recipientRoles.insert slot.recipientPrincipalId slot.accessRole
    recipientContent := scan.recipientContent.insert (slot.recipientPrincipalId, slot.contentRole)
    contentScopes := scan.contentScopes.insert slot.contentRole scope
    encapsulations := scan.encapsulations.insert slot.encapsulation }

def validateDirectSlots (slots : List DirectSlotV1) (vaultId : VaultId) (itemId : ItemId)
    (keyEpoch policySequence : UInt64) (accessMode : ItemAccessMode) : Except FormatError Unit := do
  let scan ← slots.foldlM (scanDirectSlot vaultId itemId keyEpoch policySequence accessMode) {
    lastKey := none, recipientRoles := ∅, recipientContent := ∅, contentScopes := ∅, encapsulations := ∅ }
  rejectIf
    (scan.recipientRoles.keys.any fun recipient =>
      !scan.recipientContent.contains (recipient, .descriptor)
        || !scan.recipientContent.contains (recipient, .body))
    (.invalid "direct recipient lacks one content role")

def validateCapsule (capsule : WitnessShareCapsuleV1) (slot : WitnessedSlotV1) : Except FormatError Unit := do
  rejectIf
    (capsule.capsuleSchema != 1
      || capsule.protocol != slot.protocol
      || capsule.construction != slot.construction
      || capsule.vaultId != slot.vaultId
      || capsule.genesisFingerprint != slot.genesisFingerprint
      || capsule.itemId != slot.itemId
      || capsule.keyEpoch != slot.keyEpoch
      || capsule.itemAccessMode != slot.itemAccessMode
      || capsule.slotId != slot.slotId
      || capsule.contentRole != slot.contentRole
      || capsule.revision != slot.revision
      || capsule.revisionSealId != slot.revisionSealId
      || capsule.vaultPolicySequence != slot.vaultPolicySequence
      || capsule.witnessPolicyId != slot.witnessPolicyId
      || capsule.witnessPolicyRevision != slot.witnessPolicyRevision
      || capsule.witnessPolicyDigest != slot.witnessPolicyDigest
      || capsule.threshold != slot.threshold
      || capsule.memberCount != slot.memberCount
      || capsule.shareIndex == 0
      || decide (capsule.shareIndex > 32))
    (.invalid "witness capsule context differs")
  let suite ← orReject (VaultSuite.fromId slot.suite) (.invalid "unknown capsule suite")
  rejectIf (capsule.recomputedContextDigestForSuite suite != capsule.contextDigest)
    (.invalid "witness capsule context differs")

structure CapsuleScan where
  lastIndex : UInt8
  witnesses : BTreeSet PrincipalId
  contributionKeys : BTreeSet Digest32

def scanCapsule (slot : WitnessedSlotV1) (scan : CapsuleScan) (capsule : WitnessShareCapsuleV1) :
    Except FormatError CapsuleScan := do
  validateCapsule capsule slot
  rejectIf
    (decide (capsule.shareIndex ≤ scan.lastIndex)
      || scan.witnesses.contains capsule.witnessId
      || scan.contributionKeys.contains capsule.contributionKeyFingerprint)
    (.invalid "witness capsules are not canonical")
  return {
    lastIndex := capsule.shareIndex
    witnesses := scan.witnesses.insert capsule.witnessId
    contributionKeys := scan.contributionKeys.insert capsule.contributionKeyFingerprint }

def validateWitnessedSlot (slot : WitnessedSlotV1) (vaultId : VaultId) (genesisFingerprint : Digest32)
    (itemId : ItemId) (keyEpoch policySequence : UInt64) (accessMode : ItemAccessMode) :
    Except FormatError Unit := do
  rejectIf
    (slot.slotSchema != 1
      || slot.slotAlgorithm != 2
      || (VaultSuite.fromId slot.suite).isNone
      || slot.protocol != 1
      || slot.construction != 1
      || slot.vaultId != vaultId
      || slot.genesisFingerprint != genesisFingerprint
      || slot.itemId != itemId
      || slot.keyEpoch != keyEpoch
      || slot.vaultPolicySequence != policySequence
      || slot.itemAccessMode != accessMode
      || slot.revision == 0
      || !(decide (2 ≤ slot.memberCount) && decide (slot.memberCount ≤ 32))
      || !(decide (2 ≤ slot.threshold) && decide (slot.threshold ≤ slot.memberCount))
      || slot.memberCount.toNat != slot.capsules.length)
    (.invalid "witnessed slot context differs")
  let _ ← slot.capsules.foldlM (scanCapsule slot) { lastIndex := 0, witnesses := ∅, contributionKeys := ∅ }
  let digest ← orReject slot.recomputedCapsuleSetDigest .canonicalEncoding
  rejectIf (digest != slot.capsuleSetDigest) (.invalid "capsule-set digest differs")

structure WitnessedSlotScan where
  lastKey : Option (ContentRole × UInt64 × RevisionSealId × SlotId)
  roles : BTreeSet ContentRole
  encapsulations : BTreeSet Encapsulation1120

def scanEncapsulation (encapsulations : BTreeSet Encapsulation1120) (capsule : WitnessShareCapsuleV1) :
    Except FormatError (BTreeSet Encapsulation1120) := do
  rejectIf (encapsulations.contains capsule.encapsulation) (.invalid "witness encapsulation is reused")
  return encapsulations.insert capsule.encapsulation

def scanWitnessedSlot (vaultId : VaultId) (genesisFingerprint : Digest32) (itemId : ItemId)
    (keyEpoch policySequence : UInt64) (accessMode : ItemAccessMode) (scan : WitnessedSlotScan)
    (slot : WitnessedSlotV1) : Except FormatError WitnessedSlotScan := do
  validateWitnessedSlot slot vaultId genesisFingerprint itemId keyEpoch policySequence accessMode
  let encapsulations ← slot.capsules.foldlM scanEncapsulation scan.encapsulations
  rejectIf (scan.roles.contains slot.contentRole) (.invalid "witnessed content role is duplicated")
  let key := (slot.contentRole, slot.revision, slot.revisionSealId, slot.slotId)
  rejectIf (scan.lastKey.any fun last => (compare last key).isGE) (.invalid "witnessed slots are not canonical")
  return { lastKey := some key, roles := scan.roles.insert slot.contentRole, encapsulations }

def validateWitnessedState (state : WitnessedStateV1) (vaultId : VaultId) (genesisFingerprint : Digest32)
    (itemId : ItemId) (keyEpoch policySequence : UInt64) (accessMode : ItemAccessMode) :
    Except FormatError Unit := do
  rejectIf (state.slots.length != 2) (.invalid "witnessed slot count is invalid")
  let _ ← state.slots.foldlM
    (scanWitnessedSlot vaultId genesisFingerprint itemId keyEpoch policySequence accessMode)
    { lastKey := none, roles := ∅, encapsulations := ∅ }
  let digest ← orReject state.recomputedDigest .canonicalEncoding
  rejectIf (digest != state.digest) (.invalid "witnessed state digest differs")

-- The access mode that a slot table gives an item; a table without any slot gives none.
def slotTableMode (directSlots : List DirectSlotV1) (witnessedState : Option WitnessedStateV1) :
    Option ItemAccessMode :=
  match directSlots.isEmpty, witnessedState.isNone with
  | false, false => some .mixed
  | false, true => some .directOnly
  | true, false => some .witnessedOnly
  | true, true => none

def validateAccessPaths (directSlots : List DirectSlotV1) (witnessedState : Option WitnessedStateV1)
    (vaultId : VaultId) (genesisFingerprint : Digest32) (itemId : ItemId)
    (keyEpoch policySequence : UInt64) : Except FormatError Unit := do
  let expectedMode ← orReject (slotTableMode directSlots witnessedState) (.invalid "item has no access path")
  validateDirectSlots directSlots vaultId itemId keyEpoch policySequence expectedMode
  match witnessedState with
  | none => return ()
  | some state =>
    validateWitnessedState state vaultId genesisFingerprint itemId keyEpoch policySequence expectedMode

def validateSortedUnique {α : Type} [Ord α] (values : List α) (reason : String) : Except FormatError Unit :=
  rejectIf (!strictlySortedUnique values) (.invalid reason)

def validateOperation (operation : PolicyOperationV1) (sequence : UInt64) (vaultId : VaultId)
    (genesisFingerprint : Digest32) : Except FormatError Unit :=
  match operation with
  | .principalAdd descriptor displayLabel _ => do
    validateDescriptorFormat descriptor
    validateLabel displayLabel
  | .principalLabelChange _ priorLabel nextLabel => do
    validateLabel priorLabel
    validateLabel nextLabel
  | .itemCreate itemId _ keyEpoch descriptor _ directSlots witnessedState => do
    rejectIf (keyEpoch != 1) (.invalid "item creation epoch is not one")
    validateDescriptorMetadata descriptor
    validateAccessPaths directSlots witnessedState vaultId genesisFingerprint itemId keyEpoch sequence
  | .itemRename _ priorDescriptorRevision nextDescriptor => do
    rejectIf
      (priorDescriptorRevision == 0
        || nextDescriptor.revision != saturatingAdd priorDescriptorRevision 1)
      (.invalid "descriptor revision does not advance")
    validateDescriptorMetadata nextDescriptor
  | .itemDelete _ _ _ deletionPolicySequence =>
    rejectIf (deletionPolicySequence != sequence) (.invalid "deletion sequence differs")
  | .itemRoleChange _ _ priorRole nextRole =>
    rejectIf (priorRole == nextRole) (.invalid "item role does not change")
  | .itemReaderSetChange _ priorEpoch nextEpoch priorReaderIds nextReaderIds replacementDescriptor _ => do
    rejectIf (priorEpoch == 0 || nextEpoch != saturatingAdd priorEpoch 1)
      (.invalid "reader-set epoch does not advance")
    validateSortedUnique priorReaderIds "prior readers are not canonical"
    validateSortedUnique nextReaderIds "next readers are not canonical"
    rejectIf (replacementDescriptor.keyEpoch != nextEpoch) (.invalid "reader set does not rotate")
    validateDescriptorMetadata replacementDescriptor
  | .itemSlotsReplace itemId nextEpoch directSlots witnessedState => do
    rejectIf (nextEpoch == 0) (.invalid "slot epoch is zero")
    validateAccessPaths directSlots witnessedState vaultId genesisFingerprint itemId nextEpoch sequence
  | .principalReplace priorPrincipalId nextDescriptor _ => do
    validateDescriptorFormat nextDescriptor
    rejectIf (priorPrincipalId == nextDescriptor.principalId) (.invalid "replacement reuses principal ID")
  | .principalRemove _ _ | .ownerGrant _ | .ownerRevoke _ => return ()

end Jury.Protocol.Vault
