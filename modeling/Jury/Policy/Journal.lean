import Jury.Policy.Replay

-- Journals as owners write them: a genesis, then revisions that an owner signs over the state they lead
-- to.
namespace Jury.Policy

open Lib Protocol Vault

variable [Crypto]

-- Who signs policy statements: an identity that can fail to answer.
structure PolicySigner where
  principalId : PrincipalId
  descriptor : Except PolicyErrorKind PrincipalDescriptorV1
  sign : Bytes → Except PolicyErrorKind Signature64

structure PreparedPolicyRevision where
  revision : SignedPolicyRevisionV1
  state : PolicyState

def NO_SIGNATURE : Signature64 := FixedBytes.replicate 64 0

def prepareWithSigner (prior : PolicyState) (signer : PolicySigner) (timestampMs : UInt64)
    (operations : List PolicyOperationV1) : Except PolicyErrorKind PreparedPolicyRevision := do
  let authorId := signer.principalId
  rejectIf (!prior.owners.contains authorId) .unauthorized
  let active ← orReject prior.principals[authorId]? .unknownPrincipal
  let descriptor ← signer.descriptor
  rejectIf (descriptor != active.descriptor) .unauthorized
  let sequence ← orReject (checkedAdd prior.sequence 1) .capacityExhausted
  rejectIf (decide (sequence.toNat > MAX_POLICY_REVISIONS)) .capacityExhausted
  let state ← applyOperations prior sequence operations
  validateCompleteOwnerSlots state
  let resultingPolicyStateHash ← state.normalizedStateHash
  let revision : SignedPolicyRevisionV1 := {
    vaultId := prior.vaultId
    sequence
    previousRevisionHash := prior.terminalRevisionHash
    timestampMs
    authorPrincipalId := authorId
    operations
    resultingPolicyStateHash
    signature := NO_SIGNATURE }
  let preimage ← orReject revision.signaturePreimage .invalidFormat
  let signature ← signer.sign preimage
  let revision := { revision with signature }
  let terminal ← orReject revision.recomputedHash .invalidFormat
  return {
    revision
    state := { state with
      terminalRevisionHash := terminal
      revisionHashes := state.revisionHashes ++ [terminal] } }

-- A policy state together with the journal and the witness policies that it was replayed from.
structure ReplayedPolicy where
  journal : PolicyJournalV1
  policies : List WitnessPolicy
  state : PolicyState
  replayed : replayPolicyWithWitnessPolicies journal policies = .ok state

def ReplayedPolicy.ofReplay (journal : PolicyJournalV1) (policies : List WitnessPolicy)
    (h : (replayPolicyWithWitnessPolicies journal policies).isOk = true) : ReplayedPolicy :=
  match hreplay : replayPolicyWithWitnessPolicies journal policies with
  | .ok state => { journal, policies, state, replayed := hreplay }
  | .error _ => absurd h (by simp [hreplay, Except.isOk, Except.toBool])

end Jury.Policy

-- A vault to run the model on: principals numbered by a byte, each with keys made of that byte.
namespace Jury.Policy.Sample

open Lib Protocol Vault Witness Protocol.Sample

def verificationKey (byte : UInt8) : VerificationPublicKey32 := FixedBytes.replicate 32 byte

def descriptor (kind : PrincipalKind) (byte : UInt8) : PrincipalDescriptorV1 :=
  let unsigned : PrincipalDescriptorV1 := {
    descriptorVersion := 1
    principalId := identifier .principal byte
    principalKind := kind
    recipientPublicKey := FixedBytes.replicate 1216 byte
    verificationPublicKey := verificationKey byte
    selfSignature := NO_SIGNATURE }
  { unsigned with selfSignature := sign unsigned.verificationPublicKey unsigned.selfSignaturePreimage }

def signer (byte : UInt8) : PolicySigner :=
  { principalId := identifier .principal byte
    descriptor := .ok (descriptor .human byte)
    sign := fun message => .ok (sign (verificationKey byte) message) }

def metadata (revision keyEpoch : UInt64) (byte : UInt8) : DescriptorMetadataV1 :=
  { revision
    revisionSealId := identifier .revisionSeal byte
    nonce := FixedBytes.replicate 12 byte
    ciphertextLength := 272
    ciphertextDigest := FixedBytes.replicate 32 byte
    plaintextSchema := 1
    keyEpoch }

def directSlot (itemId : ItemId) (keyEpoch policySequence : UInt64) (contentRole : ContentRole) (accessRole : AccessRole)
    (recipient byte : UInt8) : DirectSlotV1 :=
  { slotSchema := 1
    slotAlgorithm := 1
    suite := 1
    kem := 0x647a
    kdf := 1
    aead := 3
    vaultId := identifier .vault 1
    itemId
    keyEpoch
    contentRole
    revision := 1
    revisionSealId := identifier .revisionSeal byte
    recipientPrincipalId := identifier .principal recipient
    policySequence
    recipientPublicKeyFingerprint := recipientPublicKeyFingerprint (FixedBytes.replicate 1216 recipient)
    accessRole
    itemAccessMode := .directOnly
    encapsulation := FixedBytes.replicate 1120 (byte + recipient)
    ciphertext := FixedBytes.replicate 48 recipient }

def extend (journal : PolicyJournalV1) (policies : List WitnessPolicy) (author : UInt8) (timestampMs : UInt64)
    (operations : List PolicyOperationV1) : PolicyJournalV1 :=
  match replayPolicyWithWitnessPolicies journal policies with
  | .error _ => journal
  | .ok state =>
    match prepareWithSigner state (signer author) timestampMs operations with
    | .error _ => journal
    | .ok prepared => { journal with revisions := journal.revisions ++ [prepared.revision] }

def foundedBy (owner : UInt8) (createdAtMs : UInt64) : PolicyJournalV1 :=
  let genesis : PolicyGenesisV1 := {
    vaultId := identifier .vault 1
    policySequence := 0
    previousPolicyHash := ZERO_DIGEST
    createdAtMs
    suite := 1
    owner := descriptor .human owner
    sourceAttestation := none
    ownerSignature := NO_SIGNATURE }
  let signature := sign (verificationKey owner) (genesis.signaturePreimage.getD ∅)
  { genesis := { genesis with ownerSignature := signature }, revisions := [] }

-- A vault with one witnessed item: owner 1, a former owner 2, approvers 3 and 4, witnesses 5 and 6.
def witnessedItem : ItemId := identifier .item 1

def approverDescriptor (byte : UInt8) : ApproverPolicyDescriptor :=
  let approverId := identifier .principal byte
  let unsigned : ApproverPolicyDescriptor := {
    schema := 1
    approverId
    signingPublicKey := verificationKey byte
    signingKeyFingerprint := signingKeyFingerprint 2 approverId 1 (verificationKey byte)
    signingKeyEpoch := 1
    status := .active
    approvalMode := .human
    allowedOperations := [.readStdout]
    createdAtMs := 1000
    selfSignature := NO_SIGNATURE }
  match unsigned.selfSignaturePreimage with
  | .error _ => unsigned
  | .ok preimage => { unsigned with selfSignature := sign (verificationKey byte) preimage }

def witnessDescriptor (byte shareIndex : UInt8) : WitnessPolicyDescriptor :=
  let witnessId := identifier .principal byte
  let contributionPublicKey := FixedBytes.replicate 1216 byte
  let unsigned : WitnessPolicyDescriptor := {
    schema := 1
    witnessId
    shareIndex
    signingPublicKey := verificationKey byte
    signingKeyFingerprint := signingKeyFingerprint 3 witnessId 1 (verificationKey byte)
    signingKeyEpoch := 1
    contributionPublicKey
    contributionKeyFingerprint := recipientPublicKeyFingerprint contributionPublicKey
    contributionKeyEpoch := 1
    status := .active
    createdAtMs := 1000
    selfSignature := NO_SIGNATURE }
  match unsigned.selfSignaturePreimage with
  | .error _ => unsigned
  | .ok preimage => { unsigned with selfSignature := sign (verificationKey byte) preimage }

-- Before there is anything to witness: owner 1 makes principal 2 an owner.
def founded : PolicyJournalV1 :=
  extend (foundedBy 1 1000) [] 1 1001
    [.principalAdd (descriptor .human 2) "second" ZERO_DIGEST, .ownerGrant (identifier .principal 2)]

def scopeOf (journal : PolicyJournalV1) (policies : List WitnessPolicy) : Digest32 × Digest32 :=
  match replayPolicyWithWitnessPolicies journal policies with
  | .ok state => (state.genesisFingerprint, state.terminalRevisionHash)
  | .error _ => (ZERO_DIGEST, ZERO_DIGEST)

def readRule : OperationRule where
  operation := .readStdout
  eligibleApproverIds := [identifier .principal 3, identifier .principal 4]
  approvalThreshold := 1
  allowedRequestLifetimeMs := 900000
  maxTimeoutMs := 1000
  maxOutputBytes := 1000
  maxTargetCount := 1
  requiredPlatformAssurance := .normalizedPathOnly
  automaticReadTargets := []

def witnessPolicy : WitnessPolicy where
  schema := 1
  witnessPolicyId := identifier .witnessPolicy 1
  revision := 1
  predecessorPolicyDigest := ZERO_DIGEST
  vaultId := identifier .vault 1
  genesisFingerprint := (scopeOf founded []).1
  vaultPolicySequence := 2
  vaultPolicyHash := (scopeOf founded []).2
  construction := 1
  suite := 1
  approverDescriptors := [approverDescriptor 3, approverDescriptor 4]
  witnessDescriptors := [witnessDescriptor 5 1, witnessDescriptor 6 2]
  witnessThreshold := 2
  operationRules := [readRule]
  reviewLabelSetDigest := ZERO_DIGEST
  directFallback := false

def policyDigest : Digest32 :=
  match witnessPolicy.digest with
  | .ok digest => digest
  | .error _ => ZERO_DIGEST

def capsule (contentRole : ContentRole) (byte shareIndex : UInt8) : WitnessShareCapsuleV1 :=
  let unbound : WitnessShareCapsuleV1 := {
    capsuleSchema := 1
    protocol := 1
    construction := 1
    vaultId := identifier .vault 1
    genesisFingerprint := witnessPolicy.genesisFingerprint
    itemId := witnessedItem
    keyEpoch := 1
    itemAccessMode := .witnessedOnly
    slotId := identifier .slot contentRole.tag
    contentRole
    revision := 1
    revisionSealId := identifier .revisionSeal contentRole.tag
    vaultPolicySequence := 2
    witnessPolicyId := witnessPolicy.witnessPolicyId
    witnessPolicyRevision := 1
    witnessPolicyDigest := policyDigest
    threshold := 2
    memberCount := 2
    witnessId := identifier .principal byte
    contributionKeyFingerprint := recipientPublicKeyFingerprint (FixedBytes.replicate 1216 byte)
    shareIndex
    contextDigest := ZERO_DIGEST
    shareCommitment := FixedBytes.replicate 32 shareIndex
    encapsulation := FixedBytes.replicate 1120 (byte + 10 * contentRole.tag)
    ciphertext := FixedBytes.replicate 49 byte }
  { unbound with contextDigest := unbound.recomputedContextDigestForSuite .suite1 }

def witnessedSlot (contentRole : ContentRole) : WitnessedSlotV1 :=
  let unbound : WitnessedSlotV1 := {
    slotSchema := 1
    slotAlgorithm := 2
    suite := 1
    protocol := 1
    construction := 1
    vaultId := identifier .vault 1
    genesisFingerprint := witnessPolicy.genesisFingerprint
    itemId := witnessedItem
    keyEpoch := 1
    itemAccessMode := .witnessedOnly
    slotId := identifier .slot contentRole.tag
    contentRole
    revision := 1
    revisionSealId := identifier .revisionSeal contentRole.tag
    vaultPolicySequence := 2
    witnessPolicyId := witnessPolicy.witnessPolicyId
    witnessPolicyRevision := 1
    witnessPolicyDigest := policyDigest
    threshold := 2
    memberCount := 2
    capsules := [capsule contentRole 5 1, capsule contentRole 6 2]
    capsuleSetDigest := ZERO_DIGEST }
  { unbound with capsuleSetDigest := unbound.recomputedCapsuleSetDigest.getD ZERO_DIGEST }

def witnessedState : WitnessedStateV1 :=
  let slots := [witnessedSlot .descriptor, witnessedSlot .body]
  { slots, digest := (witnessedSlotSetDigest slots).getD ZERO_DIGEST }

-- Owner 2 loses ownership, and the witnessed item is created.
def journal : PolicyJournalV1 :=
  extend founded [witnessPolicy] 1 1002 [
    .ownerRevoke (identifier .principal 2),
    .principalAdd (descriptor .approver 3) "approver" ZERO_DIGEST,
    .principalAdd (descriptor .approver 4) "approver" ZERO_DIGEST,
    .principalAdd (descriptor .witness 5) "witness" ZERO_DIGEST,
    .principalAdd (descriptor .witness 6) "witness" ZERO_DIGEST,
    .itemCreate witnessedItem .canonical 1 (metadata 1 1 1) (FixedBytes.replicate 32 7) [] (some witnessedState)]

theorem journal_replays : (replayPolicyWithWitnessPolicies journal [witnessPolicy]).isOk = true := by
  decide +kernel

def policy : ReplayedPolicy := .ofReplay journal [witnessPolicy] journal_replays

-- How the witnessed slots of some other item are sealed; the byte keeps its seals and keys apart.
structure Sealing where
  itemId : ItemId
  keyEpoch : UInt64
  mode : ItemAccessMode
  policy : WitnessPolicy
  byte : UInt8

namespace Sealing

def policyDigest (sealing : Sealing) : Digest32 := sealing.policy.digest.toOption.getD ZERO_DIGEST

def memberCount (sealing : Sealing) : UInt8 := UInt8.ofNat sealing.policy.activeWitnesses.length

def capsule (sealing : Sealing) (contentRole : ContentRole) (member : WitnessPolicyDescriptor) :
    WitnessShareCapsuleV1 :=
  let unbound : WitnessShareCapsuleV1 := {
    capsuleSchema := 1
    protocol := 1
    construction := 1
    vaultId := identifier .vault 1
    genesisFingerprint := sealing.policy.genesisFingerprint
    itemId := sealing.itemId
    keyEpoch := sealing.keyEpoch
    itemAccessMode := sealing.mode
    slotId := identifier .slot (sealing.byte + contentRole.tag)
    contentRole
    revision := 1
    revisionSealId := identifier .revisionSeal (sealing.byte + contentRole.tag)
    vaultPolicySequence := sealing.policy.vaultPolicySequence
    witnessPolicyId := sealing.policy.witnessPolicyId
    witnessPolicyRevision := sealing.policy.revision
    witnessPolicyDigest := sealing.policyDigest
    threshold := sealing.policy.witnessThreshold
    memberCount := sealing.memberCount
    witnessId := member.witnessId
    contributionKeyFingerprint := member.contributionKeyFingerprint
    shareIndex := member.shareIndex
    contextDigest := ZERO_DIGEST
    shareCommitment := FixedBytes.replicate 32 member.shareIndex
    encapsulation := FixedBytes.replicate 1120 (sealing.byte + 2 * member.shareIndex + contentRole.tag)
    ciphertext := FixedBytes.replicate 49 member.shareIndex }
  { unbound with contextDigest := unbound.recomputedContextDigestForSuite .suite1 }

def slot (sealing : Sealing) (contentRole : ContentRole) : WitnessedSlotV1 :=
  let unbound : WitnessedSlotV1 := {
    slotSchema := 1
    slotAlgorithm := 2
    suite := 1
    protocol := 1
    construction := 1
    vaultId := identifier .vault 1
    genesisFingerprint := sealing.policy.genesisFingerprint
    itemId := sealing.itemId
    keyEpoch := sealing.keyEpoch
    itemAccessMode := sealing.mode
    slotId := identifier .slot (sealing.byte + contentRole.tag)
    contentRole
    revision := 1
    revisionSealId := identifier .revisionSeal (sealing.byte + contentRole.tag)
    vaultPolicySequence := sealing.policy.vaultPolicySequence
    witnessPolicyId := sealing.policy.witnessPolicyId
    witnessPolicyRevision := sealing.policy.revision
    witnessPolicyDigest := sealing.policyDigest
    threshold := sealing.policy.witnessThreshold
    memberCount := sealing.memberCount
    capsules := sealing.policy.activeWitnesses.map (sealing.capsule contentRole)
    capsuleSetDigest := ZERO_DIGEST }
  { unbound with capsuleSetDigest := unbound.recomputedCapsuleSetDigest.getD ZERO_DIGEST }

def state (sealing : Sealing) : WitnessedStateV1 :=
  let slots := [sealing.slot .descriptor, sealing.slot .body]
  { slots, digest := (witnessedSlotSetDigest slots).getD ZERO_DIGEST }

end Sealing

end Jury.Policy.Sample
