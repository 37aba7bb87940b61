import Jury.Policy.Replay
import Jury.Protocol.Witness.Rotation

-- The check of a rotation record against the policy states before and after it.
namespace Jury.Policy

open Lib Protocol Witness

inductive RotationVerificationErrorKind where
  | invalidRecord
  | invalidPolicyTransition
  | incompleteItemRotation
  | invalidSignature
  | unsafeRecovery
deriving DecidableEq

def PolicyState.isDirectDescendantOf (state prior : PolicyState) : Bool :=
  state.vaultId == prior.vaultId
    && state.genesisFingerprint == prior.genesisFingerprint
    && state.sequence == saturatingAdd prior.sequence 1
    && (decide (prior.revisionHashes.length < 2 ^ 64)
      && some (UInt64.ofNat prior.revisionHashes.length) == checkedAdd prior.sequence 1)
    && state.revisionHashes.length == prior.revisionHashes.length + 1
    && prior.revisionHashes.isPrefixOf state.revisionHashes
    && state.revisionHashes.getLast? == some state.terminalRevisionHash
    && prior.revisionHashes.getLast? == some prior.terminalRevisionHash

def itemUsesPolicy (item : ItemPolicyState) (policyDigest : Digest32) : Bool :=
  item.witnessedState.any fun state => state.slots.any fun slot => slot.witnessPolicyDigest == policyDigest

def activeWitnessDescriptors (policy : WitnessPolicy) : BTreeMap PrincipalId WitnessPolicyDescriptor :=
  Std.ExtTreeMap.ofList (policy.activeWitnesses.map fun descriptor => (descriptor.witnessId, descriptor)) compare

def descriptorsDiffer (prior next : WitnessPolicy)
    (differ : WitnessPolicyDescriptor → WitnessPolicyDescriptor → Bool) : Bool :=
  (activeWitnessDescriptors prior).toList.any fun (id, descriptor) =>
    match (activeWitnessDescriptors next)[id]? with
    | none => true
    | some successor => differ descriptor successor

def rotationReason (prior next : WitnessPolicy) : WitnessRotationReasonV1 :=
  if prior.activeWitnesses.map (·.witnessId) ≠ next.activeWitnesses.map (·.witnessId) then .witnessMembership
  else if prior.witnessThreshold ≠ next.witnessThreshold then .witnessThreshold
  else if descriptorsDiffer prior next fun a b => a.shareIndex != b.shareIndex then .shareIndex
  else if descriptorsDiffer prior next fun a b =>
      a.contributionPublicKey != b.contributionPublicKey || a.contributionKeyEpoch != b.contributionKeyEpoch then
    .contributionKey
  else if prior.construction ≠ next.construction then .construction
  else if prior.suite ≠ next.suite then .suite
  else if descriptorsDiffer prior next fun a b =>
      a.signingPublicKey != b.signingPublicKey || a.signingKeyEpoch != b.signingKeyEpoch then
    .witnessSigningKey
  else if prior.approverDescriptors ≠ next.approverDescriptors ∨ prior.operationRules ≠ next.operationRules ∨
      prior.reviewLabelSetDigest ≠ next.reviewLabelSetDigest then
    .approverRuleOrLabel
  else .directMode

def expectedItems (prior next : PolicyState) (rotation : WitnessPolicyRotationV1) : BTreeSet ItemId :=
  Std.ExtTreeSet.ofList
    (((prior.items.toList.filter fun entry => itemUsesPolicy entry.2 rotation.priorWitnessPolicyDigest).map (·.1)) ++
      ((next.items.toList.filter fun entry => itemUsesPolicy entry.2 rotation.nextWitnessPolicyDigest).map (·.1)))
    compare

variable [Crypto]

def validatePolicySuccession (rotation : WitnessPolicyRotationV1) (priorPolicy nextPolicy : WitnessPolicy) :
    Except RotationVerificationErrorKind Unit :=
  rejectIf
    (priorPolicy.witnessPolicyId != rotation.priorWitnessPolicyId
      || priorPolicy.revision != rotation.priorWitnessPolicyRevision
      || nextPolicy.witnessPolicyId != rotation.nextWitnessPolicyId
      || nextPolicy.revision != rotation.nextWitnessPolicyRevision
      || nextPolicy.witnessPolicyId != priorPolicy.witnessPolicyId
      || nextPolicy.revision != saturatingAdd priorPolicy.revision 1
      || nextPolicy.predecessorPolicyDigest != rotation.priorWitnessPolicyDigest
      || priorPolicy.digest.toOption != some rotation.priorWitnessPolicyDigest
      || nextPolicy.digest.toOption != some rotation.nextWitnessPolicyDigest
      || rotation.reason != rotationReason priorPolicy nextPolicy)
    .invalidPolicyTransition

def verifyRotatedItem (prior next : PolicyState) (rotation : WitnessPolicyRotationV1)
    (entry : ItemId × WitnessRotationItemV1) : Except RotationVerificationErrorKind Unit := do
  let (expectedId, recorded) := entry
  let priorItem ← orReject prior.items[expectedId]? .incompleteItemRotation
  let nextItem ← orReject next.items[expectedId]? .incompleteItemRotation
  let nextState ← orReject nextItem.witnessedState .incompleteItemRotation
  let descriptor ← orReject (nextState.slots.find? fun slot => slot.contentRole == .descriptor)
    .incompleteItemRotation
  let body ← orReject (nextState.slots.find? fun slot => slot.contentRole == .body) .incompleteItemRotation
  rejectIf
    (recorded.itemId != expectedId
      || recorded.priorKeyEpoch != priorItem.keyEpoch
      || recorded.nextKeyEpoch != nextItem.keyEpoch
      || nextItem.keyEpoch != saturatingAdd priorItem.keyEpoch 1
      || recorded.nextDescriptorRevision != descriptor.revision
      || recorded.nextDescriptorRevisionSealId != descriptor.revisionSealId
      || recorded.nextDescriptorCapsuleSetDigest != descriptor.capsuleSetDigest
      || recorded.nextBodyRevision != body.revision
      || recorded.nextBodyRevisionSealId != body.revisionSealId
      || recorded.nextBodyCapsuleSetDigest != body.capsuleSetDigest
      || descriptor.witnessPolicyDigest != rotation.nextWitnessPolicyDigest
      || body.witnessPolicyDigest != rotation.nextWitnessPolicyDigest)
    .incompleteItemRotation

def verifyRotationOwnerSignature (prior : PolicyState) (rotation : WitnessPolicyRotationV1) :
    Except RotationVerificationErrorKind Unit := do
  let owner ← orReject
    (prior.principals[rotation.ownerId]?.filter fun _ => prior.owners.contains rotation.ownerId) .invalidSignature
  rejectIf
    (rotation.ownerKeyEpoch != 1
      || rotation.ownerKeyFingerprint
        != signingKeyFingerprint 1 rotation.ownerId 1 owner.descriptor.verificationPublicKey)
    .invalidSignature
  let preimage ← rotation.signaturePreimage.mapError fun _ => .invalidRecord
  rejectIf (!verifyBytes owner.descriptor.verificationPublicKey preimage rotation.signature) .invalidSignature

def verifyWitnessPolicyRotation (prior next : PolicyState) (rotation : WitnessPolicyRotationV1) :
    Except RotationVerificationErrorKind Digest32 := do
  rotation.validateShape.mapError fun _ => .invalidRecord
  rejectIf
    (prior.vaultId != next.vaultId
      || prior.genesisFingerprint != next.genesisFingerprint
      || rotation.vaultId != prior.vaultId
      || rotation.genesisFingerprint != prior.genesisFingerprint
      || rotation.priorVaultPolicySequence != prior.sequence
      || rotation.priorVaultPolicyHash != prior.terminalRevisionHash
      || rotation.nextVaultPolicySequence != next.sequence
      || rotation.nextVaultPolicyHash != next.terminalRevisionHash
      || !next.isDirectDescendantOf prior)
    .invalidPolicyTransition
  let priorPolicy ← orReject prior.witnessPolicies[rotation.priorWitnessPolicyDigest]? .invalidPolicyTransition
  let nextPolicy ← orReject next.witnessPolicies[rotation.nextWitnessPolicyDigest]? .invalidPolicyTransition
  validatePolicySuccession rotation priorPolicy nextPolicy
  let expected := (expectedItems prior next rotation).toList
  rejectIf (expected.length != rotation.affectedItems.length) .incompleteItemRotation
  (expected.zip rotation.affectedItems).forM (verifyRotatedItem prior next rotation)
  verifyRotationOwnerSignature prior rotation
  rotation.digest.mapError fun _ => .invalidRecord

end Jury.Policy
