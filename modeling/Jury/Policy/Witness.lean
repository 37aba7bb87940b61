import Jury.Protocol.Witness.Base

-- Witness policies: who may approve, who holds shares, and under which rule an operation is released.
namespace Jury.Policy

open Lib Protocol Vault Witness

inductive PolicyErrorKind where
  | invalidFormat
  | invalidSignature
  | invalidAncestry
  | unauthorized
  | unknownPrincipal
  | unknownItem
  | identifierReused
  | invalidRole
  | soleOwner
  | invalidTransition
  | incompleteRotation
  | ambiguousMutation
  | stateHashMismatch
  | capacityExhausted
  | missingWitnessPolicy
deriving DecidableEq

def MAX_POLICY_MEMBERS : Nat := 32
def MAX_OPERATIONS : Nat := 9
def MAX_AUTOMATIC_TARGETS : Nat := 64

inductive DescriptorStatus where
  | active
  | revoked
deriving DecidableEq

def DescriptorStatus.tag : DescriptorStatus → UInt8
  | active => 1
  | revoked => 2

abbrev ApprovalMode := ApprovalModeV1
abbrev WitnessOperation := WitnessOperationV1
abbrev PlatformAssurance := PlatformAssuranceV1

structure AutomaticReadTarget where
  itemId : ItemId
  contentRole : ContentRole
  fieldId : Option FieldId
deriving DecidableEq

def AutomaticReadTarget.lt (a b : AutomaticReadTarget) : Bool :=
  (((compare a.itemId b.itemId).then (compare a.contentRole b.contentRole)).then
    (compareFields a.fieldId b.fieldId)).isLT

def AutomaticReadTarget.canonicalBytes (target : AutomaticReadTarget) : Bytes :=
  target.itemId.asBytes.bytes ++
  (octets [target.contentRole.tag] ++
  optionalFixed (target.fieldId.map (·.asBytes.bytes)))

structure ApproverPolicyDescriptor where
  schema : UInt16
  approverId : PrincipalId
  signingPublicKey : VerificationPublicKey32
  signingKeyFingerprint : Digest32
  signingKeyEpoch : UInt64
  status : DescriptorStatus
  approvalMode : ApprovalMode
  allowedOperations : List WitnessOperation
  createdAtMs : UInt64
  selfSignature : Signature64
deriving DecidableEq

def preimageWithBody (domain : String) (body : Bytes) : Except PolicyErrorKind Bytes := do
  let field ← orReject (bytesField body) .capacityExhausted
  return jce domain ++ field

section Crypto

variable [Crypto]

def hashBody (domain : String) (body : Bytes) : Except PolicyErrorKind Digest32 := do
  let preimage ← preimageWithBody domain body
  return sha256 preimage

def requireSignature (key : VerificationPublicKey32) (message : Bytes) (signature : Signature64) :
    Except PolicyErrorKind Unit :=
  rejectIf (!verifyBytes key message signature) .invalidSignature

end Crypto

namespace ApproverPolicyDescriptor

def canonicalBody (descriptor : ApproverPolicyDescriptor) : Except PolicyErrorKind Bytes := do
  let operations ← orReject (listFixed descriptor.allowedOperations fun operation => u8 operation.tag)
    .capacityExhausted
  return u16be descriptor.schema ++
    (descriptor.approverId.asBytes.bytes ++
    (descriptor.signingPublicKey.bytes ++
    (descriptor.signingKeyFingerprint.bytes ++
    (u64be descriptor.signingKeyEpoch ++
    (octets [descriptor.status.tag, descriptor.approvalMode.tag] ++
    (operations ++
    u64be descriptor.createdAtMs))))))

def canonicalBytes (descriptor : ApproverPolicyDescriptor) : Except PolicyErrorKind Bytes := do
  let body ← descriptor.canonicalBody
  return body ++ descriptor.selfSignature.bytes

def selfSignaturePreimage (descriptor : ApproverPolicyDescriptor) : Except PolicyErrorKind Bytes := do
  let body ← descriptor.canonicalBody
  preimageWithBody "jury-witness-v1/approver-descriptor/self-signature" body

def validate [Crypto] (descriptor : ApproverPolicyDescriptor) : Except PolicyErrorKind Unit := do
  rejectIf
    (descriptor.schema != 1
      || descriptor.signingKeyEpoch == 0
      || descriptor.allowedOperations.isEmpty
      || decide (descriptor.allowedOperations.length > MAX_OPERATIONS)
      || !strictlySortedUnique descriptor.allowedOperations
      || descriptor.signingKeyFingerprint
        != Witness.signingKeyFingerprint 2 descriptor.approverId descriptor.signingKeyEpoch
          descriptor.signingPublicKey)
    .invalidFormat
  let preimage ← descriptor.selfSignaturePreimage
  requireSignature descriptor.signingPublicKey preimage descriptor.selfSignature

end ApproverPolicyDescriptor

structure WitnessPolicyDescriptor where
  schema : UInt16
  witnessId : PrincipalId
  shareIndex : UInt8
  signingPublicKey : VerificationPublicKey32
  signingKeyFingerprint : Digest32
  signingKeyEpoch : UInt64
  contributionPublicKey : RecipientPublicKey1216
  contributionKeyFingerprint : Digest32
  contributionKeyEpoch : UInt64
  status : DescriptorStatus
  createdAtMs : UInt64
  selfSignature : Signature64
deriving DecidableEq

namespace WitnessPolicyDescriptor

def canonicalBody (descriptor : WitnessPolicyDescriptor) : Bytes :=
  u16be descriptor.schema ++
  (descriptor.witnessId.asBytes.bytes ++
  (octets [descriptor.shareIndex] ++
  (descriptor.signingPublicKey.bytes ++
  (descriptor.signingKeyFingerprint.bytes ++
  (u64be descriptor.signingKeyEpoch ++
  (descriptor.contributionPublicKey.bytes ++
  (descriptor.contributionKeyFingerprint.bytes ++
  (u64be descriptor.contributionKeyEpoch ++
  (octets [descriptor.status.tag] ++
  u64be descriptor.createdAtMs)))))))))

def canonicalBytes (descriptor : WitnessPolicyDescriptor) : Bytes :=
  descriptor.canonicalBody ++ descriptor.selfSignature.bytes

def selfSignaturePreimage (descriptor : WitnessPolicyDescriptor) : Except PolicyErrorKind Bytes :=
  preimageWithBody "jury-witness-v1/witness-descriptor/self-signature" descriptor.canonicalBody

def validate [Crypto] (descriptor : WitnessPolicyDescriptor) : Except PolicyErrorKind Unit := do
  rejectIf
    (descriptor.schema != 1
      || !(decide (1 ≤ descriptor.shareIndex) && decide (descriptor.shareIndex ≤ 32))
      || descriptor.signingKeyEpoch == 0
      || descriptor.contributionKeyEpoch == 0
      || descriptor.signingKeyFingerprint
        != Witness.signingKeyFingerprint 3 descriptor.witnessId descriptor.signingKeyEpoch
          descriptor.signingPublicKey
      || descriptor.contributionKeyFingerprint
        != recipientPublicKeyFingerprint descriptor.contributionPublicKey)
    .invalidFormat
  let preimage ← descriptor.selfSignaturePreimage
  requireSignature descriptor.signingPublicKey preimage descriptor.selfSignature

end WitnessPolicyDescriptor

structure OperationRule where
  operation : WitnessOperation
  eligibleApproverIds : List PrincipalId
  approvalThreshold : UInt8
  allowedRequestLifetimeMs : UInt64
  maxTimeoutMs : UInt64
  maxOutputBytes : UInt32
  maxTargetCount : UInt8
  requiredPlatformAssurance : PlatformAssurance
  automaticReadTargets : List AutomaticReadTarget
deriving DecidableEq

namespace OperationRule

def canonicalBytes (rule : OperationRule) : Except PolicyErrorKind Bytes := do
  let approvers ← orReject (listFixed rule.eligibleApproverIds (·.asBytes.bytes)) .capacityExhausted
  let targets ← orReject (listBytes (rule.automaticReadTargets.map (·.canonicalBytes))) .capacityExhausted
  return octets [rule.operation.tag] ++
    (approvers ++
    (octets [rule.approvalThreshold] ++
    (u64be rule.allowedRequestLifetimeMs ++
    (u64be rule.maxTimeoutMs ++
    (u32be rule.maxOutputBytes ++
    (octets [rule.maxTargetCount, rule.requiredPlatformAssurance.tag] ++
    targets))))))

-- A descriptor is read as a whole, a body field by field.
def automaticTargetShape (target : AutomaticReadTarget) : Bool :=
  match target.contentRole, target.fieldId with
  | .descriptor, none => true
  | .body, some _ => true
  | _, _ => false

def validate (rule : OperationRule) : Except PolicyErrorKind Unit :=
  let isAutomatic := rule.approvalThreshold == 0
  rejectIf
    (decide (rule.eligibleApproverIds.length > MAX_POLICY_MEMBERS)
      || !strictlySortedUnique rule.eligibleApproverIds
      || decide (rule.approvalThreshold.toNat > rule.eligibleApproverIds.length)
      || !(decide (1 ≤ rule.allowedRequestLifetimeMs)
        && decide (rule.allowedRequestLifetimeMs ≤ MAX_REQUEST_LIFETIME_MS))
      || rule.maxTimeoutMs == 0
      || rule.maxOutputBytes == 0
      || rule.maxTargetCount == 0
      || decide (rule.maxTargetCount.toNat > MAX_AUTOMATIC_TARGETS)
      || decide (rule.automaticReadTargets.length > MAX_AUTOMATIC_TARGETS)
      || !(rule.automaticReadTargets.zip rule.automaticReadTargets.tail).all
        (fun pair => AutomaticReadTarget.lt pair.1 pair.2)
      || rule.automaticReadTargets.any (fun target => !automaticTargetShape target)
      || (isAutomatic && (rule.operation != .readStdout || rule.automaticReadTargets.isEmpty))
      || (!isAutomatic && !rule.automaticReadTargets.isEmpty))
    .invalidTransition

end OperationRule

structure WitnessPolicy where
  schema : UInt16
  witnessPolicyId : WitnessPolicyId
  revision : UInt64
  predecessorPolicyDigest : Digest32
  vaultId : VaultId
  genesisFingerprint : Digest32
  vaultPolicySequence : UInt64
  vaultPolicyHash : Digest32
  construction : UInt16
  suite : UInt16
  approverDescriptors : List ApproverPolicyDescriptor
  witnessDescriptors : List WitnessPolicyDescriptor
  witnessThreshold : UInt8
  operationRules : List OperationRule
  reviewLabelSetDigest : Digest32
  directFallback : Bool
deriving DecidableEq

namespace WitnessPolicy

def canonicalBody (policy : WitnessPolicy) : Except PolicyErrorKind Bytes := do
  let approvers ← policy.approverDescriptors.mapM (·.canonicalBytes)
  let rules ← policy.operationRules.mapM (·.canonicalBytes)
  let approvers ← orReject (listBytes approvers) .capacityExhausted
  let witnesses ← orReject (listBytes (policy.witnessDescriptors.map (·.canonicalBytes))) .capacityExhausted
  let rules ← orReject (listBytes rules) .capacityExhausted
  return u16be policy.schema ++
    (policy.witnessPolicyId.asBytes.bytes ++
    (u64be policy.revision ++
    (policy.predecessorPolicyDigest.bytes ++
    (policy.vaultId.asBytes.bytes ++
    (policy.genesisFingerprint.bytes ++
    (u64be policy.vaultPolicySequence ++
    (policy.vaultPolicyHash.bytes ++
    (u16be policy.construction ++
    (u16be policy.suite ++
    (approvers ++
    (witnesses ++
    (octets [policy.witnessThreshold] ++
    (rules ++
    (policy.reviewLabelSetDigest.bytes ++
    octets [if policy.directFallback then 1 else 0]))))))))))))))

def activeWitnesses (policy : WitnessPolicy) : List WitnessPolicyDescriptor :=
  policy.witnessDescriptors.filter fun descriptor => descriptor.status == .active

-- The approver with this identifier, if it is active; identifiers are unique in a valid policy.
def activeApprover (policy : WitnessPolicy) (id : PrincipalId) : Option ApproverPolicyDescriptor :=
  policy.approverDescriptors.find? fun descriptor => descriptor.status == .active && descriptor.approverId == id

variable [Crypto]

def digest (policy : WitnessPolicy) : Except PolicyErrorKind Digest32 := do
  let body ← policy.canonicalBody
  hashBody "jury-witness-v1/policy/hash" body

-- Every approver that a rule names is active and may be asked for the rule's operation.
def validateEligible (policy : WitnessPolicy) (rule : OperationRule) (approverId : PrincipalId) :
    Except PolicyErrorKind Unit := do
  let approver ← orReject (policy.activeApprover approverId) .invalidRole
  rejectIf (!approver.allowedOperations.contains rule.operation) .invalidRole

def validate (policy : WitnessPolicy) : Except PolicyErrorKind Unit := do
  rejectIf
    (policy.schema != 1
      || policy.revision == 0
      || policy.construction != 1
      || !(policy.suite == 1 || policy.suite == 2)
      || policy.directFallback
      || decide (policy.approverDescriptors.length > MAX_POLICY_MEMBERS)
      || decide (policy.witnessDescriptors.length > MAX_POLICY_MEMBERS)
      || policy.operationRules.isEmpty
      || decide (policy.operationRules.length > MAX_OPERATIONS)
      || !sortedByKey policy.approverDescriptors (·.approverId)
      || !sortedByKey policy.witnessDescriptors (·.witnessId)
      || !sortedByKey policy.operationRules (·.operation)
      || (policy.revision == 1 && policy.predecessorPolicyDigest != ZERO_DIGEST)
      || (decide (policy.revision > 1) && policy.predecessorPolicyDigest == ZERO_DIGEST))
    .invalidFormat
  policy.approverDescriptors.forM (·.validate)
  policy.witnessDescriptors.forM (·.validate)
  policy.operationRules.forM (·.validate)
  let members := policy.approverDescriptors.length + policy.witnessDescriptors.length
  let roleIds : BTreeSet PrincipalId := Std.ExtTreeSet.ofList
    (policy.approverDescriptors.map (·.approverId) ++ policy.witnessDescriptors.map (·.witnessId)) compare
  rejectIf (roleIds.size != members) .invalidRole
  let active := policy.activeWitnesses
  rejectIf
    (!(decide (2 ≤ active.length) && decide (active.length ≤ 32))
      || !(decide (2 ≤ policy.witnessThreshold.toNat) && decide (policy.witnessThreshold.toNat ≤ active.length)))
    .invalidTransition
  let shareIndexes : BTreeSet UInt8 := Std.ExtTreeSet.ofList (active.map (·.shareIndex)) compare
  rejectIf (shareIndexes.size != active.length) .invalidTransition
  policy.operationRules.forM fun rule => rule.eligibleApproverIds.forM (policy.validateEligible rule)
  let signingKeys : BTreeSet VerificationPublicKey32 := Std.ExtTreeSet.ofList
    (policy.approverDescriptors.map (·.signingPublicKey) ++ policy.witnessDescriptors.map (·.signingPublicKey))
    compare
  rejectIf (signingKeys.size != members) .invalidRole
  let contributionKeys : BTreeSet RecipientPublicKey1216 := Std.ExtTreeSet.ofList
    (policy.witnessDescriptors.map (·.contributionPublicKey)) compare
  rejectIf (contributionKeys.size != policy.witnessDescriptors.length) .invalidRole

end WitnessPolicy

end Jury.Policy
