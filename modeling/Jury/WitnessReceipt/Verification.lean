import Jury.Engine.Response
import Jury.Protocol.Witness.Receipt

-- Checking a receipt without asking anyone: the policy is replayed from the material in the receipt, the
-- request is read back from its signed bytes, and every decision is checked against the two.
namespace Jury.WitnessReceipt

open Lib Protocol Vault Witness Policy Engine

inductive ReceiptVerificationErrorKind where
  | invalidFormat
  | invalidPolicy
  | invalidScope
  | invalidDigest
  | invalidSignature
  | invalidQuorum
  | checkpointMismatch
  | capacityExhausted
deriving DecidableEq

structure ReceiptPolicyMaterialV1 where
  schema : UInt16
  journal : PolicyJournalV1
  witnessPolicies : List WitnessPolicy

-- The compact JSON that carries the material, both ways.
structure MaterialJson where
  toVec : ReceiptPolicyMaterialV1 → Option Bytes
  fromSlice : Bytes → Option ReceiptPolicyMaterialV1

structure VerifiedWitnessGeneration where
  witnessId : PrincipalId
  stateGeneration : UInt64
  decision : WitnessDecisionKindV1
  reason : WitnessReasonV1
deriving DecidableEq

structure VerifiedWitnessReceipt where
  receiptDigest : Digest32
  receiptCoreDigest : Digest32
  requestId : RequestId
  requestDigest : Digest32
  vaultId : VaultId
  genesisFingerprint : Digest32
  vaultPolicySequence : UInt64
  vaultPolicyHash : Digest32
  witnessPolicyId : WitnessPolicyId
  witnessPolicyRevision : UInt64
  witnessPolicyDigest : Digest32
  policyCheckpointDigest : Digest32
  outcome : ReceiptOutcomeV1
  reportedReason : WitnessReasonV1
  reportedIssuedAtMs : UInt64
  receiptCoreEndpointAuthenticated : Bool
  retainedCheckpointMatched : Bool
  countedApproverIds : List PrincipalId
  countedWitnessIds : List PrincipalId
  witnessGenerations : List VerifiedWitnessGeneration
  endpointAcknowledged : Bool
  endpointCompletionRecorded : Bool
deriving DecidableEq

def mapCheckpointPolicyError : CheckpointPolicyError → ReceiptVerificationErrorKind
  | .invalid => .invalidFormat
  | .scopeMismatch => .invalidScope
  | .missingOwner => .invalidPolicy
  | .invalidSignature => .invalidSignature

def mapRequestPolicyError : RequestPolicyError → ReceiptVerificationErrorKind
  | .invalid => .invalidFormat
  | .invalidSignature => .invalidSignature
  | .policyDenied | .wrongScope => .invalidScope
  | .stalePolicy => .invalidPolicy

def countedApprovers (decisions : List ApprovalDecisionV1) : List PrincipalId :=
  (decisions.filter fun decision => decision.decision == .approve).map (·.approverId)

def countedWitnesses (decisions : List WitnessDecisionV1) : List PrincipalId :=
  (decisions.filter fun decision => decision.decision == .approve).map (·.witnessId)

def witnessGeneration (decision : WitnessDecisionV1) : VerifiedWitnessGeneration where
  witnessId := decision.witnessId
  stateGeneration := decision.stateGeneration
  decision := decision.decision
  reason := decision.reason

def quorumReached (rule : WitnessAccessRule) (approvers witnesses : List PrincipalId) : Bool :=
  decide (rule.approvalThreshold.toNat ≤ approvers.length) && decide (rule.witnessThreshold.toNat ≤ witnesses.length)

-- Field by field, an approval is bound to the request, the manifest and the presentation of a receipt.
def approvalBound (receipt : WitnessReceiptV1) (request : WitnessRequestV1) (intendedDigest : Digest32)
    (decision : ApprovalDecisionV1) : Bool :=
  decision.requestId == request.requestId
    && decision.requestDigest == receipt.requestDigest
    && decision.actionManifestDigest == receipt.actionManifestDigest
    && decision.presentationDigest == receipt.presentationDigest
    && decision.witnessPolicyId == request.witnessPolicyId
    && decision.witnessPolicyRevision == request.witnessPolicyRevision
    && decision.witnessPolicyDigest == request.witnessPolicyDigest
    && decide (decision.expiresAtMs ≤ request.expiresAtMs)
    && decide (request.issuedAtMs ≤ saturatingAdd decision.issuedAtMs ACCEPTED_CLOCK_SKEW_MS)
    && decision.intendedWitnessSetDigest == intendedDigest

def decisionBound (receipt : WitnessReceiptV1) (request : WitnessRequestV1) (decision : WitnessDecisionV1) : Bool :=
  decision.requestId == request.requestId
    && decision.requestDigest == receipt.requestDigest
    && decision.actionManifestDigest == receipt.actionManifestDigest
    && decision.witnessPolicyId == request.witnessPolicyId
    && decision.witnessPolicyRevision == request.witnessPolicyRevision
    && decision.witnessPolicyDigest == request.witnessPolicyDigest
    && decision.policyCheckpointDigest == request.policyCheckpointDigest
    && decide (decision.expiresAtMs ≤ request.expiresAtMs)
    && decide (request.issuedAtMs ≤ saturatingAdd decision.issuedAtMs ACCEPTED_CLOCK_SKEW_MS)

-- Field by field, a receipt says of itself what the request it embeds says.
def receiptBound (receipt : WitnessReceiptV1) (request : WitnessRequestV1) (requestDigest : Digest32) : Bool :=
  requestDigest == receipt.requestDigest
    && request.actionManifestDigest == receipt.actionManifestDigest
    && request.actionManifestDigest == receipt.publicScope.actionManifestDigest
    && receipt.publicScope == PublicReceiptScopeV1.fromRequest request
    && receipt.expiresAtMs == request.expiresAtMs
    && decide (request.issuedAtMs ≤ saturatingAdd receipt.issuedAtMs ACCEPTED_CLOCK_SKEW_MS)
    && !(receipt.outcome == .approved && decide (request.expiresAtMs ≤ receipt.issuedAtMs))

-- A verifier that retained a checkpoint accepts no other.
def Pinned (checkpoint : Option VaultPolicyCheckpointV1) (receipt : WitnessReceiptV1) : Prop :=
  ∀ expected, checkpoint = some expected → expected = receipt.policyCheckpoint

theorem pinned_iff {checkpoint : Option VaultPolicyCheckpointV1} {receipt : WitnessReceiptV1} :
    (checkpoint.any fun expected => expected != receipt.policyCheckpoint) = false ↔ Pinned checkpoint receipt := by
  cases checkpoint <;> simp [Pinned]

variable [Crypto]

namespace ReceiptPolicyMaterialV1

def replay (material : ReceiptPolicyMaterialV1) : Except ReceiptVerificationErrorKind PolicyState := do
  rejectIf (material.schema != 1) .invalidPolicy
  (replayPolicyWithWitnessPolicies material.journal material.witnessPolicies).mapError fun _ => .invalidPolicy

def encode (json : MaterialJson) (material : ReceiptPolicyMaterialV1) :
    Except ReceiptVerificationErrorKind PolicyMaterialBytes := do
  let _ ← material.replay
  let bytes ← orReject (json.toVec material) .invalidPolicy
  (BoundedBytes.new _ bytes).mapError fun _ => .capacityExhausted

def decode (json : MaterialJson) (encoded : PolicyMaterialBytes) :
    Except ReceiptVerificationErrorKind ReceiptPolicyMaterialV1 := do
  let material ← orReject (json.fromSlice encoded.asBytes) .invalidPolicy
  let written ← material.encode json
  rejectIf (written.asBytes != encoded.asBytes) .invalidPolicy
  return material

end ReceiptPolicyMaterialV1

def validateCheckpoint (policy : PolicyState) (witnessPolicy : WitnessPolicy) (request : WitnessRequestV1)
    (checkpoint : VaultPolicyCheckpointV1) : Except ReceiptVerificationErrorKind Unit := do
  let policies ← (validateCheckpointPolicy policy checkpoint).mapError mapCheckpointPolicyError
  let checkpointDigest ← checkpoint.digest.mapError fun _ => .invalidDigest
  rejectIf (!(requestMatchesCheckpoint request checkpoint checkpointDigest && policies.contains witnessPolicy))
    .invalidScope

def validateApproval (receipt : WitnessReceiptV1) (request : WitnessRequestV1) (witnessPolicy : WitnessPolicy)
    (intendedDigest : Digest32) (decision : ApprovalDecisionV1) : Except ReceiptVerificationErrorKind Unit := do
  rejectIf (!approvalBound receipt request intendedDigest decision) .invalidScope
  let descriptor ← orReject (witnessPolicy.activeApprover decision.approverId) .invalidPolicy
  rejectIf
    (descriptor.approvalMode != decision.approvalMode
      || !descriptor.allowedOperations.contains request.operation
      || descriptor.signingKeyEpoch != decision.approverKeyEpoch
      || descriptor.signingKeyFingerprint != decision.approverKeyFingerprint)
    .invalidSignature
  let preimage ← decision.signaturePreimage.mapError fun _ => .invalidFormat
  rejectIf (!verifyBytes descriptor.signingPublicKey preimage decision.signature) .invalidSignature

def validateApprovals (receipt : WitnessReceiptV1) (request : WitnessRequestV1) (witnessPolicy : WitnessPolicy) :
    Except ReceiptVerificationErrorKind (List PrincipalId) := do
  let intendedDigest ← request.intendedWitnessSetDigest.mapError fun _ => .invalidDigest
  receipt.approvalDecisions.forM (validateApproval receipt request witnessPolicy intendedDigest)
  return countedApprovers receipt.approvalDecisions

def validateWitnessDecision (receipt : WitnessReceiptV1) (request : WitnessRequestV1) (witnessPolicy : WitnessPolicy)
    (decision : WitnessDecisionV1) : Except ReceiptVerificationErrorKind Unit := do
  rejectIf (!decisionBound receipt request decision) .invalidScope
  let descriptor ← orReject (activeWitness witnessPolicy decision.witnessId) .invalidPolicy
  rejectIf
    (descriptor.signingKeyEpoch != decision.witnessSigningKeyEpoch
      || descriptor.signingKeyFingerprint != decision.witnessSigningKeyFingerprint
      || (decision.decision == .approve && decision.shareIndex != some descriptor.shareIndex))
    .invalidSignature
  let preimage ← decision.signaturePreimage.mapError fun _ => .invalidFormat
  rejectIf (!verifyBytes descriptor.signingPublicKey preimage decision.signature) .invalidSignature

def validateWitnessDecisions (receipt : WitnessReceiptV1) (request : WitnessRequestV1)
    (witnessPolicy : WitnessPolicy) :
    Except ReceiptVerificationErrorKind (List PrincipalId × List VerifiedWitnessGeneration) := do
  receipt.witnessDecisions.forM (validateWitnessDecision receipt request witnessPolicy)
  return (countedWitnesses receipt.witnessDecisions, receipt.witnessDecisions.map witnessGeneration)

def validateAcknowledgement (receipt : WitnessReceiptV1) (request : WitnessRequestV1) (requester : PrincipalPolicyState)
    (acknowledgement : ReceiptAcknowledgementV1) : Except ReceiptVerificationErrorKind Unit := do
  let key := requester.descriptor.verificationPublicKey
  rejectIf
    (acknowledgement.endpointPrincipalId != request.requesterPrincipalId
      || acknowledgement.endpointKeyEpoch != 1
      || acknowledgement.endpointKeyFingerprint != signingKeyFingerprint 1 request.requesterPrincipalId 1 key
      || decide (acknowledgement.startedAtMs < receipt.issuedAtMs)
      || decide (acknowledgement.startedAtMs > receipt.expiresAtMs))
    .invalidScope
  let preimage ← acknowledgement.signaturePreimage.mapError fun _ => .invalidFormat
  rejectIf (!verifyBytes key preimage acknowledgement.signature) .invalidSignature

def validateCompletion (receipt : WitnessReceiptV1) (request : WitnessRequestV1) (requester : PrincipalPolicyState)
    (completion : ReceiptCompletionV1) : Except ReceiptVerificationErrorKind Unit := do
  let key := requester.descriptor.verificationPublicKey
  let earliest := (receipt.endpointAcknowledgement.map (·.startedAtMs)).getD receipt.issuedAtMs
  rejectIf
    (completion.endpointPrincipalId != request.requesterPrincipalId
      || completion.endpointKeyEpoch != 1
      || completion.endpointKeyFingerprint != signingKeyFingerprint 1 request.requesterPrincipalId 1 key
      || decide (completion.completedAtMs < earliest))
    .invalidScope
  let preimage ← completion.signaturePreimage.mapError fun _ => .invalidFormat
  rejectIf (!verifyBytes key preimage completion.signature) .invalidSignature

def validateEndpointRecords (receipt : WitnessReceiptV1) (request : WitnessRequestV1) (policy : PolicyState) :
    Except ReceiptVerificationErrorKind Unit := do
  let requester ← orReject policy.principals[request.requesterPrincipalId]? .invalidPolicy
  receipt.endpointAcknowledgement.forM (validateAcknowledgement receipt request requester)
  receipt.endpointCompletion.forM (validateCompletion receipt request requester)

def verifyWitnessReceiptWithPolicy (receipt : WitnessReceiptV1) (policy : PolicyState)
    (checkpoint : Option VaultPolicyCheckpointV1) : Except ReceiptVerificationErrorKind VerifiedWitnessReceipt := do
  let (receiptCoreDigest, receiptDigest) ← receipt.validatedDigests.mapError fun _ => .invalidFormat
  rejectIf (checkpoint.any fun expected => expected != receipt.policyCheckpoint) .checkpointMismatch
  let request ← (WitnessRequestV1.fromSignaturePreimage receipt.requestSignaturePreimage.asBytes
    receipt.clientSignature).mapError fun _ => .invalidFormat
  let requestDigest ← request.digest.mapError fun _ => .invalidDigest
  rejectIf (!receiptBound receipt request requestDigest) .invalidScope
  let validated ← (validateRequestPolicy policy request).mapError mapRequestPolicyError
  validateCheckpoint policy validated.policy request receipt.policyCheckpoint
  let rule := validated.rule
  rejectIf
    (receipt.approvalThreshold != rule.approvalThreshold || receipt.witnessThreshold != rule.witnessThreshold)
    .invalidQuorum
  let intendedDigest ← request.intendedWitnessSetDigest.mapError fun _ => .invalidDigest
  let expectedIntendedDigest ← (policy.intendedWitnessSetDigest request.itemId).mapError fun _ => .invalidPolicy
  rejectIf (intendedDigest != expectedIntendedDigest) .invalidScope
  let approvers ← validateApprovals receipt request validated.policy
  let (witnesses, witnessGenerations) ← validateWitnessDecisions receipt request validated.policy
  rejectIf
    (approvers != receipt.countedApproverIds
      || witnesses != receipt.countedWitnessIds
      || approvers.any (fun id => !rule.eligibleApproverIds.contains id)
      || witnesses.any (fun id => !rule.witnessIds.contains id)
      || (receipt.outcome == .approved) != quorumReached rule approvers witnesses)
    .invalidQuorum
  validateEndpointRecords receipt request policy
  let policyCheckpointDigest ← receipt.policyCheckpoint.digest.mapError fun _ => .invalidDigest
  return {
    receiptDigest
    receiptCoreDigest
    requestId := request.requestId
    requestDigest
    vaultId := request.vaultId
    genesisFingerprint := request.genesisFingerprint
    vaultPolicySequence := request.vaultPolicySequence
    vaultPolicyHash := request.vaultPolicyHash
    witnessPolicyId := request.witnessPolicyId
    witnessPolicyRevision := request.witnessPolicyRevision
    witnessPolicyDigest := request.witnessPolicyDigest
    policyCheckpointDigest
    outcome := receipt.outcome
    reportedReason := receipt.reason
    reportedIssuedAtMs := receipt.issuedAtMs
    receiptCoreEndpointAuthenticated := receipt.endpointAcknowledgement.isSome || receipt.endpointCompletion.isSome
    retainedCheckpointMatched := checkpoint.isSome
    countedApproverIds := approvers
    countedWitnessIds := witnesses
    witnessGenerations
    endpointAcknowledged := receipt.endpointAcknowledgement.isSome
    endpointCompletionRecorded := receipt.endpointCompletion.isSome }

def verifyWitnessReceipt (json : MaterialJson) (receipt : WitnessReceiptV1)
    (checkpoint : Option VaultPolicyCheckpointV1) : Except ReceiptVerificationErrorKind VerifiedWitnessReceipt := do
  let material ← ReceiptPolicyMaterialV1.decode json receipt.witnessPolicyMaterial
  let policy ← material.replay
  verifyWitnessReceiptWithPolicy receipt policy checkpoint

structure Supported (receipt : WitnessReceiptV1) (policy : PolicyState) (request : WitnessRequestV1)
    (validated : ValidatedRequestPolicy) : Prop where
  formed : ∃ digests, receipt.validatedDigests = .ok digests
  embedded : WitnessRequestV1.fromSignaturePreimage receipt.requestSignaturePreimage.asBytes receipt.clientSignature =
    .ok request
  bound : ∃ digest, request.digest = .ok digest ∧ receiptBound receipt request digest = true
  governed : validateRequestPolicy policy request = .ok validated
  checkpoint : validateCheckpoint policy validated.policy request receipt.policyCheckpoint = .ok ()
  thresholds : receipt.approvalThreshold = validated.rule.approvalThreshold ∧
    receipt.witnessThreshold = validated.rule.witnessThreshold
  approvals : ∃ digest, request.intendedWitnessSetDigest = .ok digest ∧
    policy.intendedWitnessSetDigest request.itemId = .ok digest ∧
    ∀ decision ∈ receipt.approvalDecisions, validateApproval receipt request validated.policy digest decision = .ok ()
  decisions : ∀ decision ∈ receipt.witnessDecisions,
    validateWitnessDecision receipt request validated.policy decision = .ok ()
  approvers : countedApprovers receipt.approvalDecisions = receipt.countedApproverIds
  witnesses : countedWitnesses receipt.witnessDecisions = receipt.countedWitnessIds
  eligible : ∀ id ∈ receipt.countedApproverIds, id ∈ validated.rule.eligibleApproverIds
  members : ∀ id ∈ receipt.countedWitnessIds, id ∈ validated.rule.witnessIds
  outcome : (receipt.outcome == .approved) =
    quorumReached validated.rule receipt.countedApproverIds receipt.countedWitnessIds
  endpoint : validateEndpointRecords receipt request policy = .ok ()

variable {checkpoint : Option VaultPolicyCheckpointV1}

theorem checkpointDigest_of_validateCheckpoint {checkpoint : VaultPolicyCheckpointV1}
    (h : validateCheckpoint policy witnessPolicy request checkpoint = .ok ()) :
    ∃ digest, checkpoint.digest = .ok digest := by
  simp only [validateCheckpoint, eq_ok] at h
  obtain ⟨_, -, digest, hdigest, -⟩ := h
  exact ⟨digest, hdigest⟩

theorem verifyWitnessReceiptWithPolicy_eq_ok
    (h : verifyWitnessReceiptWithPolicy receipt policy checkpoint = .ok verified) :
    Pinned checkpoint receipt ∧ (∃ request validated, Supported receipt policy request validated) ∧
      verified.outcome = receipt.outcome ∧ verified.countedApproverIds = receipt.countedApproverIds ∧
      verified.countedWitnessIds = receipt.countedWitnessIds := by
  simp only [verifyWitnessReceiptWithPolicy, validateApprovals, validateWitnessDecisions, eq_ok, forM_eq_ok, passed,
    List.any_eq_false, pinned_iff, List.contains_iff_mem, Bool.not_eq_true, Unique.exists_iff] at h
  obtain ⟨digests, hdigests, hpinned, request, hrequest, digest, hdigest, hbound, validated, hvalidated, hckpt,
    hthresholds, intended, hint, _, hexp, rfl, _, ⟨_, hintendedToo, happs, rfl⟩, _,
    ⟨hdecisions, rfl⟩, ⟨⟨⟨⟨happrs, hwits⟩, heligible⟩, hmembers⟩, houtcome⟩, hendpoint, checkpointDigest, -,
    rfl⟩ := h
  obtain rfl := ok_unique hint hintendedToo
  refine ⟨hpinned, ⟨request, validated, ?_⟩, rfl, happrs, hwits⟩
  exact {
    formed := ⟨digests, hdigests⟩
    embedded := hrequest
    bound := ⟨digest, hdigest, hbound⟩
    governed := hvalidated
    checkpoint := hckpt
    thresholds := hthresholds
    approvals := ⟨intended, hint, hexp, happs⟩
    decisions := hdecisions
    approvers := happrs
    witnesses := hwits
    eligible := fun id hid => heligible id (happrs ▸ hid)
    members := fun id hid => hmembers id (hwits ▸ hid)
    outcome := by rw [houtcome, happrs, hwits]
    endpoint := hendpoint }

theorem Supported.verifies (h : Supported receipt policy request validated) (hpinned : Pinned checkpoint receipt) :
    ∃ verified, verifyWitnessReceiptWithPolicy receipt policy checkpoint = .ok verified := by
  obtain ⟨digests, hdigests⟩ := h.formed
  obtain ⟨digest, hdigest, hbound⟩ := h.bound
  obtain ⟨intended, hint, hexp, happs⟩ := h.approvals
  obtain ⟨checkpointDigest, hcheckpointDigest⟩ := checkpointDigest_of_validateCheckpoint h.checkpoint
  simp only [verifyWitnessReceiptWithPolicy, validateApprovals, validateWitnessDecisions, eq_ok, forM_eq_ok, passed,
    List.any_eq_false, pinned_iff, List.contains_iff_mem, Bool.not_eq_true, Unique.exists_iff]
  exact ⟨_, digests, hdigests, hpinned, request, h.embedded, digest, hdigest, hbound, validated, h.governed, h.checkpoint,
    h.thresholds, intended, hint, intended, hexp, rfl, _, ⟨intended, hint, happs, h.approvers⟩,
    _, ⟨h.decisions, rfl⟩, ⟨⟨⟨⟨rfl, h.witnesses⟩, h.eligible⟩, h.witnesses ▸ h.members⟩, h.witnesses ▸ h.outcome⟩,
    h.endpoint, checkpointDigest, hcheckpointDigest, rfl⟩

end Jury.WitnessReceipt
