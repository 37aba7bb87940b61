import Jury.Access.Witnessed
import Jury.WitnessReceipt.Verification

-- What an accepted receipt proves to someone who has nothing but the receipt: who signed what, under which policy,
-- and that an approval in it is a quorum of different signers.
namespace Jury.WitnessReceipt

open Lib Protocol Witness Policy Engine

theorem role_of_access {policy : PolicyState} {itemId : ItemId}
    (hallowed : (policy.access itemId principalId capability).allowed = true)
    (hrole : (policy.access itemId principalId capability).effectiveRole = some role) :
    rolePermits role capability = true := by
  revert hallowed hrole
  fun_cases PolicyState.access policy itemId principalId capability
  case case6 hpermits _ _ _ _ =>
    rintro - hrole
    obtain rfl := Option.some.inj hrole
    simpa using hpermits
  all_goals exact fun hallowed => absurd hallowed Bool.false_ne_true

theorem nodup_counted {α : Type} {decisions : List α} {key : α → PrincipalId} {approves : α → Bool}
    (h : sortedByKey decisions key = true) : ((decisions.filter approves).map key).Nodup :=
  (nodup_of_sortedByKey h).sublist (List.filter_sublist.map key)

variable [Crypto]

structure OwnerSigned (policy : PolicyState) (request : WitnessRequestV1) (checkpoint : VaultPolicyCheckpointV1)
    (owner : PrincipalPolicyState) : Prop where
  current : checkpoint.issuerOwnerId ∈ policy.owners ∧ policy.principals[checkpoint.issuerOwnerId]? = some owner
  signed : ∃ preimage, checkpoint.signaturePreimage = .ok preimage ∧
    verifyBytes owner.descriptor.verificationPublicKey preimage checkpoint.signature = true
  named : checkpoint.digest = .ok request.policyCheckpointDigest
  state : checkpoint.vaultPolicySequence = policy.sequence ∧ checkpoint.vaultPolicyHash = policy.terminalRevisionHash

-- An active approver has signed the decision for the request, the manifest, the presentation and the witness policy.
structure BoundApproval (receipt : WitnessReceiptV1) (request : WitnessRequestV1) (witnessPolicy : WitnessPolicy)
    (decision : ApprovalDecisionV1) (descriptor : ApproverPolicyDescriptor) : Prop where
  active : witnessPolicy.activeApprover decision.approverId = some descriptor
  allowed : request.operation ∈ descriptor.allowedOperations
  signed : ∃ preimage, decision.signaturePreimage = .ok preimage ∧
    verifyBytes descriptor.signingPublicKey preimage decision.signature = true
  answers : decision.requestId = request.requestId ∧ request.digest = .ok decision.requestDigest
  manifest : decision.actionManifestDigest = request.actionManifestDigest
  presentation : decision.presentationDigest = receipt.presentationDigest
  policy : decision.witnessPolicyId = request.witnessPolicyId ∧
    decision.witnessPolicyRevision = request.witnessPolicyRevision ∧
    decision.witnessPolicyDigest = request.witnessPolicyDigest

structure BoundDecision (request : WitnessRequestV1) (witnessPolicy : WitnessPolicy) (decision : WitnessDecisionV1)
    (descriptor : WitnessPolicyDescriptor) : Prop where
  active : activeWitness witnessPolicy decision.witnessId = some descriptor
  signed : ∃ preimage, decision.signaturePreimage = .ok preimage ∧
    verifyBytes descriptor.signingPublicKey preimage decision.signature = true
  answers : decision.requestId = request.requestId ∧ request.digest = .ok decision.requestDigest
  manifest : decision.actionManifestDigest = request.actionManifestDigest
  policy : decision.witnessPolicyId = request.witnessPolicyId ∧
    decision.witnessPolicyRevision = request.witnessPolicyRevision ∧
    decision.witnessPolicyDigest = request.witnessPolicyDigest
  checkpoint : decision.policyCheckpointDigest = request.policyCheckpointDigest

def ApproverQuorum (receipt : WitnessReceiptV1) (request : WitnessRequestV1) (rule : WitnessAccessRule)
    (witnessPolicy : WitnessPolicy) : Prop :=
  ∃ ids : List PrincipalId, ids.Nodup ∧ rule.approvalThreshold.toNat ≤ ids.length ∧
    ∀ id ∈ ids, id ∈ rule.eligibleApproverIds ∧ ∃ decision ∈ receipt.approvalDecisions,
      decision.approverId = id ∧ decision.decision = .approve ∧
      ∃ descriptor, BoundApproval receipt request witnessPolicy decision descriptor

def WitnessQuorum (receipt : WitnessReceiptV1) (request : WitnessRequestV1) (rule : WitnessAccessRule)
    (witnessPolicy : WitnessPolicy) : Prop :=
  ∃ ids : List PrincipalId, ids.Nodup ∧ rule.witnessThreshold.toNat ≤ ids.length ∧
    ∀ id ∈ ids, id ∈ rule.witnessIds ∧ ∃ decision ∈ receipt.witnessDecisions,
      decision.witnessId = id ∧ decision.decision = .approve ∧
      ∃ descriptor, BoundDecision request witnessPolicy decision descriptor

section Checks

variable {receipt : WitnessReceiptV1} {policy : PolicyState} {request : WitnessRequestV1}
  {witnessPolicy : WitnessPolicy}

theorem validateCheckpoint_eq_ok {checkpoint : VaultPolicyCheckpointV1}
    (h : validateCheckpoint policy witnessPolicy request checkpoint = .ok ()) :
    ∃ owner, OwnerSigned policy request checkpoint owner := by
  simp only [validateCheckpoint, validateCheckpointPolicy, eq_ok, passed, Bool.and_eq_true, Option.filter_eq_some_iff,
    Unique.exists_iff] at h
  obtain ⟨policies, ⟨-, ⟨⟨⟨-, -⟩, hseq⟩, hhash⟩, _, -, _, -, -, owner, ⟨howner, hcur⟩, -, preimage, hpre,
    hsigned, -⟩, digest, hdigest, hstands, -⟩ := h
  simp only [requestMatchesCheckpoint, holds] at hstands
  rw [Std.ExtTreeSet.contains_iff_mem] at hcur
  exact ⟨owner, ⟨hcur, howner⟩, ⟨preimage, hpre, hsigned⟩, hstands.2 ▸ hdigest, hseq, hhash⟩

section Bound

variable (hdigest : request.digest = .ok requestDigest) (hbound : receiptBound receipt request requestDigest = true)

include hdigest hbound

theorem validateApproval_eq_ok (h : validateApproval receipt request witnessPolicy intendedDigest decision = .ok ()) :
    ∃ descriptor, BoundApproval receipt request witnessPolicy decision descriptor := by
  simp only [receiptBound, holds, and_assoc] at hbound
  obtain ⟨hrequest, hman, -⟩ := hbound
  simp only [validateApproval, approvalBound, eq_ok, passed, holds, List.contains_iff_mem, Unique.exists_iff,
    and_assoc] at h
  obtain ⟨hid, hdec, hdecided, hpresentation, hpolicy, hrev, hpolicyDigest, -, -, -, descriptor, hactive, -, hallowed,
    -, -, preimage, hpre, hsigned⟩ := h
  exact ⟨descriptor, hactive, hallowed, ⟨preimage, hpre, hsigned⟩, ⟨hid, by rw [hdigest, hrequest, hdec]⟩,
    hdecided.trans hman.symm, hpresentation, hpolicy, hrev, hpolicyDigest⟩

theorem validateWitnessDecision_eq_ok (h : validateWitnessDecision receipt request witnessPolicy decision = .ok ()) :
    ∃ descriptor, BoundDecision request witnessPolicy decision descriptor := by
  simp only [receiptBound, holds, and_assoc] at hbound
  obtain ⟨hrequest, hman, -⟩ := hbound
  simp only [validateWitnessDecision, decisionBound, eq_ok, Bool.not_eq_false', holds, Unique.exists_iff,
    and_assoc] at h
  obtain ⟨hid, hdec, hdecided, hpolicy, hrev, hpolicyDigest, hckpt, -, -, descriptor, hactive, -, preimage, hpre,
    hsigned⟩ := h
  exact ⟨descriptor, hactive, ⟨preimage, hpre, hsigned⟩, ⟨hid, by rw [hdigest, hrequest, hdec]⟩,
    hdecided.trans hman.symm, ⟨hpolicy, hrev, hpolicyDigest⟩, hckpt⟩

end Bound

theorem validateWitnessSet_eq_ok (h : validateWitnessSet policy request = .ok witnessPolicy) :
    policy.witnessPolicies[request.witnessPolicyDigest]? = some witnessPolicy ∧
      ∃ digest, request.intendedWitnessSetDigest = .ok digest ∧
        policy.intendedWitnessSetDigest request.itemId = .ok digest := by
  simp only [validateWitnessSet, eq_ok, bne_eq_false_iff_eq] at h
  obtain ⟨_, hfound, -, -, -, -, requested, hrequested, expected, hexp, -, rfl, rfl⟩ := h
  exact ⟨hfound, requested, hrequested, hexp⟩

theorem wellFormed_of_validatedDigests (h : receipt.validatedDigests = .ok digests) : receipt.wellFormed = true := by
  simp only [WitnessReceiptV1.validatedDigests, WitnessReceiptV1.validatedCore, eq_ok, Bool.not_eq_false'] at h
  obtain ⟨_, ⟨_, hformed, -⟩, -⟩ := h
  exact hformed

end Checks

namespace Supported

variable {receipt : WitnessReceiptV1} {policy : PolicyState} {request : WitnessRequestV1}
  {validated : ValidatedRequestPolicy}

section Quorums

variable (h : Supported receipt policy request validated)

include h

theorem approvers_nodup : (countedApprovers receipt.approvalDecisions).Nodup := by
  obtain ⟨_, hformed⟩ := h.formed
  have hshape := wellFormed_of_validatedDigests hformed
  simp only [WitnessReceiptV1.wellFormed, Bool.and_eq_true] at hshape
  exact nodup_counted hshape.1.1.1.1.1.1.1.2

theorem witnesses_nodup : (countedWitnesses receipt.witnessDecisions).Nodup := by
  obtain ⟨_, hformed⟩ := h.formed
  have hshape := wellFormed_of_validatedDigests hformed
  simp only [WitnessReceiptV1.wellFormed, Bool.and_eq_true] at hshape
  exact nodup_counted hshape.1.1.1.1.1.1.2

theorem approved_iff :
    receipt.outcome = .approved ↔
      validated.rule.approvalThreshold.toNat ≤ (countedApprovers receipt.approvalDecisions).length ∧
      validated.rule.witnessThreshold.toNat ≤ (countedWitnesses receipt.witnessDecisions).length := by
  rw [h.approvers, h.witnesses, ← beq_iff_eq, h.outcome]
  simp only [quorumReached, holds]

theorem approverQuorum (happroved : receipt.outcome = .approved) :
    ApproverQuorum receipt request validated.rule validated.policy := by
  obtain ⟨digest, hdigest, hbound⟩ := h.bound
  obtain ⟨intended, -, -, happs⟩ := h.approvals
  refine ⟨countedApprovers receipt.approvalDecisions, h.approvers_nodup, (h.approved_iff.mp happroved).1, ?_⟩
  intro id hid
  refine ⟨h.eligible id (h.approvers ▸ hid), ?_⟩
  obtain ⟨decision, hdec, rfl⟩ := List.mem_map.mp hid
  obtain ⟨hlisted, happrove⟩ := List.mem_filter.mp hdec
  exact ⟨decision, hlisted, rfl, beq_iff_eq.mp happrove, validateApproval_eq_ok hdigest hbound (happs decision hlisted)⟩

theorem witnessQuorum (happroved : receipt.outcome = .approved) :
    WitnessQuorum receipt request validated.rule validated.policy := by
  obtain ⟨digest, hdigest, hbound⟩ := h.bound
  refine ⟨countedWitnesses receipt.witnessDecisions, h.witnesses_nodup, (h.approved_iff.mp happroved).2, ?_⟩
  intro id hid
  refine ⟨h.members id (h.witnesses ▸ hid), ?_⟩
  obtain ⟨decision, hdec, rfl⟩ := List.mem_map.mp hid
  obtain ⟨hlisted, happrove⟩ := List.mem_filter.mp hdec
  exact ⟨decision, hlisted, rfl, beq_iff_eq.mp happrove,
    validateWitnessDecision_eq_ok hdigest hbound (h.decisions decision hlisted)⟩

end Quorums

end Supported

-- Whoever accepts a receipt has replayed a policy from it under which its request was allowed and its checkpoint
-- signed by an owner. If it reports an approval, it holds a quorum of approvers and a quorum of witnesses, each of
-- different signers bound to that request; and it reports one exactly when the signers in it are enough.
theorem accepted_receipt_sound (json : MaterialJson) (receipt : WitnessReceiptV1)
    (checkpoint : Option VaultPolicyCheckpointV1) (verified : VerifiedWitnessReceipt)
    (h : verifyWitnessReceipt json receipt checkpoint = .ok verified) :
    ∃ material policy request rule witnessPolicy slot,
      ReceiptPolicyMaterialV1.decode json receipt.witnessPolicyMaterial = .ok material ∧
      material.replay = .ok policy ∧
      WitnessRequestV1.fromSignaturePreimage receipt.requestSignaturePreimage.asBytes receipt.clientSignature =
        .ok request ∧
      Granted policy request rule witnessPolicy slot ∧
      rolePermits request.requestedAccessRole (operationCapability request.operation) = true ∧
      policy.witnessPolicies[request.witnessPolicyDigest]? = some witnessPolicy ∧
      (∃ owner, OwnerSigned policy request receipt.policyCheckpoint owner) ∧
      (verified.outcome = .approved →
        ApproverQuorum receipt request rule witnessPolicy ∧ WitnessQuorum receipt request rule witnessPolicy) ∧
      (verified.outcome = .approved ↔
        rule.approvalThreshold.toNat ≤ (countedApprovers receipt.approvalDecisions).dedup.length ∧
        rule.witnessThreshold.toNat ≤ (countedWitnesses receipt.witnessDecisions).dedup.length) := by
  simp only [verifyWitnessReceipt, bind_eq_ok] at h
  obtain ⟨material, hmaterial, policy, hpolicy, hver⟩ := h
  obtain ⟨-, ⟨request, validated, hsupported⟩, houtcome, -, -⟩ := verifyWitnessReceiptWithPolicy_eq_ok hver
  have hgranted := validateRequestPolicy_eq_ok hsupported.governed
  refine ⟨material, policy, request, validated.rule, validated.policy, validated.slot, hmaterial, hpolicy,
    hsupported.embedded, hgranted, role_of_access hgranted.allowed.allowed hgranted.allowed.role,
    (validateWitnessSet_eq_ok hgranted.witnesses).1,
    validateCheckpoint_eq_ok hsupported.checkpoint, ?_, ?_⟩
  · intro happroved
    rw [houtcome] at happroved
    exact ⟨hsupported.approverQuorum happroved, hsupported.witnessQuorum happroved⟩
  · rw [houtcome, hsupported.approvers_nodup.dedup, hsupported.witnesses_nodup.dedup]
    exact hsupported.approved_iff

end Jury.WitnessReceipt

namespace Jury.WitnessReceipt.Sample

open Lib Protocol Witness Protocol.Sample Policy.Sample Engine Engine.Sample Access.Sample

def material : ReceiptPolicyMaterialV1 := { schema := 1, journal := dealtJournal, witnessPolicies := [witnessPolicy] }

def json : MaterialJson := { toVec := fun _ => some (u8 1), fromSlice := fun _ => some material }

def approved : ApprovalDecisionV1 :=
  let unsigned := { approval 3 1 (descriptorManifest 1) .approve 4000 with
    requestDigest := digestOf (descriptorRequest 1).digest
    issuedAtMs := 3050 }
  { unsigned with signature := sign (verificationKey 3) (unsigned.signaturePreimage.toOption.getD ∅) }

def receipt : WitnessReceiptV1 where
  schema := 1
  receiptId := identifier .receipt 1
  requestSignaturePreimage :=
    ((BoundedBytes.new _ ((descriptorRequest 1).signaturePreimage.toOption.getD ∅)).toOption.getD ⟨∅, Nat.zero_le _⟩)
  clientSignature := (descriptorRequest 1).clientSignature
  requestDigest := digestOf (descriptorRequest 1).digest
  actionManifestDigest := (descriptorRequest 1).actionManifestDigest
  presentationDigest := (descriptorManifest 1).presentationDigest
  publicScope := .fromRequest (descriptorRequest 1)
  approvalDecisions := [approved]
  witnessDecisions := [(approvalOf 5 1 1).decision, (approvalOf 6 2 1).decision]
  policyCheckpoint := dealtCheckpoint
  witnessPolicyMaterial := ⟨u8 1, (by decide : 1 ≤ 16777216)⟩
  approvalThreshold := 1
  witnessThreshold := 2
  countedApproverIds := [identifier .principal 3]
  countedWitnessIds := [identifier .principal 5, identifier .principal 6]
  outcome := .approved
  reason := .none
  issuedAtMs := 3200
  expiresAtMs := (descriptorRequest 1).expiresAtMs
  endpointAcknowledgement := none
  endpointCompletion := none

theorem receipt_accepted : Returns (verifyWitnessReceipt json receipt none)
    (fun verified => verified.outcome == .approved) = true := by
  decide +kernel

theorem accepted_receipt_sound_approved : ∃ verified, verifyWitnessReceipt json receipt none = .ok verified ∧
    ∃ request rule witnessPolicy, ApproverQuorum receipt request rule witnessPolicy ∧
      WitnessQuorum receipt request rule witnessPolicy := by
  obtain ⟨verified, hver, happroved⟩ := returns_iff.mp receipt_accepted
  obtain ⟨-, -, request, rule, witnessPolicy, -, -, -, -, -, -, -, -, hquorum, -⟩ :=
    accepted_receipt_sound json receipt none verified hver
  exact ⟨verified, hver, request, rule, witnessPolicy, hquorum (beq_iff_eq.mp happroved)⟩

end Jury.WitnessReceipt.Sample
