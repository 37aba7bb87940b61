import Jury.Protocol.Witness.Encoding
import Jury.Engine.Requests.Theorems

-- What an endpoint checks of its own request before it counts an answer to it, and what it checks of the answer
-- of a witness.
namespace Jury.Engine

open Lib Protocol Vault Witness Policy

def requestMatchesCheckpoint (request : WitnessRequestV1) (checkpoint : VaultPolicyCheckpointV1)
    (checkpointDigest : Digest32) : Bool :=
  request.vaultId == checkpoint.vaultId
    && request.genesisFingerprint == checkpoint.genesisFingerprint
    && request.vaultPolicySequence == checkpoint.vaultPolicySequence
    && request.vaultPolicyHash == checkpoint.vaultPolicyHash
    && request.policyCheckpointDigest == checkpointDigest

-- Field by field, a decision answers a request. A witness may not date it before the request.
def decisionMatchesRequest (decision : WitnessDecisionV1) (request : WitnessRequestV1)
    (requestDigest manifestDigest checkpointDigest : Digest32) : Bool :=
  decision.requestId == request.requestId
    && decision.requestDigest == requestDigest
    && decision.actionManifestDigest == manifestDigest
    && decision.witnessPolicyId == request.witnessPolicyId
    && decision.witnessPolicyRevision == request.witnessPolicyRevision
    && decision.witnessPolicyDigest == request.witnessPolicyDigest
    && decision.policyCheckpointDigest == checkpointDigest
    && decision.policyCheckpointDigest == request.policyCheckpointDigest
    && decide (request.issuedAtMs ≤ decision.issuedAtMs)
    && decision.expiresAtMs == request.expiresAtMs

-- A contribution carries the share that the slot has for the witness.
def contributionMatches (contribution : WitnessContributionEnvelopeV1) (decision : WitnessDecisionV1)
    (descriptor : WitnessPolicyDescriptor) (capsule : WitnessShareCapsuleV1) (slot : WitnessedSlotV1)
    (request : WitnessRequestV1) : Bool :=
  contribution.responseId == decision.responseId
    && decision.shareIndex == some contribution.shareIndex
    && decision.shareCommitment == some contribution.shareCommitment
    && contribution.shareIndex == descriptor.shareIndex
    && contribution.shareIndex == capsule.shareIndex
    && contribution.shareCommitment == capsule.shareCommitment
    && contribution.capsuleContextDigest == capsule.contextDigest
    && contribution.capsuleSetDigest == slot.capsuleSetDigest
    && contribution.requestSessionKeyFingerprint == request.requestSessionKeyFingerprint

def activeWitness (policy : WitnessPolicy) (witnessId : PrincipalId) : Option WitnessPolicyDescriptor :=
  policy.witnessDescriptors.find? fun descriptor => descriptor.status == .active && descriptor.witnessId == witnessId

def validateContribution (validated : ValidatedRequestPolicy) (request : WitnessRequestV1)
    (descriptor : WitnessPolicyDescriptor) (response : WitnessResponseV1) : Except WitnessEngineError Unit := do
  let contribution ← orReject response.contribution (refused .invalidContribution)
  let capsule ← orReject
    (validated.slot.capsules.find? fun capsule => capsule.witnessId == response.decision.witnessId)
    (refused .invalidContribution)
  rejectIf (!contributionMatches contribution response.decision descriptor capsule validated.slot request)
    (refused .invalidContribution)

variable [Crypto]

def validatePublicRequest (policy : PolicyState) (checkpoint : VaultPolicyCheckpointV1) (request : WitnessRequestV1)
    (manifest : ActionManifestV1) : Except WitnessEngineError ValidatedRequestPolicy := do
  validateRequestManifest request manifest
  let _ ← validateCheckpointPublic policy checkpoint
  let checkpointDigest ← orRefuse checkpoint.digest .invalid
  rejectIf (!requestMatchesCheckpoint request checkpoint checkpointDigest) (refused .wrongScope)
  let validated ← (validateManifestPolicy policy request manifest).mapError mapRequestPolicyError
  validateWorkloadLimits manifest validated.rule
  validateAutomaticRule manifest validated.rule
  return validated

def validateWitnessResponse (policy : PolicyState) (checkpoint : VaultPolicyCheckpointV1) (request : WitnessRequestV1)
    (manifest : ActionManifestV1) (response : WitnessResponseV1) : Except WitnessEngineError Unit := do
  let validated ← validatePublicRequest policy checkpoint request manifest
  let requestDigest ← orRefuse request.digest .invalid
  let manifestDigest ← orRefuse manifest.digest .invalid
  let checkpointDigest ← orRefuse checkpoint.digest .invalid
  let _ ← orRefuse response.canonicalBytes .invalidContribution
  let decision := response.decision
  rejectIf (!decisionMatchesRequest decision request requestDigest manifestDigest checkpointDigest)
    (refused .wrongScope)
  let descriptor ← orReject (activeWitness validated.policy decision.witnessId) (refused .policyDenied)
  rejectIf
    (decision.witnessSigningKeyEpoch != descriptor.signingKeyEpoch
      || decision.witnessSigningKeyFingerprint != descriptor.signingKeyFingerprint)
    (refused .invalidSignature)
  let preimage ← orRefuse decision.signaturePreimage .invalid
  rejectIf (!verifyBytes descriptor.signingPublicKey preimage decision.signature) (refused .invalidSignature)
  if decision.decision != .approve then return ()
  validateContribution validated request descriptor response

def validateApprovalDecision (policy : PolicyState) (checkpoint : VaultPolicyCheckpointV1) (request : WitnessRequestV1)
    (manifest : ActionManifestV1) (approval : ApprovalDecisionV1) (nowMs : UInt64) : Except WitnessEngineError Unit := do
  let validated ← validatePublicRequest policy checkpoint request manifest
  validateApprovalAgainstPolicy approval request manifest validated.rule validated.policy
  rejectIf (!approvalIsCurrent approval nowMs) (refused .invalid)

structure PublicRequest (policy : PolicyState) (checkpoint : VaultPolicyCheckpointV1) (request : WitnessRequestV1)
    (manifest : ActionManifestV1) (validated : ValidatedRequestPolicy) : Prop where
  described : validateRequestManifest request manifest = .ok ()
  published : ∃ policies, validateCheckpointPublic policy checkpoint = .ok policies
  stands : ∃ digest, checkpoint.digest = .ok digest ∧ requestMatchesCheckpoint request checkpoint digest = true
  governed : validateManifestPolicy policy request manifest = .ok validated
  workload : validateWorkloadLimits manifest validated.rule = .ok ()
  automatic : validateAutomaticRule manifest validated.rule = .ok ()

theorem validatePublicRequest_eq_ok :
    validatePublicRequest policy checkpoint request manifest = .ok validated ↔
      PublicRequest policy checkpoint request manifest validated := by
  simp only [validatePublicRequest, eq_ok, orRefuse_eq_ok, Bool.not_eq_false']
  constructor
  · rintro ⟨_, hman, policies, hckpt, digest, hdigest, _, hstands, found, hfound, _, hworkload, _,
      hautomatic, rfl⟩
    exact ⟨hman, ⟨policies, hckpt⟩, ⟨digest, hdigest, hstands⟩, hfound, hworkload, hautomatic⟩
  · rintro ⟨hman, ⟨policies, hckpt⟩, ⟨digest, hdigest, hstands⟩, hfound, hworkload, hautomatic⟩
    exact ⟨(), hman, policies, hckpt, digest, hdigest, (), hstands, validated, hfound, (), hworkload, (),
      hautomatic, rfl⟩

section Public

variable (h : PublicRequest policy checkpoint request manifest validated)

include h

theorem publicRequest_unique {other : ValidatedRequestPolicy}
    (hother : PublicRequest policy checkpoint request manifest other) : validated = other :=
  ok_unique (validatePublicRequest_eq_ok.mpr h) (validatePublicRequest_eq_ok.mpr hother)

theorem PublicRequest.forManifest : ForManifest request manifest :=
  validateRequestManifest_eq_ok h.described

theorem PublicRequest.granted : Granted policy request validated.rule validated.policy validated.slot := by
  have hgoverned := h.governed
  simp only [validateManifestPolicy, eq_ok] at hgoverned
  obtain ⟨_, hpolicy, -, -, rfl⟩ := hgoverned
  exact validateRequestPolicy_eq_ok hpolicy

theorem PublicRequest.checkpointDigest : checkpoint.digest = .ok request.policyCheckpointDigest := by
  obtain ⟨digest, hdigest, hstands⟩ := h.stands
  simp only [requestMatchesCheckpoint, holds] at hstands
  rw [hdigest, hstands.2]

end Public

structure Answer (checkpoint : VaultPolicyCheckpointV1) (request : WitnessRequestV1) (manifest : ActionManifestV1)
    (validated : ValidatedRequestPolicy) (response : WitnessResponseV1) (descriptor : WitnessPolicyDescriptor) :
    Prop where
  formed : ∃ bytes, response.canonicalBytes = .ok bytes
  matched : ∃ requestDigest manifestDigest checkpointDigest, request.digest = .ok requestDigest ∧
    manifest.digest = .ok manifestDigest ∧ checkpoint.digest = .ok checkpointDigest ∧
    decisionMatchesRequest response.decision request requestDigest manifestDigest checkpointDigest = true
  active : activeWitness validated.policy response.decision.witnessId = some descriptor
  key : response.decision.witnessSigningKeyEpoch = descriptor.signingKeyEpoch ∧
    response.decision.witnessSigningKeyFingerprint = descriptor.signingKeyFingerprint
  signed : ∃ preimage, response.decision.signaturePreimage = .ok preimage ∧
    verifyBytes descriptor.signingPublicKey preimage response.decision.signature = true
  share : response.decision.decision = .approve → validateContribution validated request descriptor response = .ok ()

theorem validateWitnessResponse_eq_ok :
    validateWitnessResponse policy checkpoint request manifest response = .ok () ↔
      ∃ validated descriptor, PublicRequest policy checkpoint request manifest validated ∧
        Answer checkpoint request manifest validated response descriptor := by
  have hshare : ∀ x : Except WitnessEngineError Unit,
      (if response.decision.decision != .approve then (return () : Except WitnessEngineError Unit) else x) = .ok () ↔
        (response.decision.decision = .approve → x = .ok ()) := by
    intro x
    by_cases happrove : response.decision.decision = .approve <;> simp [happrove, pure, Except.pure]
  simp only [validateWitnessResponse, eq_ok, validatePublicRequest_eq_ok, orRefuse_eq_ok, passed, hshare,
    Unique.exists_iff]
  constructor
  · rintro ⟨validated, hpublic, requestDigest, hrequest, manifestDigest, hman, checkpointDigest, hckpt, bytes,
      hbytes, hmatched, descriptor, hactive, hkey, preimage, hpre, hsigned, hcontrib⟩
    exact ⟨validated, descriptor, hpublic, ⟨bytes, hbytes⟩, ⟨requestDigest, manifestDigest, checkpointDigest, hrequest,
      hman, hckpt, hmatched⟩, hactive, hkey, ⟨preimage, hpre, hsigned⟩, hcontrib⟩
  · rintro ⟨validated, descriptor, hpublic, ⟨bytes, hbytes⟩, ⟨requestDigest, manifestDigest, checkpointDigest, hrequest,
      hman, hckpt, hmatched⟩, hactive, hkey, ⟨preimage, hpre, hsigned⟩, hcontrib⟩
    exact ⟨validated, hpublic, requestDigest, hrequest, manifestDigest, hman, checkpointDigest, hckpt, bytes,
      hbytes, hmatched, descriptor, hactive, hkey, preimage, hpre, hsigned, hcontrib⟩

-- The three optional fields of a decision, as its kind calls for them.
def CarriesShare (decision : WitnessDecisionV1) : Prop :=
  if decision.decision = .approve then
    decision.contributionDigest.isSome ∧ decision.shareIndex.isSome ∧ decision.shareCommitment.isSome
  else decision.contributionDigest = none ∧ decision.shareIndex = none ∧ decision.shareCommitment = none

def Together (decision : WitnessDecisionV1) : Prop :=
  decision.contributionDigest.isSome = decision.shareIndex.isSome ∧
    decision.shareIndex.isSome = decision.shareCommitment.isSome

def TravelsWithApproval (response : WitnessResponseV1) : Prop :=
  (response.contribution.isSome ↔ response.decision.decision = .approve) ∧
  ∀ contribution ∈ response.contribution, ∃ digest, contribution.digest = .ok digest ∧
    response.decision.contributionDigest = some digest ∧
    response.decision.shareIndex = some contribution.shareIndex ∧
    response.decision.shareCommitment = some contribution.shareCommitment ∧
    contribution.responseId = response.decision.responseId

omit [Crypto] in
-- The shape check asks for all three fields of an approval, but lets another decision keep one or two of them.
theorem carriesShare_iff {decision : WitnessDecisionV1} (h : decision.validateShape = .ok ()) :
    CarriesShare decision ↔ Together decision := by
  simp only [WitnessDecisionV1.validateShape, rejectIf_eq_ok, Bool.or_eq_false_iff] at h
  obtain ⟨⟨⟨⟨-, htogether⟩, -⟩, -⟩, -⟩ := h
  unfold CarriesShare Together
  by_cases happrove : decision.decision = .approve <;>
    cases hdigest : decision.contributionDigest <;> cases hindex : decision.shareIndex <;>
    cases hcommit : decision.shareCommitment <;> simp_all

theorem response_canonicalBytes {response : WitnessResponseV1} (h : response.canonicalBytes = .ok bytes) :
    response.decision.validateShape = .ok () ∧
      ((response.decision.contributionDigest = none ∧ response.contribution = none) ∨
        ∃ contribution digest, response.contribution = some contribution ∧ contribution.digest = .ok digest ∧
          response.decision.contributionDigest = some digest) := by
  simp only [WitnessResponseV1.canonicalBytes, WitnessDecisionV1.canonicalBytes, atMost_eq_ok, bind_eq_ok,
    signedBytes_eq_ok] at h
  obtain ⟨⟨_, ⟨hshape, -⟩, h⟩, -⟩ := h
  refine ⟨hshape, ?_⟩
  split at h
  case h_1 expected contribution hexp hcontrib =>
    simp only [eq_ok, bne_eq_false_iff_eq] at h
    obtain ⟨_, hdigest, -, rfl, -⟩ := h
    exact .inr ⟨contribution, _, hcontrib, hdigest, hexp⟩
  case h_2 hdigest hcontrib => exact .inl ⟨hdigest, hcontrib⟩
  case h_3 => cases h

theorem contributions_travel_with_approvals_iff :
    (∀ decision : WitnessDecisionV1, decision.validateShape = .ok () →
      (CarriesShare decision ↔ Together decision)) ∧
    ∀ policy checkpoint request manifest response,
      validateWitnessResponse policy checkpoint request manifest response = .ok () →
      (CarriesShare response.decision ∧ TravelsWithApproval response ↔ Together response.decision) := by
  refine ⟨fun decision => carriesShare_iff, fun policy checkpoint request manifest response h => ?_⟩
  obtain ⟨validated, descriptor, -, hanswer⟩ := validateWitnessResponse_eq_ok.mp h
  obtain ⟨bytes, hbytes⟩ := hanswer.formed
  obtain ⟨hshape, hbound⟩ := response_canonicalBytes hbytes
  rw [carriesShare_iff hshape, and_iff_left_iff_imp]
  intro htogether
  have hcarries := (carriesShare_iff hshape).mpr htogether
  unfold CarriesShare at hcarries
  split at hcarries
  case isTrue happrove =>
    obtain ⟨hnone, -⟩ | ⟨contribution, digest, hcontrib, hdigest, hexp⟩ := hbound
    · rw [hnone] at hcarries
      cases hcarries.1
    have hshare := hanswer.share happrove
    simp only [validateContribution, hcontrib, eq_ok, Bool.not_eq_false', contributionMatches, holds,
      Option.some.injEq, and_assoc] at hshare
    obtain ⟨_, rfl, -, -, hresp, hindex, hcommit, -⟩ := hshare
    refine ⟨by simp [hcontrib, happrove], fun other hother => ?_⟩
    obtain rfl := some_unique hcontrib hother
    exact ⟨digest, hdigest, hexp, hindex, hcommit, hresp⟩
  case isFalse hother =>
    obtain ⟨-, hnone⟩ | ⟨_, _, -, -, hexp⟩ := hbound
    · simp [TravelsWithApproval, hnone, hother]
    · rw [hexp] at hcarries
      cases hcarries.1

end Jury.Engine
