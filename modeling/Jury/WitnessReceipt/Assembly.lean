import Jury.WitnessReceipt.Soundness

-- Putting a receipt together from the decisions that an endpoint has collected. Live checks and the check of a receipt
-- are separate code; here the first are shown to imply the second.
namespace Jury.WitnessReceipt

open Lib Protocol Witness Policy Engine ReceiptPolicyMaterialV1 List

structure WitnessReceiptEvidence where
  receiptId : ReceiptId
  presentationDigest : Digest32
  policyMaterial : PolicyMaterialBytes
  approvalDecisions : List ApprovalDecisionV1
  witnessDecisions : List WitnessDecisionV1
  reason : WitnessReasonV1
  issuedAtMs : UInt64

section Sorting

variable {α κ : Type} [Ord κ] [Std.TransOrd κ]

theorem sortedByKey_sortByKey [Std.LawfulEqOrd κ] {values : List α} {key : α → κ} (h : (values.map key).Nodup) :
    sortedByKey (sortByKey values key) key = true := by
  have hnodup : ((sortByKey values key).map key).Nodup := ((sortByKey_perm values key).map key).nodup_iff.mpr h
  rw [sortedByKey_iff_pairwise]
  refine ((sortByKey_ascending values key).and (pairwise_map.mp hnodup)).imp ?_
  rintro a b ⟨hle, hne⟩
  cases hcompare : compare (key a) (key b) with
  | lt => rfl
  | eq => exact absurd (Std.LawfulEqOrd.eq_of_compare hcompare) hne
  | gt =>
    rw [hcompare] at hle
    cases hle

theorem strictlySortedUnique_counted {key : α → κ} {approves : α → Bool} (h : sortedByKey values key = true) :
    strictlySortedUnique ((values.filter approves).map key) = true := by
  rw [strictlySortedUnique, sortedByKey_iff_pairwise, pairwise_map]
  exact (sortedByKey_iff_pairwise.mp h).sublist filter_sublist

end Sorting

theorem issued_of_le (h : issued ≤ time) : issued ≤ saturatingAdd time ACCEPTED_CLOCK_SKEW_MS := by
  refine UInt64.not_lt.mp fun hlt => ?_
  have hsum := (saturatingAdd_lt_iff).mp hlt
  rw [UInt64.le_iff_toNat_le] at h
  omega

def assembledOutcome (rule : WitnessAccessRule) (approvers witnesses : List PrincipalId) (reason : WitnessReasonV1) :
    Except ReceiptVerificationErrorKind ReceiptOutcomeV1 :=
  if quorumReached rule approvers witnesses then do
    rejectIf (reason != .none) .invalidQuorum
    return .approved
  else do
    rejectIf (reason == .none) .invalidQuorum
    return .denied

def draftReceipt (request : WitnessRequestV1) (checkpoint : VaultPolicyCheckpointV1) (evidence : WitnessReceiptEvidence)
    (rule : WitnessAccessRule) (outcome : ReceiptOutcomeV1) (requestSignaturePreimage : RequestBytes)
    (requestDigest : Digest32) : WitnessReceiptV1 :=
  let approvalDecisions := sortByKey evidence.approvalDecisions (·.approverId)
  let witnessDecisions := sortByKey evidence.witnessDecisions (·.witnessId)
  { schema := 1
    receiptId := evidence.receiptId
    requestSignaturePreimage
    clientSignature := request.clientSignature
    requestDigest
    actionManifestDigest := request.actionManifestDigest
    presentationDigest := evidence.presentationDigest
    publicScope := .fromRequest request
    approvalDecisions
    witnessDecisions
    policyCheckpoint := checkpoint
    witnessPolicyMaterial := evidence.policyMaterial
    approvalThreshold := rule.approvalThreshold
    witnessThreshold := rule.witnessThreshold
    countedApproverIds := countedApprovers approvalDecisions
    countedWitnessIds := countedWitnesses witnessDecisions
    outcome
    reason := evidence.reason
    issuedAtMs := evidence.issuedAtMs
    expiresAtMs := request.expiresAtMs
    endpointAcknowledgement := none
    endpointCompletion := none }

variable [Crypto]

def assembleWitnessReceipt (json : MaterialJson) (policy : PolicyState) (request : WitnessRequestV1)
    (checkpoint : VaultPolicyCheckpointV1) (evidence : WitnessReceiptEvidence) :
    Except ReceiptVerificationErrorKind WitnessReceiptV1 := do
  let embedded ← ReceiptPolicyMaterialV1.decode json evidence.policyMaterial
  let replayed ← embedded.replay
  rejectIf (decide (replayed ≠ policy)) .invalidPolicy
  let rule ← (policy.witnessAccessRule request.itemId request.operation).mapError fun _ => .invalidPolicy
  let countedApproverIds := countedApprovers (sortByKey evidence.approvalDecisions (·.approverId))
  let countedWitnessIds := countedWitnesses (sortByKey evidence.witnessDecisions (·.witnessId))
  let outcome ← assembledOutcome rule countedApproverIds countedWitnessIds evidence.reason
  let preimage ← request.signaturePreimage.mapError fun _ => .invalidFormat
  let requestSignaturePreimage ← (BoundedBytes.new _ preimage).mapError fun _ => .invalidFormat
  let requestDigest ← request.digest.mapError fun _ => .invalidDigest
  let receipt := draftReceipt request checkpoint evidence rule outcome requestSignaturePreimage requestDigest
  let _ ← verifyWitnessReceiptWithPolicy receipt policy (some receipt.policyCheckpoint)
  return receipt

variable {json : MaterialJson} {request : WitnessRequestV1} {checkpoint : VaultPolicyCheckpointV1}
  {evidence : WitnessReceiptEvidence} {receipt : WitnessReceiptV1}

theorem assembleWitnessReceipt_eq_ok {policy : PolicyState}
    (h : assembleWitnessReceipt json policy request checkpoint evidence = .ok receipt) :
    (∃ embedded, decode json receipt.witnessPolicyMaterial = .ok embedded ∧
      embedded.replay = .ok policy) ∧
      ∃ request validated, Supported receipt policy request validated := by
  simp only [assembleWitnessReceipt, eq_ok, decide_eq_false_iff_not, ne_eq, not_not] at h
  obtain ⟨embedded, hembedded, replayed, hreplayed, -, rfl, rule, hrule, outcome, houtcome, preimage, hpre,
    requestBytes, hbytes, digest, hdigest, verified, hver, rfl⟩ := h
  obtain ⟨-, hsupported, -, -, -⟩ := verifyWitnessReceiptWithPolicy_eq_ok hver
  exact ⟨⟨embedded, hembedded, hreplayed⟩, hsupported⟩

theorem assembled_receipt_verifies {policy : PolicyState}
    (h : assembleWitnessReceipt json policy request checkpoint evidence = .ok receipt) :
    ∃ verified, verifyWitnessReceipt json receipt none = .ok verified ∧ verified.outcome = receipt.outcome ∧
      verified.countedApproverIds = receipt.countedApproverIds ∧
      verified.countedWitnessIds = receipt.countedWitnessIds := by
  obtain ⟨⟨embedded, hembedded, hreplay⟩, request, validated, hsupported⟩ := assembleWitnessReceipt_eq_ok h
  obtain ⟨verified, hver⟩ : ∃ verified, verifyWitnessReceiptWithPolicy receipt policy none = .ok verified :=
    hsupported.verifies nofun
  obtain ⟨-, -, houtcome, happrs, hwits⟩ := verifyWitnessReceiptWithPolicy_eq_ok hver
  refine ⟨verified, ?_, houtcome, happrs, hwits⟩
  simp only [verifyWitnessReceipt, bind_eq_ok]
  exact ⟨embedded, hembedded, policy, hreplay, hver⟩

structure RuleLimits (operation : WitnessOperation) (rule : WitnessAccessRule) (witnessPolicy : WitnessPolicy) :
    Prop where
  approvals : rule.approvalThreshold.toNat ≤ MAX_POLICY_ACTORS
  witnesses : 2 ≤ rule.witnessThreshold.toNat ∧ rule.witnessThreshold.toNat ≤ MAX_POLICY_ACTORS
  eligible : rule.eligibleApproverIds.length ≤ MAX_POLICY_ACTORS
  members : rule.witnessIds = witnessPolicy.activeWitnesses.map (·.witnessId)
  active : witnessPolicy.activeWitnesses.length ≤ MAX_POLICY_ACTORS
  asked : ∀ id ∈ rule.eligibleApproverIds, ∀ descriptor, witnessPolicy.activeApprover id = some descriptor →
    operation ∈ descriptor.allowedOperations

theorem ruleLimits {policy : ReplayedPolicy} {itemId : ItemId} {witnessPolicy : WitnessPolicy}
    (hrule : policy.state.witnessAccessRule itemId operation = .ok rule)
    (hpolicy : policy.state.witnessPolicies[rule.policyDigest]? = some witnessPolicy) :
    RuleLimits operation rule witnessPolicy := by
  have hvalid := (policy.catalogued hpolicy).valid
  simp only [PolicyState.witnessAccessRule, PolicyState.witnessedPolicy, eq_ok] at hrule
  obtain ⟨_, ⟨_, -, authority, -, found, hfound, rfl⟩, source, hsource, rfl⟩ := hrule
  obtain rfl := some_unique hfound hpolicy
  have hlisted := mem_of_find?_eq_some hsource
  have hop := find?_some hsource
  rw [beq_iff_eq] at hop
  have hsourceValid := WitnessPolicy.validate_rules hvalid hlisted
  simp only [OperationRule.validate, rejectIf_eq_ok, passed, gt_iff_lt, not_lt, and_assoc] at hsourceValid
  obtain ⟨hcount, -, hthr, -⟩ := hsourceValid
  simp only [WitnessPolicy.validate, WitnessPolicy.validateEligible, eq_ok, forM_eq_ok, passed, holds] at hvalid
  obtain ⟨-, -, -, -, -, -, -, -, -, -, -, ⟨⟨-, hactive⟩, hlow, hhigh⟩, -, -, -, heligible, -⟩ := hvalid
  refine ⟨hthr.trans hcount, ⟨hlow, hhigh.trans hactive⟩, hcount, rfl, hactive, ?_⟩
  intro id hid descriptor hdesc
  obtain ⟨approver, happr, hallowed⟩ := heligible source hlisted id hid
  obtain rfl := some_unique happr hdesc
  rw [hop] at hallowed
  exact contains_iff_mem.mp hallowed

section Live

variable {receipt : WitnessReceiptV1} {policy : PolicyState} {checkpoint : VaultPolicyCheckpointV1}
  {request : WitnessRequestV1} {manifest : ActionManifestV1}

theorem validateCheckpoint_of_public (h : PublicRequest policy checkpoint request manifest validated) :
    validateCheckpoint policy validated.policy request checkpoint = .ok () := by
  obtain ⟨policies, hpols⟩ := h.published
  obtain ⟨digest, hdigest, hstands⟩ := h.stands
  rw [validateCheckpointPublic, mapError_eq_ok] at hpols
  have hlisted : validated.policy ∈ policies := by
    have hgranted := h.granted
    obtain ⟨item, hitem⟩ := hgranted.current
    obtain ⟨witnessed, hwit, hslot⟩ := hitem.current
    have hdescribed := hitem.described
    simp only [slotMatches, holds] at hdescribed
    have hnamed : NamedPolicy policy request.witnessPolicyDigest :=
      ⟨request.itemId, item, hitem.found, validated.slot, by simpa [ItemPolicyState.witnessedSlots, hwit] using hslot,
        hdescribed.2⟩
    simp only [validateCheckpointPolicy, eq_ok] at hpols
    obtain ⟨-, -, -, -, entries, hents, _, -, -, -, _, -, -, -, _, -, -, -, rfl⟩ := hpols
    exact mem_map_of_mem ((activeWitnessPolicyEntries_eq_ok hents).2 _ _
      ⟨hnamed, (validateWitnessSet_eq_ok hgranted.witnesses).1⟩)
  simp only [validateCheckpoint, eq_ok, Bool.not_eq_false', Bool.and_eq_true, contains_iff_mem]
  exact ⟨policies, hpols, digest, hdigest, hstands, hlisted⟩

structure Names (receipt : WitnessReceiptV1) (request : WitnessRequestV1) (manifest : ActionManifestV1) : Prop where
  digest : request.digest = .ok receipt.requestDigest
  decided : receipt.actionManifestDigest = request.actionManifestDigest
  presented : receipt.presentationDigest = manifest.presentationDigest

section Named

variable (hnames : Names receipt request manifest) (hpublic : PublicRequest policy checkpoint request manifest validated)

include hnames hpublic

theorem validateWitnessDecision_of_answer {descriptor : WitnessPolicyDescriptor}
    (h : Answer checkpoint request manifest validated response descriptor) :
    validateWitnessDecision receipt request validated.policy response.decision = .ok () := by
  obtain ⟨requestDigest, manifestDigest, checkpointDigest, hrequest, hman, hckpt, hmatched⟩ := h.matched
  obtain ⟨preimage, hpre, hsigned⟩ := h.signed
  obtain rfl := ok_unique hrequest hnames.digest
  obtain rfl := ok_unique hman hpublic.forManifest.digest
  simp only [decisionMatchesRequest, holds, and_assoc] at hmatched
  obtain ⟨hid, hdigest, hdecided, hpolicy, hrev, hpolicyDigest, -, hnamed, hissued, hexpires⟩ := hmatched
  have hshare : response.decision.decision = .approve → response.decision.shareIndex = some descriptor.shareIndex := by
    intro happrove
    have hcontrib := h.share happrove
    simp only [validateContribution, eq_ok, Bool.not_eq_false', contributionMatches, holds, and_assoc] at hcontrib
    obtain ⟨contribution, -, capsule, -, -, hindex, -, hown, -⟩ := hcontrib
    rw [hindex, hown]
  simp only [validateWitnessDecision, decisionBound, eq_ok, passed, holds, Bool.and_eq_false_imp, and_assoc]
  exact ⟨(), hid, hdigest, hdecided.trans hnames.decided.symm, hpolicy, hrev, hpolicyDigest, hnamed,
    hexpires ▸ UInt64.le_refl _, issued_of_le hissued, descriptor, h.active, (), h.key.1.symm, h.key.2.symm, hshare,
    preimage, hpre, hsigned⟩

theorem validateApproval_of_live {approval : ApprovalDecisionV1}
    (hint : request.intendedWitnessSetDigest = .ok intended)
    (hlimits : RuleLimits request.operation validated.rule validated.policy)
    (h : validateApprovalAgainstPolicy approval request manifest validated.rule validated.policy = .ok ()) :
    validateApproval receipt request validated.policy intended approval = .ok () := by
  simp only [validateApprovalAgainstPolicy, eq_ok, orRefuse_eq_ok, passed, contains_iff_mem, and_assoc] at h
  obtain ⟨_, -, descriptor, hactive, requestDigest, hrequest, manifestDigest, hman, setDigest, hset, _, heligible, hid,
    hdigest, hdecided, hpresented, hpolicy, hrev, hpolicyDigest, hsetDigest, hfp, hepoch, hmode, hissued, hexpires,
    preimage, hpre, hsigned⟩ := h
  obtain rfl := ok_unique hrequest hnames.digest
  obtain rfl := ok_unique hman hpublic.forManifest.digest
  obtain rfl := ok_unique hset hint
  simp only [validateApproval, approvalBound, eq_ok, passed, holds, contains_iff_mem, and_assoc]
  exact ⟨(), hid, hdigest, hdecided.trans hnames.decided.symm, hpresented.trans hnames.presented.symm, hpolicy, hrev,
    hpolicyDigest, UInt64.not_lt.mp hexpires, issued_of_le (UInt64.not_lt.mp hissued), hsetDigest, descriptor, hactive,
    (), hmode.symm, hlimits.asked _ heligible _ hactive, hepoch.symm, hfp.symm, preimage, hpre, hsigned⟩

end Named

end Live

-- What an endpoint has collected for a request: answers that it accepted, one of each witness, approvals that it accepted,
-- one of each approver, enough of both, and the material of the policy as it is framed. The evidence is that, in some
-- order, without a reason against it and dated within the validity of the request.
structure Collected (json : MaterialJson) (policy : PolicyState) (checkpoint : VaultPolicyCheckpointV1)
    (request : WitnessRequestV1) (manifest : ActionManifestV1) (material : ReceiptPolicyMaterialV1)
    (rule : WitnessAccessRule) (responses : List WitnessResponseV1) (approvals : List ApprovalDecisionV1)
    (evidence : WitnessReceiptEvidence) : Prop where
  answered : ∀ response ∈ responses, validateWitnessResponse policy checkpoint request manifest response = .ok ()
  witnesses : (responses.map (·.decision.witnessId)).Nodup
  approved : ∀ approval ∈ approvals, ∃ nowMs,
    validateApprovalDecision policy checkpoint request manifest approval nowMs = .ok ()
  approvers : (approvals.map (·.approverId)).Nodup
  applies : policy.witnessAccessRule request.itemId request.operation = .ok rule
  enoughApprovals : rule.approvalThreshold.toNat ≤ (approvals.filter fun approval => approval.decision == .approve).length
  enoughAnswers : rule.witnessThreshold.toNat ≤
    (responses.filter fun response => response.decision.decision == .approve).length
  approvalDecisions : evidence.approvalDecisions.Perm approvals
  witnessDecisions : evidence.witnessDecisions.Perm (responses.map (·.decision))
  presented : evidence.presentationDigest = manifest.presentationDigest
  reason : evidence.reason = .none
  issued : request.issuedAtMs ≤ evidence.issuedAtMs
  unexpired : evidence.issuedAtMs < request.expiresAtMs
  replayed : material.replay = .ok policy
  written : material.encode json = .ok evidence.policyMaterial
  read : json.fromSlice evidence.policyMaterial.asBytes = some material
  nonempty : evidence.policyMaterial.asBytes.length ≠ 0

namespace Collected

variable {json : MaterialJson} {policy : PolicyState} {checkpoint : VaultPolicyCheckpointV1} {request : WitnessRequestV1}
  {manifest : ActionManifestV1} {material : ReceiptPolicyMaterialV1} {rule : WitnessAccessRule}
  {responses : List WitnessResponseV1} {approvals : List ApprovalDecisionV1} {evidence : WitnessReceiptEvidence}

structure Checked (policy : PolicyState) (checkpoint : VaultPolicyCheckpointV1) (request : WitnessRequestV1)
    (manifest : ActionManifestV1) (rule : WitnessAccessRule) (evidence : WitnessReceiptEvidence)
    (validated : ValidatedRequestPolicy) : Prop where
  passed : PublicRequest policy checkpoint request manifest validated
  same : validated.rule = rule
  limits : RuleLimits request.operation rule validated.policy
  decisions : ∀ decision ∈ evidence.witnessDecisions, ∃ response descriptor, response.decision = decision ∧
    Answer checkpoint request manifest validated response descriptor
  approvals : ∀ approval ∈ evidence.approvalDecisions,
    validateApprovalAgainstPolicy approval request manifest validated.rule validated.policy = .ok ()

theorem replay_eq_ok (h : material.replay = .ok policy) : ∃ replayed : ReplayedPolicy, replayed.state = policy := by
  simp only [replay, eq_ok] at h
  obtain ⟨-, -, hreplay⟩ := h
  exact ⟨⟨material.journal, material.witnessPolicies, policy, hreplay⟩, rfl⟩

theorem scope_of_shape (h : request.validateShape = .ok ()) :
    (PublicReceiptScopeV1.fromRequest request).canonicalBytes = .ok (PublicReceiptScopeV1.fromRequest request).fields ∧
      0 < request.issuedAtMs := by
  simp only [WitnessRequestV1.validateShape, rejectIf_eq_ok, Bool.or_eq_false_iff, and_assoc] at h
  obtain ⟨-, -, -, hepoch, hrev, hseq, hpolicy, -, hmode, hinterval, -⟩ := h
  constructor
  · simp only [PublicReceiptScopeV1.canonicalBytes, PublicReceiptScopeV1.fromRequest, eq_ok, Bool.or_eq_false_iff, and_assoc]
    exact ⟨(), rfl, hepoch, hrev, hseq, hpolicy, hmode, hinterval, trivial⟩
  · simp only [validInterval, Bool.not_eq_false', holds] at hinterval
    exact hinterval.1.1

variable {preimage : RequestBytes} {digest : Digest32}
  (h : Collected json policy checkpoint request manifest material rule responses approvals evidence)
  (hchecked : Checked policy checkpoint request manifest rule evidence validated)

section Public

include hchecked

theorem approver_eligible {approval : ApprovalDecisionV1} (happ : approval ∈ evidence.approvalDecisions) :
    approval.approverId ∈ rule.eligibleApproverIds ∧ approval.validateShape = .ok () := by
  have hlive := hchecked.approvals approval happ
  simp only [validateApprovalAgainstPolicy, eq_ok, orRefuse_eq_ok, passed, contains_iff_mem, and_assoc] at hlive
  obtain ⟨_, hshape, _, -, _, -, _, -, _, -, _, heligible, -⟩ := hlive
  exact ⟨hchecked.same ▸ heligible, hshape⟩

theorem witness_member (hdec : decision ∈ evidence.witnessDecisions) :
    decision.witnessId ∈ rule.witnessIds ∧ decision.validateShape = .ok () := by
  obtain ⟨response, descriptor, rfl, hanswer⟩ := hchecked.decisions decision hdec
  have hfound := hanswer.active
  have hactive := find?_some hfound
  simp only [holds] at hactive
  obtain ⟨preimage, hpre, -⟩ := hanswer.signed
  refine ⟨?_, (signedPreimage_eq_ok.mp hpre).1⟩
  rw [hchecked.limits.members, ← hactive.2]
  exact mem_map_of_mem (mem_filter.mpr ⟨mem_of_find?_eq_some hfound, beq_iff_eq.mpr hactive.1⟩)

theorem draft_encodable (hpre : request.signaturePreimage = .ok preimage.asBytes) :
    (draftReceipt request checkpoint evidence rule .approved preimage digest).Encodable where
  approvals approval happ :=
    (approver_eligible hchecked ((sortByKey_perm _ _).mem_iff.mp happ)).2
  decisions decision hdec := (witness_member hchecked ((sortByKey_perm _ _).mem_iff.mp hdec)).2
  checkpoint := by
    obtain ⟨policies, hpols⟩ := hchecked.passed.published
    simp only [validateCheckpointPublic, validateCheckpointPolicy, eq_ok] at hpols
    obtain ⟨_, hshape, -⟩ := hpols
    exact hshape
  scope := (scope_of_shape (signedPreimage_eq_ok.mp hpre).1).1

end Public

include h

theorem answers_exist : ∃ response, response ∈ responses := by
  obtain ⟨replayed, rfl⟩ := replay_eq_ok h.replayed
  obtain ⟨witnessPolicy, source, hrule⟩ := witnessAccessRule_eq_ok h.applies
  have hlimits := ruleLimits h.applies hrule.policy
  have hlen := length_filter_le (fun response : WitnessResponseV1 => response.decision.decision == .approve)
    responses
  have hpos : 0 < responses.length := by
    have henough := h.enoughAnswers
    have hlow := hlimits.witnesses.1
    omega
  exact ⟨responses[0], getElem_mem hpos⟩

theorem checked : ∃ validated, Checked policy checkpoint request manifest rule evidence validated := by
  obtain ⟨response, hresp⟩ := h.answers_exist
  obtain ⟨validated, descriptor, hpassed, -⟩ := validateWitnessResponse_eq_ok.mp (h.answered response hresp)
  have hgranted := hpassed.granted
  have hsame : validated.rule = rule := ok_unique hgranted.applies h.applies
  refine ⟨validated, hpassed, hsame, ?_, ?_, ?_⟩
  · obtain ⟨replayed, rfl⟩ := replay_eq_ok h.replayed
    refine ruleLimits h.applies ?_
    rw [← hsame, ← hgranted.named.2.2]
    exact (validateWitnessSet_eq_ok hgranted.witnesses).1
  · intro decision hdec
    obtain ⟨response, hresp, rfl⟩ := mem_map.mp (h.witnessDecisions.mem_iff.mp hdec)
    obtain ⟨found, descriptor, hfound, hanswer⟩ := validateWitnessResponse_eq_ok.mp (h.answered response hresp)
    obtain rfl := publicRequest_unique hpassed hfound
    exact ⟨response, descriptor, rfl, hanswer⟩
  · intro approval happ
    obtain ⟨nowMs, hlive⟩ := h.approved approval (h.approvalDecisions.mem_iff.mp happ)
    simp only [validateApprovalDecision, bind_eq_ok, validatePublicRequest_eq_ok] at hlive
    obtain ⟨found, hfound, _, hagainst, -⟩ := hlive
    obtain rfl := publicRequest_unique hpassed hfound
    exact hagainst

theorem quorum :
    quorumReached rule (countedApprovers (sortByKey evidence.approvalDecisions (·.approverId)))
      (countedWitnesses (sortByKey evidence.witnessDecisions (·.witnessId))) = true := by
  have happrs : (countedApprovers (sortByKey evidence.approvalDecisions (·.approverId))).length =
      (approvals.filter fun approval => approval.decision == .approve).length := by
    rw [countedApprovers, length_map]
    exact (((sortByKey_perm _ _).trans h.approvalDecisions).filter _).length_eq
  have hwits : (countedWitnesses (sortByKey evidence.witnessDecisions (·.witnessId))).length =
      (responses.filter fun response => response.decision.decision == .approve).length := by
    rw [countedWitnesses, length_map, (((sortByKey_perm _ _).trans h.witnessDecisions).filter _).length_eq,
      filter_map, length_map]
    rfl
  simp only [quorumReached, holds, happrs, hwits]
  exact ⟨h.enoughApprovals, h.enoughAnswers⟩

theorem witnessIds_nodup : (evidence.witnessDecisions.map (·.witnessId)).Nodup := by
  refine (h.witnessDecisions.map _).nodup_iff.mpr ?_
  rw [map_map]
  exact h.witnesses

section Draft

include hchecked

theorem length_approvalDecisions : evidence.approvalDecisions.length ≤ MAX_POLICY_ACTORS := by
  have hnodup : (evidence.approvalDecisions.map (·.approverId)).Nodup :=
    (h.approvalDecisions.map _).nodup_iff.mpr h.approvers
  have hsubset : evidence.approvalDecisions.map (·.approverId) ⊆ rule.eligibleApproverIds := by
    intro id hid
    obtain ⟨approval, happ, rfl⟩ := mem_map.mp hid
    exact (approver_eligible hchecked happ).1
  have hlen := (hnodup.subperm hsubset).length_le
  rw [length_map] at hlen
  exact hlen.trans hchecked.limits.eligible

theorem length_witnessDecisions : evidence.witnessDecisions.length ≤ MAX_POLICY_ACTORS := by
  have hsubset : evidence.witnessDecisions.map (·.witnessId) ⊆ rule.witnessIds := by
    intro id hid
    obtain ⟨decision, hdec, rfl⟩ := mem_map.mp hid
    exact (witness_member hchecked hdec).1
  have hlen := (h.witnessIds_nodup.subperm hsubset).length_le
  rw [hchecked.limits.members, length_map, length_map] at hlen
  exact hlen.trans hchecked.limits.active

theorem draft_wellFormed (hpre : request.signaturePreimage = .ok preimage.asBytes) :
    (draftReceipt request checkpoint evidence rule .approved preimage digest).wellFormed = true := by
  have happrovalsLength : (sortByKey evidence.approvalDecisions (·.approverId)).length ≤ MAX_POLICY_ACTORS := by
    rw [(sortByKey_perm _ _).length_eq]
    exact length_approvalDecisions h hchecked
  have hdecisionsLength : (sortByKey evidence.witnessDecisions (·.witnessId)).length ≤ MAX_POLICY_ACTORS := by
    rw [(sortByKey_perm _ _).length_eq]
    exact length_witnessDecisions h hchecked
  have happs := sortedByKey_sortByKey ((h.approvalDecisions.map _).nodup_iff.mpr h.approvers)
  have hdecisions := sortedByKey_sortByKey h.witnessIds_nodup
  have happrs : (countedApprovers (sortByKey evidence.approvalDecisions (·.approverId))).length ≤
      MAX_POLICY_ACTORS := by
    rw [countedApprovers, length_map]
    exact (length_filter_le _ _).trans happrovalsLength
  have hwits : (countedWitnesses (sortByKey evidence.witnessDecisions (·.witnessId))).length ≤
      MAX_POLICY_ACTORS := by
    rw [countedWitnesses, length_map]
    exact (length_filter_le _ _).trans hdecisionsLength
  have hlen : preimage.asBytes.length ≠ 0 := by
    obtain ⟨-, content, -, heq⟩ := signedPreimage_eq_ok.mp hpre
    have hdomain : (jce "jury-witness-v1/request/signature").length = 36 := by decide
    rw [← heq, Bytes.length_append, hdomain]
    omega
  have hstart := (scope_of_shape (signedPreimage_eq_ok.mp hpre).1).2
  have hissued : evidence.issuedAtMs ≠ 0 := fun hzero => UInt64.not_lt.mpr (hzero ▸ h.issued) hstart
  have hexpires : request.expiresAtMs ≠ 0 := fun hzero => UInt64.not_lt.mpr (UInt64.zero_le) (hzero ▸ h.unexpired)
  have hreason : ReceiptOutcomeV1.approved.matchesReason evidence.reason = true := by
    rw [h.reason]
    rfl
  simp only [WitnessReceiptV1.wellFormed, holds, bne_iff_ne, Bool.not_eq_true', Bool.and_eq_false_imp,
    decide_eq_false_iff_not, UInt64.not_le, and_assoc]
  exact ⟨rfl, hlen, h.nonempty, hchecked.limits.approvals, hchecked.limits.witnesses.1, hchecked.limits.witnesses.2,
    happrovalsLength.trans (by decide), hdecisionsLength, happrs, hwits, happs, hdecisions,
    strictlySortedUnique_counted happs, strictlySortedUnique_counted hdecisions, hissued, hexpires,
    fun _ => h.unexpired, hreason⟩

theorem draft_supported (hpre : request.signaturePreimage = .ok preimage.asBytes)
    (hdigest : request.digest = .ok digest) :
    Supported (draftReceipt request checkpoint evidence rule .approved preimage digest) policy request validated := by
  have hgranted := hchecked.passed.granted
  have hgoverned := hchecked.passed.governed
  simp only [validateManifestPolicy, eq_ok] at hgoverned
  obtain ⟨_, hgoverned, -, -, rfl⟩ := hgoverned
  obtain ⟨-, intended, hint, hexp⟩ := validateWitnessSet_eq_ok hgranted.witnesses
  have hnames : Names (draftReceipt request checkpoint evidence rule .approved preimage digest) request manifest :=
    ⟨hdigest, rfl, h.presented⟩
  have happs : ∀ approval ∈ sortByKey evidence.approvalDecisions (·.approverId),
      approval ∈ evidence.approvalDecisions := fun approval => (sortByKey_perm _ _).mem_iff.mp
  have hdecisions : ∀ decision ∈ sortByKey evidence.witnessDecisions (·.witnessId),
      decision ∈ evidence.witnessDecisions := fun decision => (sortByKey_perm _ _).mem_iff.mp
  exact {
    formed := WitnessReceiptV1.validatedDigests_returns (draft_wellFormed h hchecked hpre)
      (draft_encodable hchecked hpre) rfl rfl
    embedded := WitnessRequestV1.fromSignaturePreimage_signaturePreimage hpre
    bound := by
      refine ⟨digest, hdigest, ?_⟩
      simp only [receiptBound, holds, Bool.not_eq_true', Bool.and_eq_false_imp, decide_eq_false_iff_not, UInt64.not_le,
        and_assoc]
      exact ⟨rfl, rfl, rfl, rfl, rfl, issued_of_le h.issued, fun _ => h.unexpired⟩
    governed := hgoverned
    checkpoint := validateCheckpoint_of_public hchecked.passed
    thresholds := ⟨by rw [hchecked.same]; rfl, by rw [hchecked.same]; rfl⟩
    approvals := by
      refine ⟨intended, hint, hexp, fun approval happ => ?_⟩
      exact validateApproval_of_live hnames hchecked.passed hint (hchecked.same ▸ hchecked.limits)
        (hchecked.approvals approval (happs approval happ))
    decisions := by
      intro decision hdec
      obtain ⟨response, descriptor, rfl, hanswer⟩ := hchecked.decisions decision (hdecisions decision hdec)
      exact validateWitnessDecision_of_answer hnames hchecked.passed hanswer
    approvers := rfl
    witnesses := rfl
    eligible := by
      intro id hid
      obtain ⟨approval, happ, rfl⟩ := mem_map.mp hid
      rw [hchecked.same]
      exact (approver_eligible hchecked (happs approval (mem_filter.mp happ).1)).1
    members := by
      intro id hid
      obtain ⟨decision, hdec, rfl⟩ := mem_map.mp hid
      rw [hchecked.same]
      exact (witness_member hchecked (hdecisions decision (mem_filter.mp hdec).1)).1
    outcome := by
      rw [hchecked.same]
      exact h.quorum.symm
    endpoint := by
      obtain ⟨requester, hrequester⟩ := hgranted.authentic
      simp only [validateEndpointRecords, eq_ok]
      exact ⟨requester, hrequester.current, (), rfl, rfl⟩ }

end Draft

theorem assembles :
    ∃ receipt, assembleWitnessReceipt json policy request checkpoint evidence = .ok receipt ∧
      receipt.outcome = .approved := by
  obtain ⟨validated, hchecked⟩ := h.checked
  obtain ⟨_, hauthentic⟩ := hchecked.passed.granted.authentic
  obtain ⟨preimage, hpre, -⟩ := hauthentic.signed
  have hlen := WitnessRequestV1.length_signaturePreimage hpre
  obtain ⟨response, hresp⟩ := h.answers_exist
  obtain ⟨_, _, -, hanswer⟩ := validateWitnessResponse_eq_ok.mp (h.answered response hresp)
  obtain ⟨digest, _, _, hdigest, -⟩ := hanswer.matched
  have hsupported : Supported (draftReceipt request checkpoint evidence rule .approved ⟨preimage, hlen⟩ digest) policy
      request validated := draft_supported h hchecked hpre hdigest
  obtain ⟨verified, hver⟩ : ∃ verified, verifyWitnessReceiptWithPolicy
      (draftReceipt request checkpoint evidence rule .approved ⟨preimage, hlen⟩ digest) policy (some checkpoint) =
        .ok verified :=
    hsupported.verifies fun _ hexp => (Option.some.inj hexp).symm
  have hdecoded : decode json evidence.policyMaterial = .ok material := by
    simp only [decode, eq_ok, bne_eq_false_iff_eq]
    exact ⟨material, h.read, evidence.policyMaterial, h.written, (), rfl, rfl⟩
  have houtcome : assembledOutcome rule (countedApprovers (sortByKey evidence.approvalDecisions (·.approverId)))
      (countedWitnesses (sortByKey evidence.witnessDecisions (·.witnessId))) evidence.reason = .ok .approved := by
    rw [assembledOutcome, if_pos h.quorum, h.reason]
    rfl
  refine ⟨draftReceipt request checkpoint evidence rule .approved ⟨preimage, hlen⟩ digest, ?_, rfl⟩
  simp only [assembleWitnessReceipt, eq_ok, decide_eq_false_iff_not, ne_eq, not_not]
  exact ⟨material, hdecoded, policy, h.replayed, (), rfl, rule, h.applies, .approved, houtcome, preimage, hpre,
    ⟨preimage, hlen⟩, dif_pos hlen, digest, hdigest, verified, hver, rfl⟩

end Collected

-- A receipt that was assembled is accepted by anyone, from its own content alone, with the outcome and the signers that
-- assembly found; and what an endpoint has collected from the live checks, in whatever order, assembles to an approval.
theorem assembled_receipts_verify_anywhere (json : MaterialJson) :
    (∀ policy request checkpoint evidence receipt,
      assembleWitnessReceipt json policy request checkpoint evidence = .ok receipt →
      ∃ verified, verifyWitnessReceipt json receipt none = .ok verified ∧ verified.outcome = receipt.outcome ∧
        verified.countedApproverIds = receipt.countedApproverIds ∧
        verified.countedWitnessIds = receipt.countedWitnessIds) ∧
    (∀ policy checkpoint request manifest material rule responses approvals evidence,
      Collected json policy checkpoint request manifest material rule responses approvals evidence →
      ∃ receipt, assembleWitnessReceipt json policy request checkpoint evidence = .ok receipt ∧
        receipt.outcome = .approved) :=
  ⟨fun _ _ _ _ _ h => assembled_receipt_verifies h, fun _ _ _ _ _ _ _ _ _ h => h.assembles⟩

end Jury.WitnessReceipt

namespace Jury.WitnessReceipt.Sample

open Lib Protocol.Vault Protocol.Sample Policy Policy.Sample Engine Engine.Sample Access.Sample

def evidence : WitnessReceiptEvidence where
  receiptId := identifier .receipt 1
  presentationDigest := (descriptorManifest 1).presentationDigest
  policyMaterial := receipt.witnessPolicyMaterial
  approvalDecisions := [approved]
  witnessDecisions := [(approvalOf 6 2 1).decision, (approvalOf 5 1 1).decision]
  reason := .none
  issuedAtMs := 3200

theorem replay_ofReplay {journal : PolicyJournalV1}
    (h : (replayPolicyWithWitnessPolicies journal policies).isOk = true) :
    replayPolicyWithWitnessPolicies journal policies = .ok (ReplayedPolicy.ofReplay journal policies h).state := by
  unfold ReplayedPolicy.ofReplay
  split
  next state hreplay => exact hreplay
  next error herror => simp [herror, Except.isOk, Except.toBool] at h

theorem material_replays : material.replay = .ok dealt.state := by
  have hreplayed := replay_ofReplay dealt_journal_replays
  rw [← dealt] at hreplayed
  simp only [ReceiptPolicyMaterialV1.replay, material, eq_ok]
  exact ⟨(), rfl, hreplayed⟩

theorem material_written : material.encode json = .ok evidence.policyMaterial := by
  simp only [ReceiptPolicyMaterialV1.encode, eq_ok]
  exact ⟨_, material_replays, u8 1, rfl, rfl⟩

theorem rule_applies : Returns (dealt.state.witnessAccessRule (descriptorRequest 1).itemId (descriptorRequest 1).operation)
    (fun rule => rule.approvalThreshold == 1 && rule.witnessThreshold == 2) = true := by
  decide +kernel

theorem collected : ∃ rule, Collected json dealt.state dealtCheckpoint (descriptorRequest 1) (descriptorManifest 1) material
    rule [approvalOf 5 1 1, approvalOf 6 2 1] [approved] evidence := by
  obtain ⟨rule, hrule, hthresholds⟩ := returns_iff.mp rule_applies
  simp only [holds] at hthresholds
  have hfirst : validateWitnessResponse dealt.state dealtCheckpoint (descriptorRequest 1) (descriptorManifest 1)
      (approvalOf 5 1 1) = .ok () := by decide +kernel
  have hsecond : validateWitnessResponse dealt.state dealtCheckpoint (descriptorRequest 1) (descriptorManifest 1)
      (approvalOf 6 2 1) = .ok () := by decide +kernel
  have happroved : validateApprovalDecision dealt.state dealtCheckpoint (descriptorRequest 1) (descriptorManifest 1) approved
      3100 = .ok () := by decide +kernel
  refine ⟨rule, ?_⟩
  exact {
    answered := by simpa using ⟨hfirst, hsecond⟩
    witnesses := by decide +kernel
    approved := by simpa using ⟨3100, happroved⟩
    approvers := by decide +kernel
    applies := hrule
    enoughApprovals := by rw [hthresholds.1]; decide +kernel
    enoughAnswers := by rw [hthresholds.2]; decide +kernel
    approvalDecisions := .refl _
    witnessDecisions := List.Perm.swap _ _ _
    presented := rfl
    reason := rfl
    issued := by decide +kernel
    unexpired := by decide +kernel
    replayed := material_replays
    written := material_written
    read := rfl
    nonempty := by decide }

theorem assembled_receipts_verify_anywhere_reversed : ∃ receipt verified,
    assembleWitnessReceipt json dealt.state (descriptorRequest 1) dealtCheckpoint evidence = .ok receipt ∧
      verifyWitnessReceipt json receipt none = .ok verified ∧ verified.outcome = .approved := by
  obtain ⟨hverify, hassemble⟩ := assembled_receipts_verify_anywhere json
  obtain ⟨rule, hcollected⟩ := collected
  obtain ⟨receipt, hreceipt, happroved⟩ := hassemble _ _ _ _ _ _ _ _ _ hcollected
  obtain ⟨verified, hver, houtcome, -⟩ := hverify _ _ _ _ _ hreceipt
  exact ⟨receipt, verified, hreceipt, hver, houtcome.trans happroved⟩

end Jury.WitnessReceipt.Sample
