import Jury.Engine.Requests

-- What the checks of a request establish, each check once.
namespace Jury.Engine

open Lib Protocol Vault Witness Policy

-- A clock reading inside the validity interval, with the skew that is allowed at its start.
structure InValidity (request : WitnessRequestV1) (nowMs : UInt64) : Prop where
  issued : request.issuedAtMs.toNat ≤ nowMs.toNat + ACCEPTED_CLOCK_SKEW_MS.toNat
  begun : ∀ notBefore, request.notBeforeMs = some notBefore →
    notBefore.toNat ≤ nowMs.toNat + ACCEPTED_CLOCK_SKEW_MS.toNat
  unexpired : nowMs.toNat < request.expiresAtMs.toNat

variable {rule : WitnessAccessRule}

theorem validateRequestTime_eq_ok : validateRequestTime request nowMs = .ok u ↔ InValidity request nowMs := by
  simp only [validateRequestTime, eq_ok, decide_eq_false_iff_not, Option.any_eq_false, gt_iff_lt, ge_iff_le,
    UInt64.not_le, saturatingAdd_lt_iff, not_lt, Unique.exists_iff]
  rw [UInt64.lt_iff_toNat_lt]
  constructor <;> rintro ⟨hissued, hbegun, hunexp⟩ <;> exact ⟨hissued, hbegun, hunexp⟩

structure WithinLimits (manifest : ActionManifestV1) (rule : WitnessAccessRule) : Prop where
  timeout : manifest.timeoutMs ≤ rule.maxTimeoutMs
  output : manifest.outputLimitBytes ≤ rule.maxOutputBytes
  targets : manifest.approvalTarget.entries.length ≤ rule.maxTargetCount.toNat
  platform : rule.requiredPlatformAssurance.tag ≤ manifest.platformAssurance.tag

theorem validateWorkloadLimits_eq_ok (h : validateWorkloadLimits manifest rule = .ok u) :
    WithinLimits manifest rule := by
  simp only [validateWorkloadLimits, rejectIf_eq_ok, passed, gt_iff_lt, not_lt] at h
  obtain ⟨⟨⟨htimeout, houtput⟩, htargets⟩, hplatform⟩ := h
  exact ⟨UInt64.not_lt.mp htimeout, UInt32.not_lt.mp houtput, htargets, UInt8.not_lt.mp hplatform⟩

-- Without approvers an operation may only print targets that the rule lists.
structure Automatic (manifest : ActionManifestV1) (rule : WitnessAccessRule) : Prop where
  reads : manifest.operation = .readStdout
  listed : automaticTargetsListed manifest rule = true

theorem validateAutomaticRule_eq_ok (h : validateAutomaticRule manifest rule = .ok u)
    (hzero : rule.approvalThreshold = 0) : Automatic manifest rule := by
  simp only [validateAutomaticRule, hzero, bne_self_eq_false, Bool.false_eq_true, if_false, rejectIf_eq_ok, passed] at h
  exact ⟨h.2, h.1⟩

-- The slot is the one of the item's current witnessed state that the request describes.
structure CurrentSlot (policy : PolicyState) (request : WitnessRequestV1) (witnessPolicy : WitnessPolicy)
    (slot : WitnessedSlotV1) (item : ItemPolicyState) : Prop where
  found : policy.items[request.itemId]? = some item
  epoch : item.keyEpoch = request.keyEpoch
  mode : item.accessMode = some request.itemAccessMode
  current : ∃ witnessed, item.witnessedState = some witnessed ∧ slot ∈ witnessed.slots
  described : slotMatches request witnessPolicy slot = true

theorem validateSlot_eq_ok (h : validateSlot policy request rule witnessPolicy = .ok slot) :
    ∃ item, CurrentSlot policy request witnessPolicy slot item := by
  simp only [validateSlot, eq_ok, passed, Option.bind_eq_some_iff, Unique.exists_iff] at h
  obtain ⟨item, hitem, ⟨hepoch, hmode⟩, _, ⟨witnessed, hwit, hfound⟩, -, rfl⟩ := h
  exact ⟨item, hitem, hepoch, hmode, ⟨witnessed, hwit, List.mem_of_find?_eq_some hfound⟩, List.find?_some hfound⟩

def ExpiredOnly (request : WitnessRequestV1) (nowMs : UInt64) (error : WitnessEngineError) : Prop :=
  error.reason = .expired → request.expiresAtMs ≤ nowMs

theorem expiredOnly_refused (h : reason ≠ .expired := by decide) : ExpiredOnly request nowMs (refused reason) :=
  fun heq => absurd heq h

theorem validateRequestTime_expired : FailsWith (ExpiredOnly request nowMs) (validateRequestTime request nowMs) := by
  unfold validateRequestTime
  refine .bind (.rejectIf expiredOnly_refused) fun _ => ?_
  refine .bind (.rejectIf expiredOnly_refused) fun _ => ?_
  rintro error herror -
  by_cases hexpired : nowMs ≥ request.expiresAtMs
  · exact hexpired
  · simp [rejectIf, hexpired] at herror

theorem validateOwnCapsule_expired : FailsWith (ExpiredOnly request nowMs) (validateOwnCapsule identity validated) := by
  unfold validateOwnCapsule
  refine .bind (.orReject expiredOnly_refused) fun _ => ?_
  refine .bind (.orReject expiredOnly_refused) fun _ => ?_
  refine .bind (.orReject expiredOnly_refused) fun _ => ?_
  exact .bind (.rejectIf expiredOnly_refused) fun _ => .pure _

variable [Crypto]

-- The request names the current checkpoint of its vault, and the policy is the one of that checkpoint.
structure AtCheckpoint (identity : WitnessEngineIdentity) (policy : PolicyState) (request : WitnessRequestV1)
    (checkpoint : VaultPolicyCheckpointV1) : Prop where
  sequence : checkpoint.vaultPolicySequence = policy.sequence
  valid : validateCheckpoint policy checkpoint identity = .ok ()
  named : checkpoint.digest = .ok request.policyCheckpointDigest

theorem validateStoredCheckpoint_eq_ok (h : validateStoredCheckpoint identity policy logical request = .ok u) :
    ∃ registered, logical.vaults[request.vaultId]? = some registered ∧
      AtCheckpoint identity policy request registered.currentCheckpoint := by
  simp only [validateStoredCheckpoint, validateRegisteredCheckpoint, eq_ok, orRefuse_eq_ok, passed, gt_iff_lt,
    UInt64.not_lt, Unique.exists_iff] at h
  obtain ⟨registered, hreg, ⟨hbehind, hahead, hvalid⟩, digest, hdigest, rfl⟩ := h
  exact ⟨registered, hreg, UInt64.le_antisymm hahead hbehind, hvalid, hdigest⟩

structure ForManifest (request : WitnessRequestV1) (manifest : ActionManifestV1) : Prop where
  targets : ∀ entry ∈ manifest.approvalTarget.entries,
    entry.itemId = request.itemId ∧ (request.contentRole = .descriptor → entry.fieldId = none)
  digest : manifest.digest = .ok request.actionManifestDigest
  workload : manifest.workloadDigest = .ok request.workloadDigest
  same : requestMatchesManifest request manifest request.actionManifestDigest request.workloadDigest = true

theorem validateRequestManifest_eq_ok (h : validateRequestManifest request manifest = .ok u) :
    ForManifest request manifest := by
  simp only [validateRequestManifest, eq_ok, orRefuse_eq_ok, Bool.not_eq_false', List.any_eq_false,
    Unique.exists_iff] at h
  obtain ⟨-, -, -, htargets, manifestDigest, hdigest, workloadDigest, hworkload, hsame⟩ := h
  obtain ⟨rfl, rfl⟩ : request.actionManifestDigest = manifestDigest ∧ request.workloadDigest = workloadDigest := by
    simp only [requestMatchesManifest, holds] at hsame
    exact ⟨hsame.1.1.1.1.2, hsame.1.1.1.2⟩
  refine ⟨fun entry hentry => ?_, hdigest, hworkload, hsame⟩
  simpa using htargets entry hentry

structure Authentic (policy : PolicyState) (request : WitnessRequestV1) (requester : PrincipalPolicyState) :
    Prop where
  current : policy.principals[request.requesterPrincipalId]? = some requester
  client : requester.descriptor.principalKind ≠ .approver ∧ requester.descriptor.principalKind ≠ .witness
  signed : ∃ preimage, request.signaturePreimage = .ok preimage ∧
    verifyBytes requester.descriptor.verificationPublicKey preimage request.clientSignature = true

-- The requester has the access that the operation needs, in the role that the request states.
structure Allowed (policy : PolicyState) (request : WitnessRequestV1) : Prop where
  allowed : (policy.access request.itemId request.requesterPrincipalId
    (operationCapability request.operation)).allowed = true
  role : (policy.access request.itemId request.requesterPrincipalId
    (operationCapability request.operation)).effectiveRole = some request.requestedAccessRole

theorem validateRequester_eq_ok (h : validateRequester policy request = .ok u) :
    Allowed policy request ∧ ∃ requester, Authentic policy request requester := by
  simp only [validateRequester, eq_ok, passed, beq_eq_false_iff_ne, Unique.exists_iff] at h
  obtain ⟨⟨hallowed, hrole⟩, requester, hcur, ⟨⟨⟨happr, hwitness⟩, -⟩, -⟩, preimage, hpre, hsigned⟩ := h
  exact ⟨⟨hallowed, hrole⟩, requester, hcur, ⟨happr, hwitness⟩, preimage, hpre, hsigned⟩

-- What the policy says of the request: its place in the history, its rule, its requester and its slot.
structure Granted (policy : PolicyState) (request : WitnessRequestV1) (rule : WitnessAccessRule)
    (witnessPolicy : WitnessPolicy) (slot : WitnessedSlotV1) : Prop where
  vault : request.vaultId = policy.vaultId ∧ request.genesisFingerprint = policy.genesisFingerprint
  history : request.vaultPolicySequence = policy.sequence ∧ request.vaultPolicyHash = policy.terminalRevisionHash
  applies : policy.witnessAccessRule request.itemId request.operation = .ok rule
  named : request.witnessPolicyId = rule.policyId ∧ request.witnessPolicyRevision = rule.policyRevision ∧
    request.witnessPolicyDigest = rule.policyDigest
  lifetime : request.expiresAtMs - request.issuedAtMs ≤ rule.allowedRequestLifetimeMs
  allowed : Allowed policy request
  authentic : ∃ requester, Authentic policy request requester
  witnesses : validateWitnessSet policy request = .ok witnessPolicy
  current : ∃ item, CurrentSlot policy request witnessPolicy slot item

theorem validateRequestPolicy_eq_ok (h : validateRequestPolicy policy request = .ok validated) :
    Granted policy request validated.rule validated.policy validated.slot := by
  simp only [validateRequestPolicy, eq_ok, passed, gt_iff_lt, UInt64.not_lt, Unique.exists_iff] at h
  obtain ⟨-, ⟨⟨⟨hvault, hgen⟩, hseq⟩, hhash⟩, -, rule, hrule, ⟨⟨hid, hrev⟩, hdigest⟩, hlifetime,
    hrequester, witnessPolicy, hwits, slot, hslot, rfl⟩ := h
  obtain ⟨hallowed, hauthentic⟩ := validateRequester_eq_ok hrequester
  exact ⟨⟨hvault, hgen⟩, ⟨hseq, hhash⟩, hrule, ⟨hid, hrev, hdigest⟩, hlifetime, hallowed, hauthentic,
    hwits, validateSlot_eq_ok hslot⟩

-- Everything that holds of a request that the engine has accepted at a clock reading.
structure ValidRequest (identity : WitnessEngineIdentity) (policy : PolicyState) (logical : WitnessLogicalState)
    (request : WitnessRequestV1) (manifest : ActionManifestV1) (nowMs : UInt64) (validated : ValidatedRequest) :
    Prop where
  forManifest : ForManifest request manifest
  registered : ∃ registered, logical.vaults[request.vaultId]? = some registered ∧
    AtCheckpoint identity policy request registered.currentCheckpoint
  time : InValidity request nowMs
  granted : ∃ slot, Granted policy request validated.rule validated.policy slot
  limits : WithinLimits manifest validated.rule
  automatic : validated.rule.approvalThreshold = 0 → Automatic manifest validated.rule

theorem validateRequest_eq_ok {validated : ValidatedRequest}
    (h : validateRequest identity policy logical request manifest nowMs = .ok validated) :
    ValidRequest identity policy logical request manifest nowMs validated := by
  simp only [validateRequest, validateManifestPolicy, eq_ok, Unique.exists_iff] at h
  obtain ⟨hman, hckpt, htime, validatedPolicy, ⟨_, hpolicy, -, rfl⟩, hlimits, hautomatic, capsule, -,
    suite, -, rfl⟩ := h
  exact ⟨validateRequestManifest_eq_ok hman, validateStoredCheckpoint_eq_ok hckpt,
    validateRequestTime_eq_ok.mp htime, ⟨_, validateRequestPolicy_eq_ok hpolicy⟩,
    validateWorkloadLimits_eq_ok hlimits, validateAutomaticRule_eq_ok hautomatic⟩

theorem validateRequestManifest_expired :
    FailsWith (ExpiredOnly request nowMs) (validateRequestManifest request manifest) := by
  unfold validateRequestManifest
  refine .bind (.rejectIf expiredOnly_refused) fun _ => ?_
  refine .bind (.mapError fun _ => expiredOnly_refused) fun _ => ?_
  refine .bind (.mapError fun _ => expiredOnly_refused) fun _ => ?_
  refine .bind (.rejectIf expiredOnly_refused) fun _ => ?_
  refine .bind (.mapError fun _ => expiredOnly_refused) fun _ => ?_
  refine .bind (.mapError fun _ => expiredOnly_refused) fun _ => ?_
  exact .rejectIf expiredOnly_refused

theorem validateStoredCheckpoint_expired :
    FailsWith (ExpiredOnly request nowMs) (validateStoredCheckpoint identity policy logical request) := by
  unfold validateStoredCheckpoint validateRegisteredCheckpoint validateCheckpoint
  refine .bind (.orReject expiredOnly_refused) fun _ => .bind ?_ fun _ => ?_
  · refine .bind (.rejectIf expiredOnly_refused) fun _ => ?_
    refine .bind (.rejectIf expiredOnly_refused) fun _ => ?_
    refine .bind (.mapError fun error => ?_) fun _ => ?_
    · cases error <;> exact expiredOnly_refused
    · refine .bind (.orReject expiredOnly_refused) fun _ => ?_
      exact .rejectIf expiredOnly_refused
  · refine .bind (.mapError fun _ => expiredOnly_refused) fun _ => ?_
    exact .rejectIf expiredOnly_refused

theorem validateRequest_expired :
    FailsWith (ExpiredOnly request nowMs) (validateRequest identity policy logical request manifest nowMs) := by
  unfold validateRequest
  refine .bind validateRequestManifest_expired fun _ => ?_
  refine .bind validateStoredCheckpoint_expired fun _ => ?_
  refine .bind validateRequestTime_expired fun _ => ?_
  refine .bind (.mapError fun error => ?_) fun _ => ?_
  · cases error <;> exact expiredOnly_refused
  refine .bind (.rejectIf expiredOnly_refused) fun _ => ?_
  refine .bind ?_ fun _ => ?_
  · unfold validateAutomaticRule
    split
    · exact .pure _
    · exact .rejectIf expiredOnly_refused
  refine .bind validateOwnCapsule_expired fun _ => ?_
  exact .bind (.orReject expiredOnly_refused) fun _ => .pure _

structure ValidEmbeddedRequest (identity : WitnessEngineIdentity) (policy : PolicyState)
    (logical : WitnessLogicalState) (request : WitnessRequestV1) (nowMs : UInt64) : Prop where
  registered : ∃ registered, logical.vaults[request.vaultId]? = some registered ∧
    AtCheckpoint identity policy request registered.currentCheckpoint
  time : InValidity request nowMs
  granted : ∃ rule witnessPolicy slot, Granted policy request rule witnessPolicy slot

theorem validateEmbeddedRequest_eq_ok (h : validateEmbeddedRequest identity policy logical request nowMs = .ok u) :
    ValidEmbeddedRequest identity policy logical request nowMs := by
  simp only [validateEmbeddedRequest, eq_ok, Unique.exists_iff] at h
  obtain ⟨htime, hckpt, validated, hpolicy, -⟩ := h
  exact ⟨validateStoredCheckpoint_eq_ok hckpt, validateRequestTime_eq_ok.mp htime, _, _, _,
    validateRequestPolicy_eq_ok hpolicy⟩

end Jury.Engine
