import Jury.Engine.Types

-- The checks an engine makes of checkpoints, requests, approvals, cancellations and responses. None
-- of them reads the store.
namespace Jury.Engine

open Lib Protocol Vault Witness Policy

inductive CheckpointPolicyError where
  | invalid
  | scopeMismatch
  | missingOwner
  | invalidSignature
deriving DecidableEq

inductive RequestPolicyError where
  | invalid
  | invalidSignature
  | policyDenied
  | stalePolicy
  | wrongScope
deriving DecidableEq

structure ValidatedRequestPolicy where
  rule : WitnessAccessRule
  policy : WitnessPolicy
  slot : WitnessedSlotV1
deriving DecidableEq

def operationCapability : WitnessOperationV1 → Capability
  | .readStdout | .writePrivateFile | .templateInjection | .childEnvironment | .childStdin => .read
  | .itemMutation | .backup => .write
  | .recovery | .administrativeRekey => .administer

def mapCheckpointError : CheckpointPolicyError → WitnessEngineError
  | .invalid => refused .invalid
  | .scopeMismatch => refused .checkpointFork
  | .missingOwner | .invalidSignature => refused .invalidSignature

def mapRequestPolicyError : RequestPolicyError → WitnessEngineError
  | .invalid => refused .invalid
  | .invalidSignature => refused .invalidSignature
  | .policyDenied => refused .policyDenied
  | .stalePolicy => refused .stalePolicy
  | .wrongScope => refused .wrongScope

def validateOwnerChangeContext (policy : PolicyState) (requester : PrincipalId) (context : OperationContextV1) :
    Except RequestPolicyError Unit :=
  match context with
  | .ownerChange change targetPrincipalId nextVaultPolicySequence => do
    rejectIf (checkedAdd policy.sequence 1 != some nextVaultPolicySequence) .wrongScope
    rejectIf
      (!policy.owners.contains requester
        || !policy.principals[targetPrincipalId]?.any
          (fun principal => principal.descriptor.principalKind == .human))
      .policyDenied
    let targetIsOwner := policy.owners.contains targetPrincipalId
    rejectIf
      (match change with
        | .grant => targetIsOwner
        | .revoke => !targetIsOwner || requester == targetPrincipalId || decide (policy.owners.size ≤ 1))
      .policyDenied
  | _ => pure ()

def mapAccessRuleError : PolicyErrorKind → RequestPolicyError
  | .unknownItem => .wrongScope
  | .unauthorized => .wrongScope
  | .missingWitnessPolicy => .stalePolicy
  | _ => .policyDenied

def intendedWitnesses (policy : WitnessPolicy) : List IntendedWitnessV1 :=
  policy.activeWitnesses.map fun descriptor => {
    witnessId := descriptor.witnessId
    shareIndex := descriptor.shareIndex
    signingKeyFingerprint := descriptor.signingKeyFingerprint
    contributionKeyFingerprint := descriptor.contributionKeyFingerprint }

def slotMatches (request : WitnessRequestV1) (policy : WitnessPolicy) (slot : WitnessedSlotV1) : Bool :=
  slot.slotId == request.slotId
    && slot.contentRole == request.contentRole
    && slot.revision == request.revision
    && slot.revisionSealId == request.revisionSealId
    && slot.keyEpoch == request.keyEpoch
    && slot.itemAccessMode == request.itemAccessMode
    && slot.vaultPolicySequence == policy.vaultPolicySequence
    && slot.witnessPolicyId == request.witnessPolicyId
    && slot.witnessPolicyRevision == request.witnessPolicyRevision
    && slot.witnessPolicyDigest == request.witnessPolicyDigest

def approvalIsCurrent (approval : ApprovalDecisionV1) (nowMs : UInt64) : Bool :=
  decide (approval.issuedAtMs ≤ saturatingAdd nowMs ACCEPTED_CLOCK_SKEW_MS)
    && decide (nowMs < approval.expiresAtMs)
    && approval.notBeforeMs.all fun notBefore => decide (notBefore ≤ saturatingAdd nowMs ACCEPTED_CLOCK_SKEW_MS)

def validateRequestTime (request : WitnessRequestV1) (nowMs : UInt64) : Except WitnessEngineError Unit := do
  let skewedNow := saturatingAdd nowMs ACCEPTED_CLOCK_SKEW_MS
  rejectIf (decide (request.issuedAtMs > skewedNow)) (refused .notYetValid)
  rejectIf (request.notBeforeMs.any fun notBefore => decide (notBefore > skewedNow)) (refused .notYetValid)
  rejectIf (decide (nowMs ≥ request.expiresAtMs)) (refused .expired)

def automaticTargetsListed (manifest : ActionManifestV1) (rule : WitnessAccessRule) : Bool :=
  manifest.approvalTarget.entries.all fun entry =>
    rule.automaticReadTargets.any fun target =>
      target.itemId == entry.itemId
        && target.contentRole == manifest.contentRole
        && target.fieldId == entry.fieldId

def validateAutomaticRule (manifest : ActionManifestV1) (rule : WitnessAccessRule) :
    Except WitnessEngineError Unit :=
  if rule.approvalThreshold != 0 then pure ()
  else rejectIf (!automaticTargetsListed manifest rule || manifest.operation != .readStdout) (refused .policyDenied)

def validateWorkloadLimits (manifest : ActionManifestV1) (rule : WitnessAccessRule) :
    Except WitnessEngineError Unit :=
  rejectIf
    (decide (manifest.timeoutMs > rule.maxTimeoutMs)
      || decide (manifest.outputLimitBytes > rule.maxOutputBytes)
      || decide (manifest.approvalTarget.entries.length > rule.maxTargetCount.toNat)
      || decide (manifest.platformAssurance.tag < rule.requiredPlatformAssurance.tag))
    (refused .workloadExceeded)

-- Byte-identical decisions next to each other collapse into the first of them.
def dedupAdjacent (keyed : List (PrincipalId × Bytes × ApprovalDecisionV1)) :
    List (PrincipalId × Bytes × ApprovalDecisionV1) :=
  keyed.foldr (fun entry rest =>
    match rest with
    | [] => [entry]
    | next :: tail => if entry.1 == next.1 && entry.2.1 == next.2.1 then entry :: tail else entry :: next :: tail) []

-- Two different decisions of one approver prove a conflict; more of them are not kept.
def retainApproval (retained : List (PrincipalId × Bytes × ApprovalDecisionV1))
    (entry : PrincipalId × Bytes × ApprovalDecisionV1) : List (PrincipalId × Bytes × ApprovalDecisionV1) :=
  if (retained.reverse.takeWhile fun prior => prior.1 == entry.1).length < 2 then retained ++ [entry] else retained

def keyApproval (approval : ApprovalDecisionV1) :
    Except WitnessEngineError (PrincipalId × Bytes × ApprovalDecisionV1) := do
  let bytes ← orRefuse approval.canonicalBytes .invalid
  return (approval.approverId, bytes, approval)

def normalizeApprovals (approvals : List ApprovalDecisionV1) : Except WitnessEngineError (List ApprovalDecisionV1) := do
  let keyed ← approvals.mapM keyApproval
  let keyed := dedupAdjacent (sortByKey keyed fun entry => (entry.1, entry.2.1))
  let retained := keyed.foldl retainApproval []
  rejectIf (decide (retained.length > MAX_RECORDED_APPROVALS)) (refused .capacityExhausted)
  return retained.map fun entry => entry.2.2

def tallyApprover (approvals : List ApprovalDecisionV1) (tally : ApprovalTally) (approverId : PrincipalId) :
    ApprovalTally :=
  match approvals.filter fun decision => decision.approverId == approverId with
  | [] => { tally with undecided := tally.undecided + 1 }
  | [decision] => if decision.decision = .approve then { tally with approved := tally.approved + 1 } else tally
  | _ => { tally with conflicted := true }

def tallyApprovals (approvals : List ApprovalDecisionV1) (rule : WitnessAccessRule) : ApprovalTally :=
  rule.eligibleApproverIds.foldl (tallyApprover approvals) { approved := 0, undecided := 0, conflicted := false }

variable [Crypto]

def validateCheckpointPolicy (policy : PolicyState) (checkpoint : VaultPolicyCheckpointV1) :
    Except CheckpointPolicyError (List WitnessPolicy) := do
  checkpoint.validateShape.mapError fun _ => .invalid
  rejectIf
    (checkpoint.vaultId != policy.vaultId
      || checkpoint.genesisFingerprint != policy.genesisFingerprint
      || checkpoint.vaultPolicySequence != policy.sequence
      || checkpoint.vaultPolicyHash != policy.terminalRevisionHash)
    .scopeMismatch
  let policies ← policy.activeWitnessPolicyEntries.mapError fun _ => .invalid
  let setDigest ← (activeWitnessPolicySetDigest (policies.map (·.1))).mapError fun _ => .invalid
  rejectIf (checkpoint.activeWitnessPolicySetDigest != setDigest) .scopeMismatch
  let owner ← orReject
    (policy.principals[checkpoint.issuerOwnerId]?.filter fun _ => policy.owners.contains checkpoint.issuerOwnerId)
    .missingOwner
  rejectIf
    (checkpoint.issuerKeyEpoch != 1
      || checkpoint.issuerKeyFingerprint
        != signingKeyFingerprint 1 checkpoint.issuerOwnerId 1 owner.descriptor.verificationPublicKey)
    .invalidSignature
  let preimage ← checkpoint.signaturePreimage.mapError fun _ => .invalid
  rejectIf (!verifyBytes owner.descriptor.verificationPublicKey preimage checkpoint.signature) .invalidSignature
  return policies.map (·.2)

def validateCheckpointPublic (policy : PolicyState) (checkpoint : VaultPolicyCheckpointV1) :
    Except WitnessEngineError (List WitnessPolicy) :=
  (validateCheckpointPolicy policy checkpoint).mapError mapCheckpointError

def validateCheckpoint (policy : PolicyState) (checkpoint : VaultPolicyCheckpointV1)
    (identity : WitnessEngineIdentity) : Except WitnessEngineError Unit := do
  let policies ← validateCheckpointPublic policy checkpoint
  let own ← orReject identity.publicDescriptor (refused .internalFailure)
  rejectIf
    (!policies.any fun witnessPolicy =>
      witnessPolicy.witnessDescriptors.any fun descriptor =>
        descriptor.status == .active
          && descriptor.witnessId == own.principalId
          && descriptor.signingPublicKey == own.verificationPublicKey
          && descriptor.contributionPublicKey == own.recipientPublicKey)
    (refused .policyDenied)

def validateRegisteredCheckpoint (policy : PolicyState) (checkpoint : VaultPolicyCheckpointV1)
    (identity : WitnessEngineIdentity) : Except WitnessEngineError Unit := do
  rejectIf (decide (checkpoint.vaultPolicySequence < policy.sequence)) (refused .witnessBehind)
  rejectIf (decide (checkpoint.vaultPolicySequence > policy.sequence)) (refused .stalePolicy)
  validateCheckpoint policy checkpoint identity

-- The requester's part: a current principal with the role asked for, whose key signed the request.
def validateRequester (policy : PolicyState) (request : WitnessRequestV1) : Except RequestPolicyError Unit := do
  let access := policy.access request.itemId request.requesterPrincipalId (operationCapability request.operation)
  rejectIf (!access.allowed || access.effectiveRole != some request.requestedAccessRole) .policyDenied
  let requester ← orReject policy.principals[request.requesterPrincipalId]? .policyDenied
  rejectIf
    (requester.descriptor.principalKind == .approver
      || requester.descriptor.principalKind == .witness
      || request.requesterSigningKeyEpoch != 1
      || request.requesterSigningKeyFingerprint
        != signingKeyFingerprint 1 request.requesterPrincipalId 1 requester.descriptor.verificationPublicKey)
    .invalidSignature
  let preimage ← request.signaturePreimage.mapError fun _ => .invalid
  rejectIf (!verifyBytes requester.descriptor.verificationPublicKey preimage request.clientSignature)
    .invalidSignature

-- The witness policy that a request names, with the set of witnesses that it intends to ask.
def validateWitnessSet (policy : PolicyState) (request : WitnessRequestV1) :
    Except RequestPolicyError WitnessPolicy := do
  let witnessPolicy ← orReject policy.witnessPolicies[request.witnessPolicyDigest]? .stalePolicy
  rejectIf
    (decide (witnessPolicy.vaultPolicySequence > request.vaultPolicySequence)
      || policy.predecessorHashForSequence witnessPolicy.vaultPolicySequence != some witnessPolicy.vaultPolicyHash)
    .stalePolicy
  rejectIf (request.intendedWitnessSet != intendedWitnesses witnessPolicy) .wrongScope
  let requested ← request.intendedWitnessSetDigest.mapError fun _ => .invalid
  let expected ← (policy.intendedWitnessSetDigest request.itemId).mapError fun _ => .stalePolicy
  rejectIf (requested != expected) .wrongScope
  return witnessPolicy

def validateSlot (policy : PolicyState) (request : WitnessRequestV1) (rule : WitnessAccessRule)
    (witnessPolicy : WitnessPolicy) : Except RequestPolicyError WitnessedSlotV1 := do
  let item ← orReject policy.items[request.itemId]? .wrongScope
  rejectIf (item.keyEpoch != request.keyEpoch || item.accessMode != some request.itemAccessMode) .wrongScope
  let slot ← orReject
    (item.witnessedState.bind fun witnessed => witnessed.slots.find? (slotMatches request witnessPolicy)) .wrongScope
  rejectIf
    (slot.threshold != rule.witnessThreshold
      || slot.memberCount.toNat != (intendedWitnesses witnessPolicy).length)
    .wrongScope
  return slot

def validateRequestPolicy (policy : PolicyState) (request : WitnessRequestV1) :
    Except RequestPolicyError ValidatedRequestPolicy := do
  request.validateShape.mapError fun _ => .invalid
  rejectIf
    (request.vaultId != policy.vaultId
      || request.genesisFingerprint != policy.genesisFingerprint
      || request.vaultPolicySequence != policy.sequence
      || request.vaultPolicyHash != policy.terminalRevisionHash)
    .stalePolicy
  rejectIf (decide (request.expiresAtMs < request.issuedAtMs)) .invalid
  let requestLifetime := request.expiresAtMs - request.issuedAtMs
  let rule ← (policy.witnessAccessRule request.itemId request.operation).mapError mapAccessRuleError
  rejectIf
    (request.witnessPolicyId != rule.policyId
      || request.witnessPolicyRevision != rule.policyRevision
      || request.witnessPolicyDigest != rule.policyDigest)
    .wrongScope
  rejectIf (decide (requestLifetime > rule.allowedRequestLifetimeMs)) .stalePolicy
  validateRequester policy request
  let witnessPolicy ← validateWitnessSet policy request
  let slot ← validateSlot policy request rule witnessPolicy
  return { rule, policy := witnessPolicy, slot }

def validateManifestPolicy (policy : PolicyState) (request : WitnessRequestV1) (manifest : ActionManifestV1) :
    Except RequestPolicyError ValidatedRequestPolicy := do
  let validated ← validateRequestPolicy policy request
  validateOwnerChangeContext policy request.requesterPrincipalId manifest.operationContext
  return validated

def requestMatchesManifest (request : WitnessRequestV1) (manifest : ActionManifestV1)
    (manifestDigest workloadDigest : Digest32) : Bool :=
  request.requestId == manifest.requestId
    && request.vaultId == manifest.vaultId
    && request.genesisFingerprint == manifest.genesisFingerprint
    && request.itemId == manifest.itemId
    && request.keyEpoch == manifest.keyEpoch
    && request.itemAccessMode == manifest.itemAccessMode
    && request.slotId == manifest.slotId
    && request.contentRole == manifest.contentRole
    && request.revision == manifest.revision
    && request.revisionSealId == manifest.revisionSealId
    && request.vaultPolicySequence == manifest.vaultPolicySequence
    && request.vaultPolicyHash == manifest.vaultPolicyHash
    && request.witnessPolicyId == manifest.witnessPolicyId
    && request.witnessPolicyRevision == manifest.witnessPolicyRevision
    && request.witnessPolicyDigest == manifest.witnessPolicyDigest
    && request.requesterPrincipalId == manifest.requesterPrincipalId
    && request.requestedAccessRole == manifest.requestedAccessRole
    && request.operation == manifest.operation
    && request.approvalTargetDigest == manifest.approvalTargetDigest
    && request.actionManifestDigest == manifestDigest
    && request.workloadDigest == workloadDigest
    && request.issuedAtMs == manifest.issuedAtMs
    && request.notBeforeMs == manifest.notBeforeMs
    && request.expiresAtMs == manifest.expiresAtMs

def validateRequestManifest (request : WitnessRequestV1) (manifest : ActionManifestV1) :
    Except WitnessEngineError Unit := do
  rejectIf
    (request.schema != 1
      || request.protocolVersion != PROTOCOL_VERSION
      || request.construction != CONSTRUCTION
      || manifest.schema != 1)
    (refused .unsupportedVersion)
  orRefuse request.validateShape .invalid
  orRefuse manifest.validateShape .wrongScope
  rejectIf
    (manifest.approvalTarget.entries.any fun entry =>
      entry.itemId != request.itemId || (request.contentRole == .descriptor && entry.fieldId.isSome))
    (refused .wrongScope)
  let manifestDigest ← orRefuse manifest.digest .invalid
  let workloadDigest ← orRefuse manifest.workloadDigest .invalid
  rejectIf (!requestMatchesManifest request manifest manifestDigest workloadDigest) (refused .wrongScope)

def validateApprovalAgainstPolicy (approval : ApprovalDecisionV1) (request : WitnessRequestV1)
    (manifest : ActionManifestV1) (rule : WitnessAccessRule) (policy : WitnessPolicy) :
    Except WitnessEngineError Unit := do
  orRefuse approval.validateShape .invalid
  let descriptor ← orReject (policy.activeApprover approval.approverId) (refused .policyDenied)
  let requestDigest ← orRefuse request.digest .invalid
  let manifestDigest ← orRefuse manifest.digest .invalid
  let witnessSetDigest ← orRefuse request.intendedWitnessSetDigest .invalid
  rejectIf
    (!rule.eligibleApproverIds.contains approval.approverId
      || approval.requestId != request.requestId
      || approval.requestDigest != requestDigest
      || approval.actionManifestDigest != manifestDigest
      || approval.presentationDigest != manifest.presentationDigest
      || approval.witnessPolicyId != request.witnessPolicyId
      || approval.witnessPolicyRevision != request.witnessPolicyRevision
      || approval.witnessPolicyDigest != request.witnessPolicyDigest
      || approval.intendedWitnessSetDigest != witnessSetDigest
      || approval.approverKeyFingerprint != descriptor.signingKeyFingerprint
      || approval.approverKeyEpoch != descriptor.signingKeyEpoch
      || approval.approvalMode != descriptor.approvalMode
      || decide (approval.issuedAtMs < request.issuedAtMs)
      || decide (approval.expiresAtMs > request.expiresAtMs))
    (refused .invalid)
  let preimage ← orRefuse approval.signaturePreimage .invalid
  rejectIf (!verifyBytes descriptor.signingPublicKey preimage approval.signature) (refused .invalidSignature)

def validateApprovalStatic (approval : ApprovalDecisionV1) (request : WitnessRequestV1)
    (manifest : ActionManifestV1) (validated : ValidatedRequest) : Except WitnessEngineError Unit :=
  validateApprovalAgainstPolicy approval request manifest validated.rule validated.policy

def validateApproval (approval : ApprovalDecisionV1) (request : WitnessRequestV1) (manifest : ActionManifestV1)
    (validated : ValidatedRequest) (nowMs : UInt64) : Except WitnessEngineError Unit := do
  validateApprovalStatic approval request manifest validated
  rejectIf (!approvalIsCurrent approval nowMs) (refused .invalid)

def cancellerRoleValid (policy : PolicyState) (request : WitnessRequestV1) (cancellation : RequestCancellationV1) :
    Bool :=
  match cancellation.cancellerRole with
  | .originalRequester => cancellation.cancellerId == request.requesterPrincipalId
  | .currentOwner => policy.owners.contains cancellation.cancellerId

def validateRequestCancellation (policy : PolicyState) (request : WitnessRequestV1)
    (cancellation : RequestCancellationV1) (nowMs : UInt64) : Except WitnessEngineError Unit := do
  orRefuse cancellation.validateShape .invalid
  let requestPreimage ← orRefuse request.signaturePreimage .invalid
  let requestDigest ← orRefuse request.digest .invalid
  rejectIf
    (cancellation.requestSignaturePreimage.asBytes != requestPreimage
      || cancellation.clientSignature != request.clientSignature
      || cancellation.requestId != request.requestId
      || cancellation.requestDigest != requestDigest
      || decide (cancellation.issuedAtMs > saturatingAdd nowMs ACCEPTED_CLOCK_SKEW_MS)
      || decide (cancellation.issuedAtMs < request.issuedAtMs)
      || cancellation.cancellerKeyEpoch != 1)
    (refused .invalid)
  let canceller ← orReject policy.principals[cancellation.cancellerId]? (refused .policyDenied)
  rejectIf
    (!cancellerRoleValid policy request cancellation
      || cancellation.cancellerKeyFingerprint
        != signingKeyFingerprint 1 cancellation.cancellerId 1 canceller.descriptor.verificationPublicKey)
    (refused .policyDenied)
  let preimage ← orRefuse cancellation.signaturePreimage .invalid
  rejectIf (!verifyBytes canceller.descriptor.verificationPublicKey preimage cancellation.signature)
    (refused .invalidSignature)

def sameRequest (left right : WitnessRequestV1) : Except WitnessEngineError Bool := do
  let left ← orRefuse left.canonicalBytes .invalid
  let right ← orRefuse right.canonicalBytes .invalid
  return left == right

def exactAnchorEq (left right : WitnessStateAnchorV1) : Except WitnessEngineError Bool := do
  let left ← orRefuse left.canonicalBytes .invalid
  let right ← orRefuse right.canonicalBytes .invalid
  return left == right

def checkpointAcknowledgement (state : PersistedWitnessState) (vaultId : VaultId) :
    Except WitnessEngineError WitnessCheckpointAcknowledgementV1 := do
  let vault ← orReject state.logical.vaults[vaultId]? (refused .stalePolicy)
  let exactAnchor ← orReject state.publishedAnchor (refused .anchorConflict)
  let checkpointDigest ← orRefuse vault.currentCheckpoint.digest .invalid
  let anchorDigest ← orRefuse exactAnchor.digest .invalid
  let acknowledgement : WitnessCheckpointAcknowledgementV1 := {
    schema := 1
    witnessId := state.logical.witnessId
    vaultId
    checkpointDigest
    vaultPolicySequence := vault.currentCheckpoint.vaultPolicySequence
    activeWitnessPolicySetDigest := vault.currentCheckpoint.activeWitnessPolicySetDigest
    stateGeneration := state.logical.stateGeneration
    anchorDigest
    exactAnchor }
  orRefuse acknowledgement.validateShape .internalFailure
  return acknowledgement

end Jury.Engine
