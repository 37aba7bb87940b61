import Jury.Engine.State

-- Requests against the ready state, and the signed responses a witness gives to them. Nothing here
-- reaches a storage: a computation reads the ready state and draws from the random source.
namespace Jury.Engine

open Lib Protocol Vault Witness Policy

abbrev Drawing := EStateM WitnessEngineError Entropy

def Drawing.value {α : Type} (x : Drawing α) (entropy : Entropy) : Except WitnessEngineError α :=
  match x entropy with
  | .ok a _ => .ok a
  | .error error _ => .error error

variable {α β : Type} {x : Drawing α} {entropy : Entropy}

theorem Drawing.value_eq_ok {a : α} : x.value entropy = .ok a ↔ ∃ rest, x entropy = .ok a rest := by
  unfold Drawing.value
  cases x entropy <;> simp

theorem Drawing.value_map (f : α → β) (x : Drawing α) (entropy : Entropy) :
    Drawing.value (f <$> x) entropy = f <$> x.value entropy := by
  simp only [Drawing.value, Functor.map, EStateM.map]
  cases x entropy <;> rfl

theorem Drawing.value_map_eq_ok {f : α → β} {b : β} :
    Drawing.value (f <$> x) entropy = .ok b ↔ ∃ a rest, x entropy = .ok a rest ∧ f a = b := by
  simp only [Drawing.value_map, map_eq_ok, Drawing.value_eq_ok, exists_and_right]

-- An identifier drawn at random; a failed draw and the zero identifier are refused alike.
def randomResponseId : Drawing ResponseId := fun entropy =>
  match entropy with
  | [] => .error (refused .internalFailure) []
  | none :: rest => .error (refused .internalFailure) rest
  | some bytes :: rest =>
    match Identifier.fromBytes bytes with
    | .error _ => .error (refused .internalFailure) rest
    | .ok id => .ok id rest

variable [Crypto]

-- The current checkpoint of the request's vault, and that the policy and the request are those of it.
def validateStoredCheckpoint (identity : WitnessEngineIdentity) (policy : PolicyState)
    (logical : WitnessLogicalState) (request : WitnessRequestV1) : Except WitnessEngineError Unit := do
  let registered ← orReject logical.vaults[request.vaultId]? (refused .stalePolicy)
  validateRegisteredCheckpoint policy registered.currentCheckpoint identity
  let checkpointDigest ← orRefuse registered.currentCheckpoint.digest .invalid
  rejectIf (request.policyCheckpointDigest != checkpointDigest) (refused .stalePolicy)

-- The share of this witness in the slot, which has to be sealed to the keys that it holds.
def validateOwnCapsule (identity : WitnessEngineIdentity) (validated : ValidatedRequestPolicy) :
    Except WitnessEngineError WitnessShareCapsuleV1 := do
  let capsule ← orReject
    (validated.slot.capsules.find? fun capsule => capsule.witnessId == identity.principalId)
    (refused .policyDenied)
  let witnessDescriptor ← orReject
    (validated.policy.witnessDescriptors.find? fun descriptor =>
      descriptor.status == .active && descriptor.witnessId == identity.principalId)
    (refused .policyDenied)
  let identityDescriptor ← orReject identity.publicDescriptor (refused .internalFailure)
  rejectIf
    (witnessDescriptor.signingPublicKey != identityDescriptor.verificationPublicKey
      || witnessDescriptor.contributionPublicKey != identityDescriptor.recipientPublicKey
      || witnessDescriptor.shareIndex != capsule.shareIndex
      || witnessDescriptor.contributionKeyFingerprint != capsule.contributionKeyFingerprint)
    (refused .policyDenied)
  return capsule

def validateRequest (identity : WitnessEngineIdentity) (policy : PolicyState) (logical : WitnessLogicalState)
    (request : WitnessRequestV1) (manifest : ActionManifestV1) (nowMs : UInt64) :
    Except WitnessEngineError ValidatedRequest := do
  validateRequestManifest request manifest
  validateStoredCheckpoint identity policy logical request
  validateRequestTime request nowMs
  let validated ← (validateManifestPolicy policy request manifest).mapError mapRequestPolicyError
  validateWorkloadLimits manifest validated.rule
  validateAutomaticRule manifest validated.rule
  let capsule ← validateOwnCapsule identity validated
  let suite ← orReject (VaultSuite.fromId validated.slot.suite) (refused .invalid)
  return {
    suite
    rule := validated.rule
    policy := validated.policy
    capsule
    capsuleSetDigest := validated.slot.capsuleSetDigest }

-- A request that comes inside a cancellation has no manifest with it.
def validateEmbeddedRequest (identity : WitnessEngineIdentity) (policy : PolicyState)
    (logical : WitnessLogicalState) (request : WitnessRequestV1) (nowMs : UInt64) :
    Except WitnessEngineError Unit := do
  validateRequestTime request nowMs
  validateStoredCheckpoint identity policy logical request
  let _ ← (validateRequestPolicy policy request).mapError mapRequestPolicyError

def signDecision (identity : WitnessEngineIdentity) (decision : WitnessDecisionV1) :
    Except WitnessEngineError WitnessDecisionV1 := do
  let preimage ← orRefuse decision.signaturePreimage .invalid
  let signature ← orReject (identity.signWitnessStatement preimage) (refused .internalFailure)
  return { decision with signature }

def unsignedDecision (descriptor : PrincipalDescriptorV1) (request : WitnessRequestV1) (responseId : ResponseId)
    (requestDigest actionManifestDigest : Digest32) (stateGeneration nowMs : UInt64)
    (decision : WitnessDecisionKindV1) (reason : WitnessReasonV1)
    (contribution : Option (WitnessContributionEnvelopeV1 × Digest32)) : WitnessDecisionV1 where
  schema := 1
  responseId
  requestId := request.requestId
  requestDigest
  actionManifestDigest
  witnessId := descriptor.principalId
  witnessSigningKeyFingerprint :=
    signingKeyFingerprint 3 descriptor.principalId 1 descriptor.verificationPublicKey
  witnessSigningKeyEpoch := 1
  witnessPolicyId := request.witnessPolicyId
  witnessPolicyRevision := request.witnessPolicyRevision
  witnessPolicyDigest := request.witnessPolicyDigest
  policyCheckpointDigest := request.policyCheckpointDigest
  stateGeneration
  decision
  reason
  issuedAtMs := nowMs
  expiresAtMs := request.expiresAtMs
  contributionDigest := contribution.map (·.2)
  shareIndex := contribution.map (·.1.shareIndex)
  shareCommitment := contribution.map (·.1.shareCommitment)
  signature := NO_SIGNATURE

def denialResponse (identity : WitnessEngineIdentity) (request : WitnessRequestV1)
    (actionManifestDigest : Digest32) (reason : WitnessReasonV1) (stateGeneration nowMs : UInt64) :
    Drawing WitnessResponseV1 := do
  let responseId ← randomResponseId
  let descriptor ← check (orReject identity.publicDescriptor (refused .internalFailure))
  let requestDigest ← check (orRefuse request.digest .invalid)
  let decision ← check (signDecision identity
    (unsignedDecision descriptor request responseId requestDigest actionManifestDigest stateGeneration nowMs
      .deny reason none))
  return { decision, contribution := none }

def contributionTarget (request : WitnessRequestV1) (validated : ValidatedRequest) (responseId : ResponseId)
    (requestDigest actionManifestDigest : Digest32) : WitnessContributionTarget where
  requestDigest
  actionManifestDigest
  responseId
  checkpointDigest := request.policyCheckpointDigest
  capsuleSetDigest := validated.capsuleSetDigest
  sessionPublicKey := request.requestSessionPublicKey
  sessionFingerprint := request.requestSessionKeyFingerprint
  expiresAtMs := request.expiresAtMs

-- Sealing uses what is left of the random source; nothing is drawn after it.
def sealContribution (identity : WitnessEngineIdentity) (validated : ValidatedRequest)
    (target : WitnessContributionTarget) : Drawing WitnessContributionEnvelopeV1 := fun entropy =>
  check (orReject (identity.sealWitnessContribution validated.suite validated.capsule target entropy)
    (refused .invalidContribution)) entropy

def approvalResponse (identity : WitnessEngineIdentity) (request : WitnessRequestV1) (manifest : ActionManifestV1)
    (validated : ValidatedRequest) (stateGeneration nowMs : UInt64) : Drawing WitnessResponseV1 := do
  let responseId ← randomResponseId
  let requestDigest ← check (orRefuse request.digest .invalid)
  let actionManifestDigest ← check (orRefuse manifest.digest .invalid)
  let contribution ← sealContribution identity validated
    (contributionTarget request validated responseId requestDigest actionManifestDigest)
  let contributionDigest ← check (orRefuse contribution.digest .invalidContribution)
  let descriptor ← check (orReject identity.publicDescriptor (refused .internalFailure))
  let decision ← check (signDecision identity
    (unsignedDecision descriptor request responseId requestDigest actionManifestDigest stateGeneration nowMs
      .approve .none (some (contribution, contributionDigest))))
  return { decision, contribution := some contribution }

end Jury.Engine

-- Messages to run the engine on.
namespace Jury.Engine.Sample

open Lib Protocol Vault Witness Policy Protocol.Sample Policy.Sample

def checkpointOf (policy : ReplayedPolicy) (owner : UInt8) (predecessor : Digest32) (issuedAtMs : UInt64) :
    VaultPolicyCheckpointV1 :=
  let issuerOwnerId := identifier .principal owner
  let unsigned : VaultPolicyCheckpointV1 := {
    schema := 1
    vaultId := policy.state.vaultId
    genesisFingerprint := policy.state.genesisFingerprint
    vaultPolicySequence := policy.state.sequence
    vaultPolicyHash := policy.state.terminalRevisionHash
    activeWitnessPolicySetDigest := policy.state.activeWitnessPolicySetDigest.toOption.getD ZERO_DIGEST
    predecessorCheckpointDigest := predecessor
    issuedAtMs
    issuerOwnerId
    issuerKeyFingerprint := signingKeyFingerprint 1 issuerOwnerId 1 (verificationKey owner)
    issuerKeyEpoch := 1
    signature := NO_SIGNATURE }
  { unsigned with signature := sign (verificationKey owner) (unsigned.signaturePreimage.toOption.getD ∅) }

def checkpoint : VaultPolicyCheckpointV1 := checkpointOf policy 1 ZERO_DIGEST 2000

def digestOf (x : Except WitnessProtocolErrorKind Digest32) : Digest32 := x.toOption.getD ZERO_DIGEST

def manifest (byte : UInt8) (issuedAtMs expiresAtMs : UInt64) : ActionManifestV1 :=
  let approvalTarget : ApprovalTargetV1 := {
    entries := [{
      itemId := witnessedItem
      fieldId := some (identifier .field 1)
      presentationCommitment := ZERO_DIGEST }]
    presentationDigest := ZERO_DIGEST }
  { schema := 1
    requestId := identifier .request byte
    vaultId := policy.state.vaultId
    genesisFingerprint := policy.state.genesisFingerprint
    itemId := witnessedItem
    keyEpoch := 1
    itemAccessMode := .witnessedOnly
    slotId := identifier .slot ContentRole.body.tag
    contentRole := .body
    revision := 1
    revisionSealId := identifier .revisionSeal ContentRole.body.tag
    vaultPolicySequence := policy.state.sequence
    vaultPolicyHash := policy.state.terminalRevisionHash
    witnessPolicyId := witnessPolicy.witnessPolicyId
    witnessPolicyRevision := 1
    witnessPolicyDigest := policyDigest
    requesterPrincipalId := identifier .principal 1
    requestedAccessRole := .owner
    operation := .readStdout
    operationContext := .readStdout
    approvalTarget
    approvalTargetDigest := digestOf approvalTarget.digest
    executableIdentity := none
    arguments := []
    workingDirectoryCommitment := none
    environmentInjections := []
    stdinTarget := none
    stdinMode := .none
    outputSink := .stdout
    outputSinkCommitment := none
    platformAssurance := .normalizedPathOnly
    timeoutMs := 100
    outputLimitBytes := 100
    issuedAtMs
    notBeforeMs := none
    expiresAtMs
    presentationDigest := ZERO_DIGEST }

-- A request of owner 1, signed with the key of `signer`.
def request (signer : UInt8) (manifest : ActionManifestV1) : WitnessRequestV1 :=
  let requesterPrincipalId := identifier .principal 1
  let requestSessionPublicKey := FixedBytes.replicate 1216 9
  let unsigned : WitnessRequestV1 := {
    schema := 1
    protocolVersion := PROTOCOL_VERSION
    construction := CONSTRUCTION
    requestId := manifest.requestId
    clientNonce := identifier .request 9
    vaultId := manifest.vaultId
    genesisFingerprint := manifest.genesisFingerprint
    itemId := manifest.itemId
    keyEpoch := manifest.keyEpoch
    itemAccessMode := manifest.itemAccessMode
    slotId := manifest.slotId
    contentRole := manifest.contentRole
    revision := manifest.revision
    revisionSealId := manifest.revisionSealId
    vaultPolicySequence := manifest.vaultPolicySequence
    vaultPolicyHash := manifest.vaultPolicyHash
    policyCheckpointDigest := digestOf checkpoint.digest
    witnessPolicyId := manifest.witnessPolicyId
    witnessPolicyRevision := manifest.witnessPolicyRevision
    witnessPolicyDigest := manifest.witnessPolicyDigest
    requesterPrincipalId
    requesterSigningKeyFingerprint := signingKeyFingerprint 1 requesterPrincipalId 1 (verificationKey 1)
    requesterSigningKeyEpoch := 1
    requestedAccessRole := manifest.requestedAccessRole
    operation := manifest.operation
    approvalTargetDigest := manifest.approvalTargetDigest
    actionManifestDigest := digestOf manifest.digest
    workloadDigest := digestOf manifest.workloadDigest
    issuedAtMs := manifest.issuedAtMs
    notBeforeMs := manifest.notBeforeMs
    expiresAtMs := manifest.expiresAtMs
    requestSessionPublicKey
    requestSessionKeyFingerprint := recipientPublicKeyFingerprint requestSessionPublicKey
    intendedWitnessSet := intendedWitnesses witnessPolicy
    clientSignature := NO_SIGNATURE }
  { unsigned with
    clientSignature := sign (verificationKey signer) (unsigned.signaturePreimage.toOption.getD ∅) }

def approval (approver byte : UInt8) (manifest : ActionManifestV1) (decision : ApprovalDecisionKindV1)
    (expiresAtMs : UInt64) : ApprovalDecisionV1 :=
  let request := request 1 manifest
  let approverId := identifier .principal approver
  let unsigned : ApprovalDecisionV1 := {
    schema := 1
    approvalId := identifier .approval byte
    requestId := request.requestId
    requestDigest := digestOf request.digest
    actionManifestDigest := request.actionManifestDigest
    presentationDigest := manifest.presentationDigest
    witnessPolicyId := request.witnessPolicyId
    witnessPolicyRevision := request.witnessPolicyRevision
    witnessPolicyDigest := request.witnessPolicyDigest
    approverId
    approverKeyFingerprint := signingKeyFingerprint 2 approverId 1 (verificationKey approver)
    approverKeyEpoch := 1
    approvalMode := .human
    decision
    reason := if decision = .approve then .none else .approvalDenied
    issuedAtMs := manifest.issuedAtMs
    notBeforeMs := none
    expiresAtMs
    nonce := identifier .approval byte
    intendedWitnessSetDigest := digestOf request.intendedWitnessSetDigest
    signature := NO_SIGNATURE }
  { unsigned with signature := sign (verificationKey approver) (unsigned.signaturePreimage.toOption.getD ∅) }

end Jury.Engine.Sample
