import Jury.Engine.Requests

-- The operations of a witness engine. Each one reads the clock once, brings the storages into a
-- confirmed state, plans its answer from that state, and commits at most one new logical state.
namespace Jury.Engine

open Lib Protocol Witness Policy

-- What an operation makes of the ready state: an answer, or a logical state to commit with the answer
-- that is due once its anchor is published.
inductive Plan (α : Type) where
  | answer (reply : α)
  | write (logical : WitnessLogicalState) (reply : PersistedWitnessState → Except WitnessEngineError α)

def updateEntry (logical : WitnessLogicalState) (key : ReplayKey)
    (update : WitnessReplayEntry → WitnessReplayEntry) : Except WitnessEngineError WitnessLogicalState := do
  let entry ← orReject logical.replay[key]? (refused .internalFailure)
  return { logical with replay := logical.replay.insert key (update entry) }

def nextGeneration (logical : WitnessLogicalState) : UInt64 := saturatingAdd logical.stateGeneration 1

def operationalStatusPlan (nowMs : UInt64) (state : PersistedWitnessState) :
    Drawing (Plan WitnessOperationalStatus) :=
  return .answer {
    witnessId := state.logical.witnessId
    stateGeneration := state.logical.stateGeneration
    replayRecordCount := state.logical.replay.size
    compactableReplayRecordCount :=
      (state.logical.replay.values.filter fun entry => decide (nowMs > entry.retainThroughMs)).length
    replayRetainThroughMs := maxOrZero (state.logical.replay.values.map (·.retainThroughMs))
    publishedAnchor := state.publishedAnchor }

def compactReplayPlan (nowMs : UInt64) (state : PersistedWitnessState) : Drawing (Plan Nat) :=
  let replay := state.logical.replay.filter fun _ entry => decide (nowMs ≤ entry.retainThroughMs)
  let removed := state.logical.replay.size - replay.size
  if removed = 0 then return .answer removed
  else return .write { state.logical with replay } fun _ => .ok removed

variable [Crypto]

def registerVaultPlan (identity : WitnessEngineIdentity) (nowMs : UInt64) (policy : PolicyState)
    (acceptedRegistration : RegistrationBytes) (checkpoint : VaultPolicyCheckpointV1)
    (currentPolicyMaterial : PolicyMaterialBytes) (state : PersistedWitnessState) :
    Drawing (Plan WitnessCheckpointAcknowledgementV1) := do
  check (validateCheckpoint policy checkpoint identity)
  check (rejectIf (decide (checkpoint.issuedAtMs > saturatingAdd nowMs ACCEPTED_CLOCK_SKEW_MS))
    (refused .notYetValid))
  match state.logical.vaults[checkpoint.vaultId]? with
  | some current => do
    check (rejectIf
      (!(current.currentCheckpoint == checkpoint
        && current.acceptedRegistration == acceptedRegistration
        && current.currentPolicyMaterial == currentPolicyMaterial))
      (refused .checkpointFork))
    let acknowledgement ← check (checkpointAcknowledgement state checkpoint.vaultId)
    return .answer acknowledgement
  | none =>
    let vault : RegisteredWitnessVault :=
      { acceptedRegistration, currentCheckpoint := checkpoint, currentPolicyMaterial }
    return .write { state.logical with vaults := state.logical.vaults.insert checkpoint.vaultId vault }
      fun state => checkpointAcknowledgement state checkpoint.vaultId

-- A successor of the current checkpoint: the next sequence, the current digest as predecessor, a later
-- issue time.
def validateSuccessor (current checkpoint : VaultPolicyCheckpointV1) : Except WitnessEngineError Unit := do
  rejectIf (decide (checkpoint.vaultPolicySequence < current.vaultPolicySequence)) (refused .stalePolicy)
  rejectIf (checkpoint.vaultPolicySequence == current.vaultPolicySequence) (refused .checkpointFork)
  rejectIf (checkpoint.vaultPolicySequence != saturatingAdd current.vaultPolicySequence 1) (refused .witnessBehind)
  let predecessor ← orRefuse current.digest .invalid
  rejectIf
    (checkpoint.predecessorCheckpointDigest != predecessor || decide (checkpoint.issuedAtMs ≤ current.issuedAtMs))
    (refused .checkpointFork)

def staleRequests (logical : WitnessLogicalState) (vaultId : VaultId) : List (ReplayKey × WitnessReplayEntry) :=
  logical.replay.toList.filter fun record => record.1.1 == vaultId && record.2.state == .reserved

def denyStale (identity : WitnessEngineIdentity) (generation nowMs : UInt64) (logical : WitnessLogicalState)
    (record : ReplayKey × WitnessReplayEntry) : Drawing WitnessLogicalState := do
  let response ← denialResponse identity record.2.request record.2.actionManifestDigest .stalePolicy generation nowMs
  check (updateEntry logical record.1 fun entry => { entry with state := .denied, response := some response })

def advanceCheckpointPlan (identity : WitnessEngineIdentity) (nowMs : UInt64) (policy : PolicyState)
    (checkpoint : VaultPolicyCheckpointV1) (currentPolicyMaterial : PolicyMaterialBytes)
    (state : PersistedWitnessState) : Drawing (Plan WitnessCheckpointAcknowledgementV1) := do
  let _ ← check (validateCheckpointPublic policy checkpoint)
  check (rejectIf (decide (checkpoint.issuedAtMs > saturatingAdd nowMs ACCEPTED_CLOCK_SKEW_MS))
    (refused .notYetValid))
  let current ← check (orReject state.logical.vaults[checkpoint.vaultId]? (refused .stalePolicy))
  if current.currentCheckpoint = checkpoint then do
    check (rejectIf (current.currentPolicyMaterial != currentPolicyMaterial) (refused .checkpointFork))
    let acknowledgement ← check (checkpointAcknowledgement state checkpoint.vaultId)
    return .answer acknowledgement
  else do
    check (validateSuccessor current.currentCheckpoint checkpoint)
    let logical ← (staleRequests state.logical checkpoint.vaultId).foldlM
      (denyStale identity (nextGeneration state.logical) nowMs) state.logical
    let current ← check (orReject logical.vaults[checkpoint.vaultId]? (refused .internalFailure))
    let vault := { current with currentCheckpoint := checkpoint, currentPolicyMaterial }
    return .write { logical with vaults := logical.vaults.insert checkpoint.vaultId vault }
      fun state => checkpointAcknowledgement state checkpoint.vaultId

-- A cancellation of a request without a response yet, also of one that the witness has never seen.
def cancelFresh (identity : WitnessEngineIdentity) (nowMs : UInt64) (policy : PolicyState)
    (request : WitnessRequestV1) (cancellation : RequestCancellationV1) (logical : WitnessLogicalState) :
    Drawing (Plan CancellationProgress) := do
  check (validateEmbeddedRequest identity policy logical request nowMs)
  check (validateRequestCancellation policy request cancellation nowMs)
  let bytes ← check (orRefuse cancellation.canonicalBytes .invalid)
  let cancellationBytes ← check (boundedBytes (48 * 1024) bytes)
  let response ← denialResponse identity request request.actionManifestDigest .cancelled
    (nextGeneration logical) nowMs
  let retainThroughMs ← check (orReject (checkedAdd request.expiresAtMs REPLAY_RETENTION_MS) (refused .invalid))
  let entry : WitnessReplayEntry := match logical.replay[requestKey request]? with
    | some entry =>
      { entry with state := .cancelled, cancellation := some cancellationBytes, response := some response }
    | none => {
        request
        actionManifestDigest := request.actionManifestDigest
        state := .cancelled
        retainThroughMs
        approvals := []
        cancellation := some cancellationBytes
        response := some response }
  return .write { logical with replay := logical.replay.insert (requestKey request) entry }
    fun _ => .ok (.cancelled response)

def cancelPlan (identity : WitnessEngineIdentity) (nowMs : UInt64) (policy : PolicyState)
    (request : WitnessRequestV1) (cancellation : RequestCancellationV1) (state : PersistedWitnessState) :
    Drawing (Plan CancellationProgress) := do
  match state.logical.replay[requestKey request]? with
  | none => cancelFresh identity nowMs policy request cancellation state.logical
  | some known => do
    let same ← check (sameRequest known.request request)
    check (rejectIf (!same) (refused .replayConflict))
    match known.response with
    | none => cancelFresh identity nowMs policy request cancellation state.logical
    | some response => do
      check (validateRequestCancellation policy request cancellation nowMs)
      return .answer (if known.state = .cancelled then .cancelled response else .tooLate response)

-- The manifest of a known request is the one it was reserved with.
def validateKnownManifest (known : WitnessReplayEntry) (manifest : ActionManifestV1) :
    Except WitnessEngineError Unit := do
  let digest ← orRefuse manifest.digest .invalid
  rejectIf (known.actionManifestDigest != digest) (refused .wrongScope)

def reserveKnown (identity : WitnessEngineIdentity) (nowMs : UInt64) (request : WitnessRequestV1)
    (manifest : ActionManifestV1) (logical : WitnessLogicalState) (known : WitnessReplayEntry) :
    Drawing (Plan WitnessProgress) := do
  let same ← check (sameRequest known.request request)
  if same then do
    check (validateRequestManifest request manifest)
    check (validateKnownManifest known manifest)
    return .answer (match known.response with
      | some response => .stable response
      | none => .reserved)
  else do
    check (rejectIf (known.state != .reserved) (refused .replayConflict))
    let response ← denialResponse identity known.request known.actionManifestDigest .replayConflict
      (nextGeneration logical) nowMs
    let logical ← check (updateEntry logical (requestKey request) fun entry =>
      { entry with state := .denied, response := some response })
    return .write logical fun _ => .ok (.stable response)

def replayIsFull (logical : WitnessLogicalState) (vaultId : VaultId) : Bool :=
  decide (logical.replay.size ≥ MAX_REPLAY_RECORDS_PER_SERVICE)
    || decide ((logical.replay.keys.filter fun key => key.1 == vaultId).length ≥ MAX_REPLAY_RECORDS_PER_VAULT)

def reservePlan (identity : WitnessEngineIdentity) (nowMs : UInt64) (policy : PolicyState)
    (request : WitnessRequestV1) (manifest : ActionManifestV1) (state : PersistedWitnessState) :
    Drawing (Plan WitnessProgress) := do
  match state.logical.replay[requestKey request]? with
  | some known => reserveKnown identity nowMs request manifest state.logical known
  | none => do
    let _ ← check (validateRequest identity policy state.logical request manifest nowMs)
    check (rejectIf (replayIsFull state.logical request.vaultId) (refused .capacityExhausted))
    let actionManifestDigest ← check (orRefuse manifest.digest .invalid)
    let retainThroughMs ← check (orReject (checkedAdd request.expiresAtMs REPLAY_RETENTION_MS) (refused .invalid))
    let entry : WitnessReplayEntry := {
      request
      actionManifestDigest
      state := .reserved
      retainThroughMs
      approvals := []
      cancellation := none
      response := none }
    return .write { state.logical with replay := state.logical.replay.insert (requestKey request) entry }
      fun _ => .ok .reserved

-- The decisions a tally is made of: the recorded ones that are still current, then the submitted ones,
-- each checked against the request.
def mergeApprovals (recorded submitted : List ApprovalDecisionV1) (request : WitnessRequestV1)
    (manifest : ActionManifestV1) (validated : ValidatedRequest) (nowMs : UInt64) :
    Except WitnessEngineError (List ApprovalDecisionV1) := do
  recorded.forM fun approval => validateApprovalStatic approval request manifest validated
  submitted.forM fun approval => validateApproval approval request manifest validated nowMs
  normalizeApprovals ((recorded.filter fun approval => approvalIsCurrent approval nowMs) ++ submitted)

def denialReason (tally : ApprovalTally) : WitnessReasonV1 :=
  if tally.conflicted then .approvalConflict else .approvalDenied

def decideDeny (identity : WitnessEngineIdentity) (nowMs : UInt64) (request : WitnessRequestV1)
    (known : WitnessReplayEntry) (approvals : List ApprovalDecisionV1) (reason : WitnessReasonV1)
    (logical : WitnessLogicalState) : Drawing (Plan WitnessProgress) := do
  let response ← denialResponse identity request known.actionManifestDigest reason (nextGeneration logical) nowMs
  let logical ← check (updateEntry logical (requestKey request) fun entry =>
    { entry with approvals, state := .denied, response := some response })
  return .write logical fun _ => .ok (.stable response)

def decideCounted (identity : WitnessEngineIdentity) (nowMs : UInt64) (request : WitnessRequestV1)
    (manifest : ActionManifestV1) (validated : ValidatedRequest) (known : WitnessReplayEntry)
    (accepted : List ApprovalDecisionV1) (logical : WitnessLogicalState) : Drawing (Plan WitnessProgress) := do
  let tally := tallyApprovals accepted validated.rule
  let threshold := validated.rule.approvalThreshold.toNat
  if tally.approved ≥ threshold then do
    let response ← approvalResponse identity request manifest validated (nextGeneration logical) nowMs
    let logical ← check (updateEntry logical (requestKey request) fun entry =>
      { entry with approvals := accepted, state := .approved, response := some response })
    return .write logical fun _ => .ok (.stable response)
  else if tally.approved + tally.undecided < threshold then
    decideDeny identity nowMs request known accepted (denialReason tally) logical
  else if accepted ≠ known.approvals then do
    let logical ← check (updateEntry logical (requestKey request) fun entry => { entry with approvals := accepted })
    return .write logical fun _ => .ok .pending
  else return .answer .pending

def decidePlan (identity : WitnessEngineIdentity) (nowMs : UInt64) (policy : PolicyState)
    (request : WitnessRequestV1) (manifest : ActionManifestV1) (approvals : List ApprovalDecisionV1)
    (state : PersistedWitnessState) : Drawing (Plan WitnessProgress) := do
  let known ← check (orReject state.logical.replay[requestKey request]? (refused .invalid))
  let same ← check (sameRequest known.request request)
  check (rejectIf (!same) (refused .replayConflict))
  check (validateRequestManifest request manifest)
  check (validateKnownManifest known manifest)
  match known.response with
  | some response => return .answer (.stable response)
  | none =>
    match validateRequest identity policy state.logical request manifest nowMs with
    | .error error =>
      if error.reason = .expired then
        decideDeny identity nowMs request known known.approvals .expired state.logical
      else check (.error error)
    | .ok validated => do
      check (validateKnownManifest known manifest)
      let accepted ← check (mergeApprovals known.approvals approvals request manifest validated nowMs)
      decideCounted identity nowMs request manifest validated known accepted state.logical

def Plan.execute {α : Type} (context : EngineContext) (state : PersistedWitnessState) : Plan α → EngineM α
  | .answer reply => return reply
  | .write logical reply => do
    let state ← commitAndPublish context.identity { state with logical } context.wallTimeMs
    check (reply state)

def perform {α : Type} (context : EngineContext) (plan : PersistedWitnessState → Drawing (Plan α)) : EngineM α := do
  let state ← readyState context.identity
  check (requireSafeClock state context.wallTimeMs)
  let plan ← check ((plan state).value context.entropy)
  plan.execute context state

namespace WitnessEngine

variable (context : EngineContext)

def checkReady : EngineM Unit := perform context fun _ => return .answer ()

def operationalStatus : EngineM WitnessOperationalStatus :=
  perform context (operationalStatusPlan context.wallTimeMs)

def compactReplay : EngineM Nat := perform context (compactReplayPlan context.wallTimeMs)

def registerVault (policy : PolicyState) (acceptedRegistration : RegistrationBytes)
    (checkpoint : VaultPolicyCheckpointV1) (currentPolicyMaterial : PolicyMaterialBytes) :
    EngineM WitnessCheckpointAcknowledgementV1 := do
  check (rejectIf (acceptedRegistration.isEmpty || currentPolicyMaterial.isEmpty) (refused .invalid))
  perform context (registerVaultPlan context.identity context.wallTimeMs policy acceptedRegistration checkpoint
    currentPolicyMaterial)

def advanceCheckpoint (policy : PolicyState) (checkpoint : VaultPolicyCheckpointV1)
    (currentPolicyMaterial : PolicyMaterialBytes) : EngineM WitnessCheckpointAcknowledgementV1 := do
  check (rejectIf currentPolicyMaterial.isEmpty (refused .invalid))
  perform context (advanceCheckpointPlan context.identity context.wallTimeMs policy checkpoint
    currentPolicyMaterial)

def cancel (policy : PolicyState) (request : WitnessRequestV1) (cancellation : RequestCancellationV1) :
    EngineM CancellationProgress :=
  perform context (cancelPlan context.identity context.wallTimeMs policy request cancellation)

def reserve (policy : PolicyState) (request : WitnessRequestV1) (manifest : ActionManifestV1) :
    EngineM WitnessProgress :=
  perform context (reservePlan context.identity context.wallTimeMs policy request manifest)

def decide (policy : PolicyState) (request : WitnessRequestV1) (manifest : ActionManifestV1)
    (approvals : List ApprovalDecisionV1) : EngineM WitnessProgress := do
  check (rejectIf (Decidable.decide (approvals.length > MAX_RECORDED_APPROVALS)) (refused .capacityExhausted))
  perform context (decidePlan context.identity context.wallTimeMs policy request manifest approvals)

end WitnessEngine

end Jury.Engine
