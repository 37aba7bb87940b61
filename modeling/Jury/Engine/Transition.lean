import Jury.Engine.Run

-- What one operation can do to the logical state: at most one change of a vault, and for every replay
-- record one of the steps below. Every invariant of the records is derived from these steps.
namespace Jury.Engine

open Lib Protocol Witness Policy

variable {request : WitnessRequestV1}
variable {response : WitnessResponseV1} {manifest : ActionManifestV1}

theorem signDecision_eq_ok (h : signDecision identity decision = .ok signed) :
    ∃ signature, signed = { decision with signature } := by
  simp only [signDecision, eq_ok] at h
  obtain ⟨_, -, signature, -, rfl⟩ := h
  exact ⟨signature, rfl⟩

theorem updateEntry_eq_ok {update : WitnessReplayEntry → WitnessReplayEntry}
    (h : updateEntry logical key update = .ok updated) :
    ∃ entry, logical.replay[key]? = some entry ∧
      updated = { logical with replay := logical.replay.insert key (update entry) } := by
  simp only [updateEntry, eq_ok] at h
  obtain ⟨entry, hentry, rfl⟩ := h
  exact ⟨entry, hentry, rfl⟩

variable [Crypto]

theorem sameRequest_true (h : sameRequest left right = .ok true) : left = right := by
  simp only [sameRequest, eq_ok, orRefuse_eq_ok, beq_iff_eq] at h
  obtain ⟨bytes, hleft, _, hright, rfl⟩ := h
  exact WitnessRequestV1.canonicalBytes_inj hleft hright

theorem sameRequest_false (h : sameRequest left right = .ok false) :
    left ≠ right := by
  simp only [sameRequest, eq_ok, orRefuse_eq_ok, beq_eq_false_iff_ne] at h
  obtain ⟨_, hleft, _, hright, hne⟩ := h
  rintro rfl
  exact hne (ok_unique hleft hright)

structure IsDenial (request : WitnessRequestV1) (actionManifestDigest : Digest32) (reason : WitnessReasonV1)
    (stateGeneration nowMs : UInt64) (response : WitnessResponseV1) : Prop where
  contribution : response.contribution = none
  decision : response.decision.decision = .deny
  reason : response.decision.reason = reason
  requestId : response.decision.requestId = request.requestId
  requestDigest : request.digest = .ok response.decision.requestDigest
  actionManifestDigest : response.decision.actionManifestDigest = actionManifestDigest
  stateGeneration : response.decision.stateGeneration = stateGeneration
  issuedAt : response.decision.issuedAtMs = nowMs

structure IsApproval (request : WitnessRequestV1) (manifest : ActionManifestV1) (stateGeneration nowMs : UInt64)
    (response : WitnessResponseV1) : Prop where
  contribution : ∃ contribution digest, response.contribution = some contribution ∧
    contribution.digest = .ok digest ∧ response.decision.contributionDigest = some digest
  decision : response.decision.decision = .approve
  reason : response.decision.reason = .none
  requestId : response.decision.requestId = request.requestId
  requestDigest : request.digest = .ok response.decision.requestDigest
  actionManifestDigest : manifest.digest = .ok response.decision.actionManifestDigest
  stateGeneration : response.decision.stateGeneration = stateGeneration
  issuedAt : response.decision.issuedAtMs = nowMs

theorem denialResponse_eq_ok
    (h : denialResponse identity request actionManifestDigest reason stateGeneration nowMs entropy =
      .ok response rest) : IsDenial request actionManifestDigest reason stateGeneration nowMs response := by
  simp only [denialResponse, state_eq_ok, orRefuse_eq_ok] at h
  obtain ⟨_, _, -, _, _, -, _, _, ⟨hdigest, -⟩, _, _, ⟨hsigned, -⟩, rfl, -⟩ := h
  obtain ⟨signature, rfl⟩ := signDecision_eq_ok hsigned
  exact ⟨rfl, rfl, rfl, rfl, hdigest, rfl, rfl, rfl⟩

theorem approvalResponse_eq_ok
    (h : approvalResponse identity request manifest validated stateGeneration nowMs entropy = .ok response rest) :
    IsApproval request manifest stateGeneration nowMs response := by
  simp only [approvalResponse, state_eq_ok, orRefuse_eq_ok] at h
  obtain ⟨_, _, -, _, _, ⟨hrequest, -⟩, _, _, ⟨hman, -⟩, contribution, _, -, digest, _, ⟨hdigest, -⟩, _, _, -,
    _, _, ⟨hsigned, -⟩, rfl, -⟩ := h
  obtain ⟨signature, rfl⟩ := signDecision_eq_ok hsigned
  exact ⟨⟨contribution, digest, rfl, hdigest, rfl⟩, rfl, rfl, rfl, hrequest, hman, rfl, rfl⟩

structure Deciding (logical : WitnessLogicalState) (known : WitnessReplayEntry) (request : WitnessRequestV1)
    (manifest : ActionManifestV1) : Prop where
  found : logical.replay[requestKey request]? = some known
  same : known.request = request
  matching : validateRequestManifest request manifest = .ok ()
  digest : manifest.digest = .ok known.actionManifestDigest

structure Counted (context : EngineContext) (policy : ReplayedPolicy) (request : WitnessRequestV1)
    (manifest : ActionManifestV1) (approvals : List ApprovalDecisionV1) (logical : WitnessLogicalState)
    (known : WitnessReplayEntry) (validated : ValidatedRequest) (accepted : List ApprovalDecisionV1) : Prop where
  unanswered : known.response = none
  valid : validateRequest context.identity policy.state logical request manifest context.wallTimeMs = .ok validated
  merged : mergeApprovals known.approvals approvals request manifest validated context.wallTimeMs = .ok accepted

-- What a decide call plans for the record it found: the record it writes, if any, and its answer.
inductive DecidePlanned (context : EngineContext) (policy : ReplayedPolicy) (request : WitnessRequestV1)
    (manifest : ActionManifestV1) (approvals : List ApprovalDecisionV1) (logical : WitnessLogicalState)
    (known : WitnessReplayEntry) : Option WitnessReplayEntry → WitnessProgress → Prop where
  | stable {response : WitnessResponseV1} (hresp : known.response = some response) :
      DecidePlanned context policy request manifest approvals logical known none (.stable response)
  | expired {response : WitnessResponseV1} {error : WitnessEngineError} (hunanswered : known.response = none)
      (hinvalid : validateRequest context.identity policy.state logical request manifest context.wallTimeMs =
        .error error) (hreason : error.reason = .expired)
      (hdenial : IsDenial request known.actionManifestDigest .expired (nextGeneration logical) context.wallTimeMs
        response) :
      DecidePlanned context policy request manifest approvals logical known
        (some { known with state := .denied, response := some response }) (.stable response)
  | approved {response : WitnessResponseV1} {validated : ValidatedRequest} {accepted : List ApprovalDecisionV1}
      (hcounted : Counted context policy request manifest approvals logical known validated accepted)
      (hthr : validated.rule.approvalThreshold.toNat ≤ (tallyApprovals accepted validated.rule).approved)
      (happ : IsApproval request manifest (nextGeneration logical) context.wallTimeMs response) :
      DecidePlanned context policy request manifest approvals logical known
        (some { known with approvals := accepted, state := .approved, response := some response })
        (.stable response)
  | denied {response : WitnessResponseV1} {validated : ValidatedRequest} {accepted : List ApprovalDecisionV1}
      (hcounted : Counted context policy request manifest approvals logical known validated accepted)
      (hshort : (tallyApprovals accepted validated.rule).approved + (tallyApprovals accepted validated.rule).undecided
        < validated.rule.approvalThreshold.toNat)
      (hdenial : IsDenial request known.actionManifestDigest (denialReason (tallyApprovals accepted validated.rule))
        (nextGeneration logical) context.wallTimeMs response) :
      DecidePlanned context policy request manifest approvals logical known
        (some { known with approvals := accepted, state := .denied, response := some response })
        (.stable response)
  | recorded {validated : ValidatedRequest} {accepted : List ApprovalDecisionV1}
      (hcounted : Counted context policy request manifest approvals logical known validated accepted)
      (hshort : (tallyApprovals accepted validated.rule).approved < validated.rule.approvalThreshold.toNat)
      (hpossible : validated.rule.approvalThreshold.toNat ≤
        (tallyApprovals accepted validated.rule).approved + (tallyApprovals accepted validated.rule).undecided) :
      DecidePlanned context policy request manifest approvals logical known
        (some { known with approvals := accepted }) .pending
  | pending {validated : ValidatedRequest}
      (hcounted : Counted context policy request manifest approvals logical known validated known.approvals)
      (hshort : (tallyApprovals known.approvals validated.rule).approved < validated.rule.approvalThreshold.toNat)
      (hpossible : validated.rule.approvalThreshold.toNat ≤ (tallyApprovals known.approvals validated.rule).approved
        + (tallyApprovals known.approvals validated.rule).undecided) :
      DecidePlanned context policy request manifest approvals logical known none .pending

theorem DecidePlanned.unanswered
    (h : DecidePlanned context policy request manifest approvals logical known (some entry) progress) :
    known.response = none := by
  cases h with
  | expired hunanswered => exact hunanswered
  | approved hcounted | denied hcounted | recorded hcounted => exact hcounted.unanswered

-- What an operation that is accepted at this clock reading can do to the record under a key.
inductive EntryStep (context : EngineContext) (operation : Operation) (logical : WitnessLogicalState)
    (key : ReplayKey) : Option WitnessReplayEntry → Option WitnessReplayEntry → Prop where
  | kept (entry : Option WitnessReplayEntry) : EntryStep context operation logical key entry entry
  | reserved {policy : ReplayedPolicy} {request : WitnessRequestV1} {manifest : ActionManifestV1}
      {validated : ValidatedRequest} {actionManifestDigest : Digest32} {retainThroughMs : UInt64}
      (hop : operation = .reserve policy request manifest) (hkey : key = requestKey request)
      (hvalid : validateRequest context.identity policy.state logical request manifest context.wallTimeMs =
        .ok validated)
      (hdigest : manifest.digest = .ok actionManifestDigest)
      (hretain : checkedAdd request.expiresAtMs REPLAY_RETENTION_MS = some retainThroughMs) :
      EntryStep context operation logical key none (some {
        request, actionManifestDigest, state := .reserved, retainThroughMs, approvals := [], cancellation := none,
        response := none })
  | conflicted {policy : ReplayedPolicy} {request : WitnessRequestV1} {manifest : ActionManifestV1}
      {known : WitnessReplayEntry} {response : WitnessResponseV1}
      (hop : operation = .reserve policy request manifest) (hkey : key = requestKey request)
      (hdiff : known.request ≠ request) (hres : known.state = .reserved)
      (hdenial : IsDenial known.request known.actionManifestDigest .replayConflict (nextGeneration logical)
        context.wallTimeMs response) :
      EntryStep context operation logical key (some known)
        (some { known with state := .denied, response := some response })
  | stale {policy : ReplayedPolicy} {checkpoint : VaultPolicyCheckpointV1} {material : PolicyMaterialBytes}
      {known : WitnessReplayEntry} {response : WitnessResponseV1}
      (hop : operation = .advanceCheckpoint policy checkpoint material)
      (hvault : key.1 = checkpoint.vaultId) (hres : known.state = .reserved)
      (hdenial : IsDenial known.request known.actionManifestDigest .stalePolicy (nextGeneration logical)
        context.wallTimeMs response) :
      EntryStep context operation logical key (some known)
        (some { known with state := .denied, response := some response })
  | cancelled {policy : ReplayedPolicy} {request : WitnessRequestV1} {cancellation : RequestCancellationV1}
      {known : WitnessReplayEntry} {bytes : CancellationBytes} {response : WitnessResponseV1}
      (hop : operation = .cancel policy request cancellation) (hkey : key = requestKey request)
      (hsame : known.request = request) (hopen : known.response = none)
      (hvalid : validateEmbeddedRequest context.identity policy.state logical request context.wallTimeMs = .ok ())
      (hdenial : IsDenial request request.actionManifestDigest .cancelled (nextGeneration logical)
        context.wallTimeMs response) :
      EntryStep context operation logical key (some known)
        (some { known with state := .cancelled, cancellation := some bytes, response := some response })
  | tombstoned {policy : ReplayedPolicy} {request : WitnessRequestV1} {cancellation : RequestCancellationV1}
      {bytes : CancellationBytes} {response : WitnessResponseV1} {retainThroughMs : UInt64}
      (hop : operation = .cancel policy request cancellation) (hkey : key = requestKey request)
      (hvalid : validateEmbeddedRequest context.identity policy.state logical request context.wallTimeMs = .ok ())
      (hdenial : IsDenial request request.actionManifestDigest .cancelled (nextGeneration logical)
        context.wallTimeMs response)
      (hretain : checkedAdd request.expiresAtMs REPLAY_RETENTION_MS = some retainThroughMs) :
      EntryStep context operation logical key none (some {
        request, actionManifestDigest := request.actionManifestDigest, state := .cancelled, retainThroughMs,
        approvals := [], cancellation := some bytes, response := some response })
  | decided {policy : ReplayedPolicy} {request : WitnessRequestV1} {manifest : ActionManifestV1}
      {approvals : List ApprovalDecisionV1} {known entry : WitnessReplayEntry} {progress : WitnessProgress}
      (hop : operation = .decide policy request manifest approvals) (hkey : key = requestKey request)
      (hdeciding : Deciding logical known request manifest)
      (hplanned : DecidePlanned context policy request manifest approvals logical known (some entry) progress) :
      EntryStep context operation logical key (some known) (some entry)
  | compacted {entry : WitnessReplayEntry} (hop : operation = .compactReplay)
      (hover : entry.retainThroughMs < context.wallTimeMs) :
      EntryStep context operation logical key (some entry) none

-- What it can do to the registered vaults. An advance leaves no reserved request of its vault behind.
inductive VaultStep (context : EngineContext) (operation : Operation) (before after : WitnessLogicalState) :
    Prop where
  | kept (hvaults : after.vaults = before.vaults)
  | registered {policy : ReplayedPolicy} {registration : RegistrationBytes} {checkpoint : VaultPolicyCheckpointV1}
      {material : PolicyMaterialBytes} (hop : operation = .registerVault policy registration checkpoint material)
      (hvalid : validateCheckpoint policy.state checkpoint context.identity = .ok ())
      (hnew : before.vaults[checkpoint.vaultId]? = none)
      (hvaults : after.vaults = before.vaults.insert checkpoint.vaultId {
        acceptedRegistration := registration, currentCheckpoint := checkpoint, currentPolicyMaterial := material })
  | advanced {policy : ReplayedPolicy} {checkpoint : VaultPolicyCheckpointV1} {material : PolicyMaterialBytes}
      {current : RegisteredWitnessVault} {policies : List WitnessPolicy}
      (hop : operation = .advanceCheckpoint policy checkpoint material)
      (hvalid : validateCheckpointPublic policy.state checkpoint = .ok policies)
      (hcur : before.vaults[checkpoint.vaultId]? = some current)
      (hdiff : current.currentCheckpoint ≠ checkpoint)
      (hsuccessor : validateSuccessor current.currentCheckpoint checkpoint = .ok ())
      (hvaults : after.vaults = before.vaults.insert checkpoint.vaultId {
        current with currentCheckpoint := checkpoint, currentPolicyMaterial := material })
      (hstale : ∀ (key : ReplayKey) (entry : WitnessReplayEntry), after.replay[key]? = some entry →
        key.1 = checkpoint.vaultId → entry.state ≠ .reserved)

structure LogicalStep (context : EngineContext) (operation : Operation) (before after : WitnessLogicalState) :
    Prop where
  witnessId : after.witnessId = before.witnessId
  generation : after.stateGeneration = before.stateGeneration
  clock : after.lastAcceptedWallTimeMs = before.lastAcceptedWallTimeMs
  vaults : VaultStep context operation before after
  entries : ∀ key : ReplayKey, EntryStep context operation before key before.replay[key]? after.replay[key]?

-- A response that an operation returns is the one in the record under its request's key: the record of
-- that request, or of another one that the call has made a conflict of.
structure Delivered (operation : Operation) (logical : WitnessLogicalState) (request : WitnessRequestV1)
    (entry : WitnessReplayEntry) (response : WitnessResponseV1) : Prop where
  called : operation.request? = some request
  stored : logical.replay[requestKey request]? = some entry
  answered : entry.response = some response
  subject : entry.request = request ∨
    (∃ policy manifest, operation = .reserve policy request manifest) ∧ entry.request ≠ request ∧
      response.contribution = none ∧ response.decision.decision = .deny ∧
      response.decision.reason = .replayConflict

def Delivers (operation : Operation) (logical : WitnessLogicalState) (reply : Reply) : Prop :=
  ∀ response, reply.response? = some response → ∃ request entry, Delivered operation logical request entry response

inductive Planned (context : EngineContext) (operation : Operation) (logical : WitnessLogicalState) :
    Plan Reply → Prop where
  | answer {reply : Reply} (hdelivers : Delivers operation logical reply) :
      Planned context operation logical (.answer reply)
  | write {after : WitnessLogicalState} {due : PersistedWitnessState → Except WitnessEngineError Reply}
      (hstep : LogicalStep context operation logical after)
      (hdelivers : ∀ state reply, due state = .ok reply → Delivers operation after reply) :
      Planned context operation logical (.write after due)

inductive Stepped (call : Call) (before after : WitnessLogicalState) : Prop where
  | intro {planned : WitnessLogicalState}
      (hclock : before.lastAcceptedWallTimeMs.toNat ≤ call.context.wallTimeMs.toNat + ACCEPTED_CLOCK_SKEW_MS.toNat)
      (hstep : LogicalStep call.context call.operation before planned)
      (hadv : advanceGeneration planned call.context.wallTimeMs = .ok after)

theorem LogicalStep.insert (h : EntryStep context operation logical key logical.replay[key]? (some entry)) :
    LogicalStep context operation logical { logical with replay := logical.replay.insert key entry } where
  witnessId := rfl
  generation := rfl
  clock := rfl
  vaults := .kept rfl
  entries := by
    intro other
    by_cases heq : other = key
    · subst heq
      rw [Std.ExtTreeMap.getElem?_insert_self]
      exact h
    · rw [getElem?_insert_ne _ _ heq]
      exact .kept _

end Jury.Engine
