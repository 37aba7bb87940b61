import Jury.Access.Session

-- What an approved access of a session rests on: the request that its provider holds against the request that the
-- session was shown.
namespace Jury.Access

open Lib Protocol Vault Witness Policy Engine

variable {nowMs : UInt64} {after session : PrincipalVaultSession}
variable {binding : WitnessRequestBinding} {provider : ItemAccessProvider} {request : RevisionAccessRequest}

variable {α ε : Type} {value : α} {call : SessionCall}

namespace PrincipalVaultSession

theorem checkLive_eq_ok {u : Unit} (h : checkLive nowMs session = .ok u after) : after = session := by
  simp only [checkLive, get_bind] at h
  split at h
  · exact absurd h throw_ne_ok
  split at h
  · exact absurd h throw_ne_ok
  split at h
  · exact absurd h throw_ne_ok
  · exact (state_pure_eq_ok.mp h).2.symm

theorem outcomeForPhase_ne_approved (phase : SessionPhase) (value : α) :
    outcomeForPhase phase ≠ .witnessedApproved value := by
  cases phase <;> exact nofun

theorem finish_ne_approved {phase : SessionPhase} : ¬ finish phase session = .ok (.witnessedApproved value) after := by
  simp only [finish, state_eq_ok]
  exact fun h => outcomeForPhase_ne_approved phase value h.1

theorem applyWitnessStatus_ne_approved {binding : Option WitnessRequestBinding} {status : WitnessedAccessStatus} :
    ¬ applyWitnessStatus binding status session = .ok (.witnessedApproved value) after := by
  cases status with
  | pending =>
    simp only [applyWitnessStatus, state_eq_ok]
    exact fun h => nomatch h.1
  | _ => exact finish_ne_approved

theorem conclude_approved {attempt : AccessAttempt} {outcome : Except (ItemAccessError ε) (ItemAccessOutcome α)}
    (h : conclude attempt token outcome session = .ok (.witnessedApproved value) after) :
    outcome = .ok (.complete .witnessedApproved value) ∧ attempt.binding.isSome = true := by
  cases outcome with
  | error error =>
    cases error with
    | provider => exact absurd h finish_ne_approved
    | consumer => exact absurd h finish_ne_approved
  | ok outcome =>
    cases outcome with
    | witnessed status =>
      simp only [conclude] at h
      split at h
      · exact absurd h finish_ne_approved
      · exact absurd h applyWitnessStatus_ne_approved
    | complete authority completed =>
      cases authority with
      | direct =>
        simp only [conclude, get_bind] at h
        split at h
        · exact absurd h finish_ne_approved
        · simp only [state_eq_ok] at h
          cases h.1
      | witnessedApproved =>
        simp only [conclude, get_bind] at h
        split at h
        · exact absurd h finish_ne_approved
        next hmatches =>
          simp only [state_eq_ok] at h
          cases h.1
          exact ⟨rfl, by simpa [Option.isSome_iff_ne_none] using hmatches⟩

variable [Crypto]

theorem checkBinding_admitted (h : session.checkBinding (some binding) token nowMs = .admitted) :
    session.validateWitnessBinding binding token nowMs = .ok () := by
  unfold checkBinding at h
  split at h
  · cases h
  simp only at h
  split at h
  · cases h
  split at h
  · split at h <;> cases h
  next hvalid =>
    obtain ⟨_, hok⟩ := exists_eq_ok_of_isOk (by simpa using hvalid)
    exact hok

variable [ContentCrypto]

-- What an approved access went through: the part that was asked for, the binding that was shown, and a provider
-- that completed under witnessed authority.
structure Approved (session : PrincipalVaultSession) (provider : ItemAccessProvider) (attempt : AccessAttempt)
    (binding : WitnessRequestBinding) (envelope : ItemEnvelopeV1) (target : RevisionAccessTarget) : Prop where
  found : session.publicVault.envelope attempt.itemId = some envelope
  current : RevisionAccessTarget.current session.publicVault.policy envelope session.principalId attempt.contentRole
    attempt.capability = .ok target
  shown : attempt.binding = some binding
  valid : session.validateWitnessBinding binding
    (.current session.publicVault.policy target attempt.capability) attempt.nowMs = .ok ()
  completed : ∃ (α ε : Type) (consumer : ScopedRevisionAccess → Consumed α ε) (value : α),
    provider.accessRevision
      { policy := session.publicVault.policy, envelope, target, capability := attempt.capability }
      attempt.cancellation consumer = .ok (.complete .witnessedApproved value)

theorem accessRevision_approved {attempt : AccessAttempt}
    {consumer : ScopedRevisionAccess → Except AccessProviderErrorKind α}
    (h : accessRevision provider attempt consumer session = .ok (.witnessedApproved value) after) :
    ∃ binding envelope target, Approved session provider attempt binding envelope target := by
  simp only [accessRevision, state_bind_eq_ok] at h
  obtain ⟨_, live, hlive, h⟩ := h
  obtain rfl := checkLive_eq_ok hlive
  obtain ⟨_, _, hget, h⟩ := h
  cases hget
  split at h
  · exact absurd h finish_ne_approved
  simp only [state_eq_ok, eq_ok] at h
  obtain ⟨envelope, _, ⟨henvelope, rfl⟩, target, _, ⟨htarget, rfl⟩, h⟩ := h
  generalize hadmitted : live.checkBinding _ _ _ = checked at h
  cases checked with
  | terminal => exact absurd h finish_ne_approved
  | invalid => exact absurd h throw_ne_ok
  | early =>
    simp only [state_eq_ok] at h
    cases h.1
  | admitted =>
    obtain ⟨hcompleted, hshown⟩ := conclude_approved h
    obtain ⟨binding, hbinding⟩ := Option.isSome_iff_exists.mp hshown
    rw [hbinding] at hadmitted
    exact ⟨binding, envelope, target, henvelope, htarget, hbinding, checkBinding_admitted hadmitted, _, _, _, _,
      hcompleted⟩

end PrincipalVaultSession

theorem witnessAccessRule_policy {state : PolicyState} {itemId : ItemId}
    (h : state.witnessAccessRule itemId operation = .ok rule) :
    ∃ authority policy, state.witnessedPolicy itemId = .ok (authority, policy) ∧
      rule.policyId = policy.witnessPolicyId ∧ rule.policyRevision = policy.revision ∧
      rule.policyDigest = authority.policyDigest := by
  simp only [PolicyState.witnessAccessRule, eq_ok] at h
  obtain ⟨⟨authority, policy⟩, hpolicy, _, -, rfl⟩ := h
  exact ⟨authority, policy, hpolicy, rfl, rfl, rfl⟩

variable [Crypto]

-- A request that was signed for one part of an item as the policy has it.
structure SignedFor (signed : WitnessRequestV1) (target : RevisionAccessTarget) (capability : Capability) : Prop where
  vault : signed.vaultId = target.vaultId
  item : signed.itemId = target.itemId ∧ signed.keyEpoch = target.keyEpoch
  content : signed.contentRole = target.contentRole ∧ signed.revision = target.revision ∧
    signed.revisionSealId = target.revisionSealId
  policy : signed.vaultPolicySequence = target.policySequence ∧ signed.vaultPolicyHash = target.policyRevisionHash
  requester : signed.requesterPrincipalId = target.principalId ∧ signed.requestedAccessRole = target.accessRole ∧
    signed.itemAccessMode = target.itemAccessMode
  capability : operationCapability signed.operation = capability

theorem signedFor_of_preflight {checkpoint : VaultPolicyCheckpointV1} {manifest : ActionManifestV1}
    (hpublic : PublicRequest request.policy checkpoint signed manifest validated)
    (hpreflight : preflightWitnessed request signed = .ok ()) : SignedFor signed request.target request.capability := by
  simp only [preflightWitnessed, eq_ok, Bool.not_eq_false'] at hpreflight
  obtain ⟨_, hmatches, -⟩ := hpreflight
  simp only [targetMatches, holds, and_assoc] at hmatches
  obtain ⟨-, hvault, -, hprin, hitem, hepoch, hrole, hrev, hseal, hseq, hhash, haccess, hmode, hcapability⟩ := hmatches
  have hgranted := hpublic.granted
  exact ⟨hgranted.vault.1.trans hvault.symm, ⟨hitem.symm, hepoch.symm⟩, ⟨hrole.symm, hrev.symm, hseal.symm⟩,
    ⟨hseq.symm, hgranted.history.2.trans hhash.symm⟩, ⟨hprin.symm, haccess.symm, hmode.symm⟩,
    hcapability.symm⟩

theorem granted_intended {policy : PolicyState} {witnessPolicy : WitnessPolicy}
    (h : Granted policy signed rule witnessPolicy slot) :
    ∃ digest, signed.intendedWitnessSetDigest = .ok digest ∧ policy.intendedWitnessSetDigest signed.itemId = .ok digest := by
  have hwits := h.witnesses
  simp only [validateWitnessSet, eq_ok, bne_eq_false_iff_eq]
    at hwits
  obtain ⟨_, -, _, -, _, -, requested, hrequested, expected, hexp, _, rfl, -⟩ := hwits
  exact ⟨requested, hrequested, hexp⟩

structure BindingValid (session : PrincipalVaultSession) (binding : WitnessRequestBinding) (token : RevisionToken) :
    Prop where
  revision : binding.revision = token
  checkpoint : session.witnessPolicyCheckpointDigest = some binding.policyCheckpointDigest
  policy : ∃ rule, session.publicVault.policy.witnessAccessRule token.itemId binding.operation = .ok rule ∧
    binding.witnessPolicyId = rule.policyId ∧ binding.witnessPolicyRevision = rule.policyRevision ∧
    binding.witnessPolicyDigest = rule.policyDigest
  witnesses : session.publicVault.policy.intendedWitnessSetDigest token.itemId = .ok binding.intendedWitnessSetDigest

theorem validateWitnessBinding_eq_ok (h : session.validateWitnessBinding binding token nowMs = .ok ()) :
    BindingValid session binding token := by
  simp only [PrincipalVaultSession.validateWitnessBinding, eq_ok, passed, and_assoc] at h
  obtain ⟨checkpoint, hckpt, _, -, authority, -, rule, hrule, intended, hint, -, hrev, hdigest, -, -, -, hid, hpolicy,
    hpolicyDigest, hset, -⟩ := h
  exact ⟨hrev, hdigest ▸ hckpt, ⟨rule, hrule, hid, hpolicy, hpolicyDigest⟩, hset ▸ hint⟩

variable [ContentCrypto]

theorem accessRevision_witnessed {cancellation : CancellationCheck} {consumer : ScopedRevisionAccess → Consumed α ε}
    (h : provider.accessRevision request cancellation consumer = .ok (.complete .witnessedApproved value)) :
    ∃ witnessed validated, provider = .witnessed witnessed ∧
      PublicRequest request.policy witnessed.checkpoint witnessed.signedRequest witnessed.manifest validated ∧
      preflightWitnessed request witnessed.signedRequest = .ok () := by
  cases provider with
  | direct provider =>
    simp only [ItemAccessProvider.accessRevision, DirectItemAccessProvider.accessRevision] at h
    repeat' (split at h)
    all_goals cases h
  | witnessed provider =>
    simp only [ItemAccessProvider.accessRevision, WitnessedItemAccessProvider.accessRevision] at h
    cases hsecret : provider.reconstruct request cancellation.accessed with
    | error halt =>
      rw [hsecret] at h
      cases halt <;> cases h
    | ok reconstructed =>
      simp only [WitnessedItemAccessProvider.reconstruct, eq_ok, validatePublicRequest_eq_ok] at hsecret
      obtain ⟨_, -, validated, hpublic, _, hpreflight, -⟩ := hsecret
      exact ⟨provider, validated, rfl, hpublic, hpreflight⟩

def SessionCall.attempt (session : PrincipalVaultSession) : SessionCall → Option (ItemAccessProvider × AccessAttempt)
  | discoverDescriptor provider itemId binding nowMs cancellation =>
    some (provider, { itemId, contentRole := .descriptor, capability := .read, binding, nowMs, cancellation })
  | openItem provider selector capability binding nowMs cancellation =>
    (session.resolve selector).toOption.map fun itemId =>
      (provider, { itemId, contentRole := .body, capability, binding, nowMs, cancellation })
  | _ => none

theorem SessionCall.perform_approved (h : call.perform session = .ok answer after)
    (happroved : answer.isApproved = true) :
    ∃ provider attempt binding envelope target, call.attempt session = some (provider, attempt) ∧
      PrincipalVaultSession.Approved session provider attempt binding envelope target := by
  cases call with
  | discoverDescriptor provider itemId binding nowMs cancellation =>
    simp only [perform, state_map_eq_ok] at h
    obtain ⟨outcome, h, rfl⟩ := h
    simp only [PrincipalVaultSession.discoverDescriptor, get_bind] at h
    split at h
    · simp only [state_eq_ok] at h
      obtain ⟨_, _, -, rfl, -⟩ := h
      cases happroved
    · simp only [state_bind_eq_ok] at h
      obtain ⟨outcome, reached, haccess, h⟩ := h
      cases outcome with
      | witnessedApproved descriptor =>
        obtain ⟨shown, envelope, target, hfound⟩ := PrincipalVaultSession.accessRevision_approved haccess
        exact ⟨_, _, shown, envelope, target, rfl, hfound⟩
      | direct descriptor =>
        simp only [state_eq_ok] at h
        obtain ⟨_, _, -, rfl, -⟩ := h
        cases happroved
      | _ =>
        obtain ⟨rfl, -⟩ := state_pure_eq_ok.mp h
        cases happroved
  | openItem provider selector capability binding nowMs cancellation =>
    simp only [perform, state_map_eq_ok] at h
    obtain ⟨outcome, h, rfl⟩ := h
    simp only [PrincipalVaultSession.openItem, state_eq_ok] at h
    obtain ⟨itemId, _, ⟨hitem, rfl⟩, outcome, reached, haccess, h⟩ := h
    cases outcome with
    | witnessedApproved state =>
      obtain ⟨shown, envelope, target, hfound⟩ := PrincipalVaultSession.accessRevision_approved haccess
      refine ⟨_, _, shown, envelope, target, ?_, hfound⟩
      simp only [attempt, hitem]
      rfl
    | direct state =>
      simp only [state_eq_ok] at h
      obtain ⟨_, _, -, rfl, -⟩ := h
      cases happroved
    | _ =>
      obtain ⟨rfl, -⟩ := state_pure_eq_ok.mp h
      cases happroved
  | preflightItems =>
    simp only [perform, state_map_eq_ok] at h
    obtain ⟨_, -, rfl⟩ := h
    cases happroved
  | refreshSame | cancel | lock =>
    simp only [perform, state_eq_ok] at h
    obtain ⟨_, _, -, rfl, -⟩ := h
    cases happroved

structure WitnessRequestBinding.MadeFrom (binding : WitnessRequestBinding) (signed : WitnessRequestV1) : Prop where
  request : signed.digest = .ok binding.requestDigest
  manifest : signed.actionManifestDigest = binding.actionManifestDigest
  workload : signed.workloadDigest = binding.workloadDigest
  operation : signed.operation = binding.operation
  checkpoint : signed.policyCheckpointDigest = binding.policyCheckpointDigest

-- The request that a provider completed with is the one that the session was shown, for the revision that the
-- session has of the item.
structure UsedShown (session : PrincipalVaultSession) (attempt : AccessAttempt) (binding : WitnessRequestBinding)
    (provider : WitnessedItemAccessProvider) : Prop where
  request : provider.signedRequest.digest = .ok binding.requestDigest
  manifest : provider.manifest.digest = .ok binding.actionManifestDigest
  workload : provider.signedRequest.workloadDigest = binding.workloadDigest
  operation : provider.signedRequest.operation = binding.operation
  policy : provider.signedRequest.witnessPolicyId = binding.witnessPolicyId ∧
    provider.signedRequest.witnessPolicyRevision = binding.witnessPolicyRevision ∧
    provider.signedRequest.witnessPolicyDigest = binding.witnessPolicyDigest
  checkpoint : provider.checkpoint.digest = .ok binding.policyCheckpointDigest
  witnesses : provider.signedRequest.intendedWitnessSetDigest = .ok binding.intendedWitnessSetDigest
  current : ∃ envelope target, session.publicVault.envelope attempt.itemId = some envelope ∧
    RevisionAccessTarget.current session.publicVault.policy envelope session.principalId attempt.contentRole
      attempt.capability = .ok target ∧
    SignedFor provider.signedRequest target attempt.capability

theorem PrincipalVaultSession.Approved.used_shown_iff {attempt : AccessAttempt}
    (h : PrincipalVaultSession.Approved session provider attempt binding envelope target) :
    ∃ witnessed, provider = .witnessed witnessed ∧
      (UsedShown session attempt binding witnessed ↔ binding.MadeFrom witnessed.signedRequest) := by
  obtain ⟨_, _, _, _, hcompleted⟩ := h.completed
  obtain ⟨witnessed, validated, rfl, hpublic, hpreflight⟩ := accessRevision_witnessed hcompleted
  refine ⟨witnessed, rfl, fun hused => ?_, fun hmade => ?_⟩
  · have hckpt := hused.checkpoint
    rw [hpublic.checkpointDigest] at hckpt
    have hman := hused.manifest
    rw [hpublic.forManifest.digest] at hman
    exact ⟨hused.request, Except.ok.inj hman, hused.workload, hused.operation, Except.ok.inj hckpt⟩
  · have hsigned := signedFor_of_preflight hpublic hpreflight
    have hvalid := validateWitnessBinding_eq_ok h.valid
    have hitem : witnessed.signedRequest.itemId = target.itemId := hsigned.item.1
    -- Both name the policy that the slots of the item name.
    obtain ⟨rule, hrule, hid, hrev, hdigest⟩ := hvalid.policy
    obtain ⟨authority, policy, hpolicy, hruleId, hruleRevision, hruleDigest⟩ := witnessAccessRule_policy hrule
    obtain ⟨authority', policy', hpolicy', hsignedId, hsignedRevision, hsignedDigest⟩ :=
      witnessAccessRule_policy hpublic.granted.applies
    rw [hitem] at hpolicy'
    obtain ⟨rfl, rfl⟩ := Prod.mk.inj (ok_unique hpolicy hpolicy')
    obtain ⟨hnamedId, hnamedRevision, hnamedDigest⟩ := hpublic.granted.named
    obtain ⟨intended, hint, hexp⟩ := granted_intended hpublic.granted
    rw [hitem] at hexp
    refine ⟨hmade.request, ?_, hmade.workload, hmade.operation, ⟨?_, ?_, ?_⟩, ?_, ?_, envelope, target, h.found,
      h.current, hsigned⟩
    · rw [hpublic.forManifest.digest, hmade.manifest]
    · rw [hnamedId, hsignedId, hid, hruleId]
    · rw [hnamedRevision, hsignedRevision, hrev, hruleRevision]
    · rw [hnamedDigest, hsignedDigest, hdigest, hruleDigest]
    · rw [hpublic.checkpointDigest, hmade.checkpoint]
    · rw [hint, ok_unique hexp hvalid.witnesses]

theorem approved_access_used_shown_iff (start : PrincipalVaultSession) (calls : List SessionCall) (call : SessionCall)
    (answer : SessionAnswer) (after : PrincipalVaultSession)
    (hcall : call.perform (SessionCall.after start calls) = .ok answer after) (happroved : answer.isApproved = true) :
    ∃ provider attempt binding,
      call.attempt (SessionCall.after start calls) = some (.witnessed provider, attempt) ∧
      attempt.binding = some binding ∧
      (UsedShown (SessionCall.after start calls) attempt binding provider ↔
        binding.MadeFrom provider.signedRequest) := by
  obtain ⟨provider, attempt, binding, envelope, target, hattempt, hfound⟩ :=
    SessionCall.perform_approved hcall happroved
  obtain ⟨witnessed, rfl, hiff⟩ := hfound.used_shown_iff
  exact ⟨witnessed, attempt, binding, hattempt, hfound.shown, hiff⟩

end Jury.Access

namespace Jury.Access.Sample

open Lib Protocol.Sample Policy.Sample LocalState Engine Engine.Sample

def acceptedCheckpoint : LocalCheckpoint where
  version := 1
  scope := {
    vaultId := dealt.state.vaultId
    genesisFingerprint := dealt.state.genesisFingerprint
    principalId := owner }
  acceptedPublicRevisionHash := dealt.state.terminalRevisionHash
  latestAuditMac := FixedBytes.replicate 32 1
  auditGenesisDigest := FixedBytes.replicate 32 1
  updatedAtMs := 2500
  mac := FixedBytes.replicate 32 1

def started : Except SessionErrorKind PrincipalVaultSession := do
  let vault ← validatePublic dealt.state dealtJournal [dealtEnvelope]
  let limits ← SessionLimits.new 1000 10000
  startSession vault owner acceptedCheckpoint (some (digestOf dealtCheckpoint.digest)) limits 2900

def bindingFor (byte : UInt8) (revision : RevisionToken) : WitnessRequestBinding :=
  let request := descriptorRequest byte
  { requestId := request.requestId.asBytes
    requestDigest := digestOf request.digest
    actionManifestDigest := request.actionManifestDigest
    approvalTargetDigest := request.approvalTargetDigest
    workloadDigest := request.workloadDigest
    policyCheckpointDigest := request.policyCheckpointDigest
    witnessPolicyId := request.witnessPolicyId
    witnessPolicyRevision := request.witnessPolicyRevision
    witnessPolicyDigest := request.witnessPolicyDigest
    intendedWitnessSetDigest := digestOf request.intendedWitnessSetDigest
    requestSessionKeyFingerprint := request.requestSessionKeyFingerprint
    slotId := request.slotId
    operation := request.operation
    issuedAtMs := request.issuedAtMs
    notBeforeMs := request.notBeforeMs
    expiresAtMs := request.expiresAtMs
    revision }

def descriptorToken : RevisionToken where
  suite := dealt.state.suite
  vaultId := dealt.state.vaultId
  genesisFingerprint := dealt.state.genesisFingerprint
  itemId := witnessedItem
  keyEpoch := 1
  contentRole := .descriptor
  revision := 1
  revisionSealId := identifier .revisionSeal 1
  policySequence := dealt.state.sequence
  policyRevisionHash := dealt.state.terminalRevisionHash
  principalId := owner
  accessRole := .owner
  itemAccessMode := .witnessedOnly
  capability := .read

-- The session is shown one request; its provider holds another, with the approvals of both witnesses.
def discover (shown held : UInt8) : SessionCall :=
  .discoverDescriptor (.witnessed (provider held [approvalOf 5 1 held, approvalOf 6 2 held])) witnessedItem
    (some (bindingFor shown descriptorToken)) 3200 uncancelled

def approvedAt (session : PrincipalVaultSession) (call : SessionCall) : Bool :=
  match call.perform session with
  | .ok answer _ => answer.isApproved
  | .error _ _ => false

theorem approvedAt_iff {call : SessionCall} : approvedAt session call = true ↔
      ∃ answer after, call.perform session = .ok answer after ∧ answer.isApproved = true := by
  unfold approvedAt
  cases call.perform session <;> simp

theorem bindingFor_madeFrom (h : (descriptorRequest byte).digest = .ok (digestOf (descriptorRequest byte).digest)) :
    (bindingFor byte revision).MadeFrom (descriptorRequest byte) := by
  unfold bindingFor
  generalize descriptorRequest byte = request at h ⊢
  exact ⟨h, rfl, rfl, rfl, rfl⟩

theorem shown_request_used : ∃ session answer after, started = .ok session ∧
    (discover 1 1).perform (SessionCall.after session []) = .ok answer after ∧ answer.isApproved = true ∧
    ∃ attempt, UsedShown session attempt (bindingFor 1 descriptorToken)
      (provider 1 [approvalOf 5 1 1, approvalOf 6 2 1]) := by
  obtain ⟨session, hstarted, happroved⟩ := returns_iff.mp
    (by decide +kernel : Returns started (fun session => approvedAt session (discover 1 1)) = true)
  obtain ⟨answer, after, hcall, happroved⟩ := approvedAt_iff.mp happroved
  obtain ⟨provider, attempt, binding, hattempt, hbinding, hiff⟩ :=
    approved_access_used_shown_iff session [] (discover 1 1) answer after hcall happroved
  cases hattempt
  cases hbinding
  exact ⟨session, answer, after, hstarted, hcall, happroved, _,
    hiff.mpr (bindingFor_madeFrom (by decide +kernel))⟩

theorem other_request_approved : ∃ session answer after, started = .ok session ∧
    (discover 1 2).perform session = .ok answer after ∧ answer.isApproved = true ∧
    ∀ attempt, ¬ UsedShown session attempt (bindingFor 1 descriptorToken)
      (provider 2 [approvalOf 5 1 2, approvalOf 6 2 2]) := by
  obtain ⟨session, hstarted, happroved⟩ := returns_iff.mp
    (by decide +kernel : Returns started (fun session => approvedAt session (discover 1 2)) = true)
  obtain ⟨answer, after, hcall, happroved⟩ := approvedAt_iff.mp happroved
  refine ⟨session, answer, after, hstarted, hcall, happroved, fun attempt hused => ?_⟩
  have hother : (descriptorRequest 2).digest ≠ .ok (bindingFor 1 descriptorToken).requestDigest := by decide +kernel
  exact hother hused.request

end Jury.Access.Sample
