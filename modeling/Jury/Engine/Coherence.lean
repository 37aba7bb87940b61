import Jury.Engine.Requests.Theorems
import Jury.Engine.Transition.Theorems

-- The records of every state that a witness can reach agree with themselves, with the registered
-- vaults and with the generation counter.
namespace Jury.Engine

open Lib Protocol Witness Policy

theorem nextGeneration_le {logical next : WitnessLogicalState}
    (hnext : next.stateGeneration.toNat = logical.stateGeneration.toNat + 1) :
    (nextGeneration logical).toNat ≤ next.stateGeneration.toNat := by
  rw [nextGeneration, toNat_saturatingAdd, hnext]
  exact min_le_left _ _

theorem denialReason_ne_cancelled (tally : ApprovalTally) : denialReason tally ≠ .cancelled := by
  unfold denialReason
  split <;> decide

variable [Crypto]

def Denies (reason : WitnessReasonV1) (response : WitnessResponseV1) : Prop :=
  response.decision.decision = .deny ∧ response.decision.reason = reason

-- An approval that names the request and carries the contribution that its signature covers.
def ApprovesWithContribution (request : WitnessRequestV1) (response : WitnessResponseV1) : Prop :=
  response.decision.decision = .approve ∧ response.decision.requestId = request.requestId ∧
    request.digest = .ok response.decision.requestDigest ∧
    ∃ contribution digest, response.contribution = some contribution ∧ contribution.digest = .ok digest ∧
      response.decision.contributionDigest = some digest

structure CoherentRecord (logical : WitnessLogicalState) (key : ReplayKey) (entry : WitnessReplayEntry) : Prop where
  key : key = requestKey entry.request
  reserved : entry.state = .reserved ↔ entry.response = none
  approved : entry.state = .approved ↔
    ∃ response, entry.response = some response ∧ ApprovesWithContribution entry.request response
  cancelled : entry.state = .cancelled ↔
    entry.cancellation.isSome = true ∧ ∃ response, entry.response = some response ∧ Denies .cancelled response
  retained : entry.retainThroughMs.toNat = entry.request.expiresAtMs.toNat + 86400000
  manifest : entry.actionManifestDigest = entry.request.actionManifestDigest
  response : ∀ response, entry.response = some response →
    entry.request.digest = .ok response.decision.requestDigest ∧
      response.decision.stateGeneration.toNat ≤ logical.stateGeneration.toNat
  registered : entry.state = .reserved → ∃ vault, logical.vaults[entry.request.vaultId]? = some vault ∧
    vault.currentCheckpoint.digest = .ok entry.request.policyCheckpointDigest

section Steps

variable {next : WitnessLogicalState} {key : ReplayKey} {response : WitnessResponseV1}

section Known

variable (h : CoherentRecord logical key known)

include h

theorem CoherentRecord.carry (hgen : logical.stateGeneration.toNat ≤ next.stateGeneration.toNat)
    (hreg : known.state = .reserved → next.vaults[known.request.vaultId]? = logical.vaults[known.request.vaultId]?) :
    CoherentRecord next key known := by
  refine { h with response := fun response hresp => ?_, registered := fun hres => ?_ }
  · exact ⟨(h.response response hresp).1, (h.response response hresp).2.trans hgen⟩
  · rw [hreg hres]
    exact h.registered hres

theorem CoherentRecord.record (accepted : List ApprovalDecisionV1) :
    CoherentRecord logical key { known with approvals := accepted } :=
  ⟨h.key, h.reserved, h.approved, h.cancelled, h.retained, h.manifest, h.response, h.registered⟩

theorem CoherentRecord.deny (accepted : List ApprovalDecisionV1)
    (hdenial : IsDenial known.request actionManifestDigest reason generation nowMs response)
    (hreason : reason ≠ .cancelled) (hgen : generation.toNat ≤ next.stateGeneration.toNat) :
    CoherentRecord next key { known with approvals := accepted, state := .denied, response := some response } where
  key := h.key
  reserved := by simp
  approved := by simp [ApprovesWithContribution, hdenial.decision]
  cancelled := by simp [Denies, hdenial.reason, hreason]
  retained := h.retained
  manifest := h.manifest
  response := by
    rintro _ ⟨⟩
    exact ⟨hdenial.requestDigest, hdenial.stateGeneration.symm ▸ hgen⟩
  registered := by simp

theorem CoherentRecord.approve (accepted : List ApprovalDecisionV1) {manifest : ActionManifestV1}
    (happ : IsApproval known.request manifest generation nowMs response)
    (hgen : generation.toNat ≤ next.stateGeneration.toNat) :
    CoherentRecord next key { known with approvals := accepted, state := .approved, response := some response } where
  key := h.key
  reserved := by simp
  approved := by
    refine ⟨fun _ => ⟨response, rfl, ?_⟩, fun _ => rfl⟩
    exact ⟨happ.decision, happ.requestId, happ.requestDigest, happ.contribution⟩
  cancelled := by simp [Denies, happ.decision]
  retained := h.retained
  manifest := h.manifest
  response := by
    rintro _ ⟨⟩
    exact ⟨happ.requestDigest, happ.stateGeneration.symm ▸ hgen⟩
  registered := by simp

end Known

theorem coherentRecord_cancelled {request : WitnessRequestV1} {bytes : CancellationBytes} {retainThroughMs : UInt64}
    (accepted : List ApprovalDecisionV1)
    (hdenial : IsDenial request request.actionManifestDigest .cancelled generation nowMs response)
    (hretained : retainThroughMs.toNat = request.expiresAtMs.toNat + 86400000)
    (hman : actionManifestDigest = request.actionManifestDigest)
    (hgen : generation.toNat ≤ next.stateGeneration.toNat) :
    CoherentRecord next (requestKey request) {
      request, actionManifestDigest, state := .cancelled, retainThroughMs, approvals := accepted,
      cancellation := some bytes, response := some response } where
  key := rfl
  reserved := by simp
  approved := by simp [ApprovesWithContribution, hdenial.decision]
  cancelled := by simp [Denies, hdenial.decision, hdenial.reason]
  retained := hretained
  manifest := hman
  response := by
    rintro _ ⟨⟩
    exact ⟨hdenial.requestDigest, hdenial.stateGeneration.symm ▸ hgen⟩
  registered := by simp

theorem EntryStep.coherent (h : EntryStep context operation logical key old new)
    (hnext : next.stateGeneration.toNat = logical.stateGeneration.toNat + 1) (hvaults : next.vaults = logical.vaults)
    (hold : ∀ entry, old = some entry → CoherentRecord logical key entry) :
    ∀ entry, new = some entry → CoherentRecord next key entry := by
  have hgen := nextGeneration_le hnext
  have hcarry : ∀ entry, CoherentRecord logical key entry → CoherentRecord next key entry := fun entry hentry =>
    hentry.carry (by omega) fun _ => by rw [hvaults]
  cases h with
  | kept => exact fun entry hentry => hcarry entry (hold entry hentry)
  | @reserved policy request manifest validated actionManifestDigest retainThroughMs _ hkey hvalid hdigest hretain =>
    rintro _ ⟨⟩
    have hrequest := validateRequest_eq_ok hvalid
    obtain ⟨registered, hreg, hat⟩ := hrequest.registered
    have hretain := checkedAdd_eq_some.mp hretain
    refine ⟨hkey, by simp, by simp, by simp, hretain, ?_, by simp, fun _ => ⟨registered, ?_, hat.named⟩⟩
    · exact ok_unique hdigest hrequest.forManifest.digest
    · rw [hvaults]
      exact hreg
  | conflicted _ _ _ _ hdenial =>
    rintro _ ⟨⟩
    exact (hold _ rfl).deny _ hdenial (by decide) hgen
  | stale _ _ _ hdenial =>
    rintro _ ⟨⟩
    exact (hold _ rfl).deny _ hdenial (by decide) hgen
  | cancelled _ hkey hsame _ _ hdenial =>
    rintro _ ⟨⟩
    subst hkey hsame
    exact coherentRecord_cancelled _ hdenial (hold _ rfl).retained (hold _ rfl).manifest hgen
  | tombstoned _ hkey _ hdenial hretain =>
    rintro _ ⟨⟩
    subst hkey
    exact coherentRecord_cancelled _ hdenial (checkedAdd_eq_some.mp hretain) rfl hgen
  | decided _ _ hdeciding hplanned =>
    rintro _ ⟨⟩
    obtain rfl := hdeciding.same
    have hknown := hold _ rfl
    cases hplanned with
    | expired _ _ _ hdenial => exact hknown.deny _ hdenial (by decide) hgen
    | approved _ _ happ => exact hknown.approve _ happ hgen
    | denied _ _ hdenial => exact hknown.deny _ hdenial (denialReason_ne_cancelled _) hgen
    | recorded => exact (hcarry _ hknown).record _
  | compacted =>
    rintro _ ⟨⟩

end Steps

def CoherentRecords (logical : WitnessLogicalState) : Prop :=
  ∀ (key : ReplayKey) (entry : WitnessReplayEntry), logical.replay[key]? = some entry →
    CoherentRecord logical key entry

section Runs

variable {next : WitnessLogicalState}

-- A reserved record keeps its vault: a new registration is for another vault, and an advance of its own
-- vault has denied it.
theorem VaultStep.reserved_vault (h : VaultStep context operation before after) {key : ReplayKey}
    {entry : WitnessReplayEntry} (hkey : key = requestKey entry.request)
    (hvault : before.vaults[entry.request.vaultId]? = some vault) (hstored : after.replay[key]? = some entry)
    (hres : entry.state = .reserved) :
    after.vaults[entry.request.vaultId]? = before.vaults[entry.request.vaultId]? := by
  cases h with
  | kept hvaults => rw [hvaults]
  | registered _ _ hnew hvaults =>
    rw [hvaults, getElem?_insert_ne]
    intro heq
    rw [heq, hnew] at hvault
    cases hvault
  | advanced _ _ _ _ _ hvaults hstale =>
    rw [hvaults, getElem?_insert_ne]
    intro heq
    exact hstale key entry hstored (hkey ▸ heq) hres

theorem CoherentRecords.stepped {call : Call} (h : CoherentRecords before) (hstepped : Stepped call before after) :
    CoherentRecords after := by
  cases hstepped with
  | @intro planned _ hstep hadv =>
    obtain ⟨hgen, -, hvaults, hreplay, -⟩ := advanceGeneration_eq_ok hadv
    rw [hstep.generation] at hgen
    intro key entry hstored
    rw [hreplay] at hstored
    have hmiddle : CoherentRecord { before with stateGeneration := after.stateGeneration } key entry := by
      refine (hstep.entries key).coherent ?_ ?_ (h key) entry hstored
      · exact hgen
      · rfl
    refine hmiddle.carry le_rfl fun hres => ?_
    obtain ⟨vault, hvault, -⟩ := hmiddle.registered hres
    rw [hvaults]
    exact hstep.vaults.reserved_vault hmiddle.key hvault hstored hres

theorem final_coherentRecords (witnessId : PrincipalId) (calls : List Call) :
    CoherentRecords (engine.final (World.initial witnessId) calls).store.logical := by
  refine final_logical (fun key entry hstored => ?_) fun before after call _ h hstepped => h.stepped hstepped
  cases hstored

theorem replay_entries_coherent (witnessId : PrincipalId) (calls : List Call) (key : ReplayKey)
    (entry : WitnessReplayEntry)
    (hstored : (engine.final (World.initial witnessId) calls).store.logical.replay[key]? = some entry) :
    CoherentRecord (engine.final (World.initial witnessId) calls).store.logical key entry :=
  final_coherentRecords witnessId calls key entry hstored

end Runs

end Jury.Engine

namespace Jury.Engine

open Protocol.Sample Engine.Sample

theorem replay_entries_coherent_reserved :
    ∃ key entry, (engine.final home [registering, reserving 10001 1 (manifest 1 10000 20000)]).store.logical.replay[
        key]? = some entry ∧ entry.state = .reserved ∧
      CoherentRecord (engine.final home [registering, reserving 10001 1 (manifest 1 10000 20000)]).store.logical
        key entry := by
  have hstate : (engine.final home [registering, reserving 10001 1 (manifest 1 10000 20000)]).store.logical.replay[
      requestKey (request 1 (manifest 1 10000 20000))]?.map (·.state) = some .reserved := by decide +kernel
  generalize requestKey (request 1 (manifest 1 10000 20000)) = key at hstate
  generalize [registering, reserving 10001 1 (manifest 1 10000 20000)] = calls at hstate ⊢
  obtain ⟨entry, hstored, hres⟩ := Option.map_eq_some_iff.mp hstate
  exact ⟨key, entry, hstored, hres, replay_entries_coherent _ calls key entry hstored⟩

end Jury.Engine
