import Jury.Engine.Checkpoints
import Jury.Policy.Replay.Theorems

-- An advance is checked against the digest of the current checkpoint, not against the history that the
-- checkpoint was accepted for. Which advances stay on that history, and one that leaves it.
namespace Jury.Engine

open Lib Protocol Vault Witness Policy

variable [Crypto] {checkpoint : VaultPolicyCheckpointV1}

theorem validateCheckpointPublic_sequence {policy : PolicyState}
    (h : validateCheckpointPublic policy checkpoint = .ok policies) :
    checkpoint.vaultPolicySequence = policy.sequence := by
  simp only [validateCheckpointPublic, validateCheckpointPolicy, eq_ok, passed] at h
  obtain ⟨_, -, _, hscope, -⟩ := h
  exact hscope.1.2

-- The history of a policy goes through a checkpoint: at its sequence it has its hash.
def ExtendsHistory (policy : PolicyState) (checkpoint : VaultPolicyCheckpointV1) : Prop :=
  policy.revisionHashes[checkpoint.vaultPolicySequence.toNat]? = some checkpoint.vaultPolicyHash

-- The last revision of a journal was made on top of a checkpoint.
def LastRevisionFollows (journal : PolicyJournalV1) (checkpoint : VaultPolicyCheckpointV1) : Prop :=
  ∃ before revision, journal.revisions = before ++ [revision] ∧
    revision.previousRevisionHash = checkpoint.vaultPolicyHash

theorem extendsHistory_iff {policy : ReplayedPolicy}
    (hseq : policy.state.sequence.toNat = checkpoint.vaultPolicySequence.toNat + 1) :
    ExtendsHistory policy.state checkpoint ↔ LastRevisionFollows policy.journal checkpoint := by
  have hlen := policy.sequence_toNat
  obtain ⟨before, revision, hrevs⟩ : ∃ before revision, policy.journal.revisions = before ++ [revision] := by
    refine ⟨_, _, (List.dropLast_append_getLast (l := policy.journal.revisions) ?_).symm⟩
    rintro hempty
    rw [hempty, List.length_nil] at hlen
    omega
  have hindex : checkpoint.vaultPolicySequence.toNat = before.length := by
    rw [hrevs, List.length_append, List.length_singleton] at hlen
    omega
  have hlink := (policy.journaled.linked before.length revision (by simp [hrevs])).1
  rw [ExtendsHistory, hindex, hlink, Option.some.injEq]
  constructor
  · intro hprev
    exact ⟨before, revision, hrevs, hprev⟩
  · rintro ⟨other, last, hother, hprev⟩
    obtain ⟨-, hlast⟩ := List.append_inj' (hrevs.symm.trans hother) rfl
    obtain rfl := List.singleton_inj.mp hlast
    exact hprev

-- In every state, an accepted advance stays on the history of the checkpoint it replaces exactly if the
-- journal's last revision names that checkpoint's hash; and then the revision was made by an owner of
-- the state that the rest of the journal leads to.
theorem advance_extends_history_iff (world : World) (context : EngineContext) (policy : ReplayedPolicy)
    (checkpoint : VaultPolicyCheckpointV1) (material : PolicyMaterialBytes) (current vault : RegisteredWitnessVault)
    (hcurrent : world.store.logical.vaults[checkpoint.vaultId]? = some current)
    (hvault : (world.serve ⟨context, .advanceCheckpoint policy checkpoint material⟩).2.store.logical.vaults[
      checkpoint.vaultId]? = some vault) (hreplaced : vault ≠ current) :
    (ExtendsHistory policy.state current.currentCheckpoint ↔
      LastRevisionFollows policy.journal current.currentCheckpoint) ∧
    (LastRevisionFollows policy.journal current.currentCheckpoint →
      ∃ before revision prior, policy.journal.revisions = before ++ [revision] ∧
        replayPolicyWithWitnessPolicies { policy.journal with revisions := before } policy.policies = .ok prior ∧
        prior.terminalRevisionHash = current.currentCheckpoint.vaultPolicyHash ∧
        revision.authorPrincipalId ∈ prior.owners) := by
  have hstepped : Stepped ⟨context, .advanceCheckpoint policy checkpoint material⟩ world.store.logical
      (world.serve ⟨context, .advanceCheckpoint policy checkpoint material⟩).2.store.logical := by
    rcases serve_logical world ⟨context, .advanceCheckpoint policy checkpoint material⟩ with hkept | hstepped
    · rw [hkept] at hvault
      exact absurd (some_unique hvault hcurrent) hreplaced
    · exact hstepped
  have hadvances := hstepped.advances hcurrent hvault hreplaced
  obtain ⟨_, _, policies, hop, hvalid⟩ := hadvances.operation
  obtain ⟨rfl, rfl, rfl⟩ := Operation.advanceCheckpoint.inj hop
  have hseq := validateCheckpointPublic_sequence hvalid
  refine ⟨extendsHistory_iff ?_, ?_⟩
  · rw [← hseq]
    exact hadvances.successor.sequence
  · rintro ⟨before, revision, hrevs, hprev⟩
    obtain ⟨prior, hprior, hterminal, hauthor⟩ := policy.last_revision hrevs
    exact ⟨before, revision, prior, hrevs, hprior, hterminal.symm.trans hprev, hauthor⟩

end Jury.Engine

namespace Jury.Engine.Sample

open Protocol Vault Witness Policy Protocol.Sample Policy.Sample

def forkedJournal : PolicyJournalV1 :=
  extend (extend founded [] 2 1002 [.principalAdd (descriptor .human 7) "reader" ZERO_DIGEST]) [] 2 1003
    [.principalAdd (descriptor .human 8) "reader" ZERO_DIGEST]

theorem forkedJournal_replays : (replayPolicyWithWitnessPolicies forkedJournal []).isOk = true := by decide +kernel

def forkedPolicy : ReplayedPolicy := .ofReplay forkedJournal [] forkedJournal_replays

def forkedCheckpoint : VaultPolicyCheckpointV1 := checkpointOf forkedPolicy 2 (digestOf checkpoint.digest) 3000

def forking : Call := call 10001 (.advanceCheckpoint forkedPolicy forkedCheckpoint material) []

end Jury.Engine.Sample

namespace Jury.Engine

open Protocol Protocol.Sample Policy.Sample Engine.Sample

-- The accepted history has removed owner 2, and the witness follows them all the same.
theorem advance_onto_fork :
    (identifier .principal 2 : PrincipalId) ∉ policy.state.owners ∧
      (engine.final home [registering]).store.logical.vaults[policy.state.vaultId]?.map (·.currentCheckpoint) =
        some checkpoint ∧
      ((engine.trace home [registering, forking]).map fun event => event.output.isOk) = [true, true] ∧
      (engine.final home [registering, forking]).store.logical.vaults[policy.state.vaultId]?.map (·.currentCheckpoint) =
        some forkedCheckpoint ∧
      forkedCheckpoint.issuerOwnerId = identifier .principal 2 ∧ ¬ ExtendsHistory forkedPolicy.state checkpoint := by
  unfold ExtendsHistory
  decide +kernel

theorem advance_extends_history_iff_advancing :
    ∃ current vault,
      (engine.final home [registering]).store.logical.vaults[nextCheckpoint.vaultId]? = some current ∧
      ((engine.final home [registering]).serve (advancing 10010)).2.store.logical.vaults[nextCheckpoint.vaultId]? =
        some vault ∧ vault ≠ current ∧
      (ExtendsHistory nextPolicy.state current.currentCheckpoint ↔
        LastRevisionFollows nextPolicy.journal current.currentCheckpoint) := by
  have hbefore : (engine.final home [registering]).store.logical.vaults[nextCheckpoint.vaultId]?.map
      (·.currentCheckpoint.vaultPolicySequence) = some 2 := by decide +kernel
  have hafter : ((engine.final home [registering]).serve (advancing 10010)).2.store.logical.vaults[
      nextCheckpoint.vaultId]?.map (·.currentCheckpoint.vaultPolicySequence) = some 3 := by decide +kernel
  unfold advancing call at hafter ⊢
  generalize engine.final home [registering] = world at *
  generalize nextCheckpoint = checkpoint at *
  generalize nextPolicy = policy at *
  obtain ⟨current, hcur, hseq⟩ := Option.map_eq_some_iff.mp hbefore
  obtain ⟨vault, hvault, hnext⟩ := Option.map_eq_some_iff.mp hafter
  have hrepl : vault ≠ current := by
    rintro rfl
    rw [hseq] at hnext
    exact absurd hnext (by decide)
  exact ⟨current, vault, hcur, hvault, hrepl,
    (advance_extends_history_iff world _ policy checkpoint material current vault hcur hvault hrepl).1⟩

end Jury.Engine
