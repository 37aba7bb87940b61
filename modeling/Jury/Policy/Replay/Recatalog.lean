import Jury.Policy.Replay.Catalog

-- One journal replayed under two catalogs of witness policies. Operations and rotations never read the
-- catalog; only the check of a completed state does, so that two accepted replays agree in all the rest. The genesis
-- is read for the first state alone.
namespace Jury.Policy

open Lib Protocol Vault

def PolicyState.under (catalog : BTreeMap Digest32 WitnessPolicy) (state : PolicyState) : PolicyState :=
  { state with witnessPolicies := catalog }

def Draft.under (catalog : BTreeMap Digest32 WitnessPolicy) (draft : Draft) : Draft :=
  { draft with next := draft.next.under catalog }

variable (catalog : BTreeMap Digest32 WitnessPolicy)

theorem rotateItem_under (prior : PolicyState) (draft : Draft) (itemId : ItemId) :
    rotateItem (prior.under catalog) (draft.under catalog) itemId =
      Draft.under catalog <$> rotateItem prior draft itemId := by
  simp only [rotateItem, map_bind, map_pure]
  rfl

theorem applyRotations_under (prior : PolicyState) (draft : Draft) :
    applyRotations (prior.under catalog) (draft.under catalog) =
      PolicyState.under catalog <$> applyRotations prior draft := by
  simp only [applyRotations, map_bind, map_pure]
  rw [show commonItems (prior.under catalog) (draft.under catalog).next = commonItems prior draft.next from rfl,
    foldlM_translate (rotateItem_under catalog prior), bind_map_left]
  rfl

variable [Crypto]

theorem mutate_under (draft : Draft) (operation : PolicyOperationV1) :
    mutate (draft.under catalog) operation = Draft.under catalog <$> mutate draft operation := by
  cases operation <;>
    simp only [mutate, addPrincipal, changeLabel, removePrincipal, grantOwner, revokeOwner, createItem, renameItem,
      deleteItem, changeRole, replacePrincipal, map_bind, map_pure, bind_assoc, pure_bind] <;>
    rfl

theorem applyOperation_under (prior : PolicyState) (sequence : UInt64) (draft : Draft) (operation : PolicyOperationV1) :
    applyOperation (prior.under catalog) sequence (draft.under catalog) operation =
      Draft.under catalog <$> applyOperation prior sequence draft operation := by
  simp only [applyOperation, map_bind]
  refine bind_congr fun _ => bind_congr fun _ => bind_congr fun _ => ?_
  exact mutate_under catalog { draft with mutationKeys := operationKey operation :: draft.mutationKeys } operation

variable {next other prior state : PolicyState} {sequence timestamp : UInt64} {operations : List PolicyOperationV1}

theorem applyOperations_agree (h : applyOperations prior sequence operations = .ok next)
    (hother : applyOperations (prior.under catalog) sequence operations = .ok other) : other = next.under catalog := by
  obtain ⟨draft, hdraft, hreach, -⟩ := applyOperations_eq_ok h
  obtain ⟨draft', hfold, hrot, -⟩ := applyOperations_eq_ok hother
  have hdraft' := foldlM_translate (applyOperation_under catalog prior sequence) operations
    { next := { prior with sequence }, readerRotations := ∅, slotRotations := ∅, mutationKeys := [] }
  rw [hdraft] at hdraft'
  obtain rfl := ok_unique hfold hdraft'
  rw [applyRotations_under, hreach] at hrot
  exact (Except.ok.inj hrot).symm

theorem revisionState_agree (h : revisionState state sequence operations = .ok next)
    (hother : revisionState (state.under catalog) sequence operations = .ok other) : other = next.under catalog := by
  unfold revisionState at h hother
  split at h
  next hempty =>
    rw [if_pos hempty] at hother
    rw [← Except.ok.inj h, ← Except.ok.inj hother]
    rfl
  next hempty =>
    rw [if_neg hempty] at hother
    exact applyOperations_agree catalog h hother

theorem replayRevision_agree (h : replayRevision genesis index timestamp state revision = .ok next)
    (hother : replayRevision genesis' index timestamp (state.under catalog) revision = .ok other) :
    other = next.under catalog := by
  obtain ⟨reached, terminal, hreach, hterminal, rfl⟩ := (replayRevision_accepted h).result
  obtain ⟨reached', terminal', hreached', hterminal', rfl⟩ := (replayRevision_accepted hother).result
  obtain rfl := revisionState_agree catalog hreach hreached'
  obtain rfl := some_unique hterminal hterminal'
  rfl

theorem replayRevisions_agree (h : replayRevisions genesis index timestamp state revisions = .ok final)
    (hother : replayRevisions genesis' index timestamp (state.under catalog) revisions = .ok other) :
    other = final.under catalog := by
  induction revisions generalizing index timestamp state with
  | nil =>
    rw [← Except.ok.inj h, ← Except.ok.inj hother]
  | cons revision rest ih =>
    simp only [replayRevisions, bind_eq_ok] at h hother
    obtain ⟨next, hnext, hrest⟩ := h
    obtain ⟨next', hnext', hrest'⟩ := hother
    obtain rfl := replayRevision_agree catalog hnext hnext'
    exact ih hrest hrest'

theorem replay_agree (h : replayPolicyWithCatalog journal first = .ok state)
    (hother : replayPolicyWithCatalog journal second = .ok other) : other = state.under second := by
  simp only [replayPolicyWithCatalog, bind_eq_ok] at h hother
  obtain ⟨start, hstart, hrevs⟩ := h
  obtain ⟨start', hstart', hrevisions'⟩ := hother
  obtain ⟨-, fingerprint, hfp, rfl⟩ := startReplay_eq_ok hstart
  obtain ⟨-, fingerprint', hfingerprint', rfl⟩ := startReplay_eq_ok hstart'
  obtain rfl := some_unique hfp hfingerprint'
  exact replayRevisions_agree second hrevs hrevisions'

end Jury.Policy
