import Jury.Policy.Replay.Complete

-- Names of principals, their keys and names of items: each is brought into a vault once in its life.
namespace Jury.Policy

open Lib Protocol Vault Std

def introducedBy : PolicyOperationV1 → Option PrincipalDescriptorV1
  | .principalAdd descriptor _ _ => some descriptor
  | .principalReplace _ nextDescriptor _ => some nextDescriptor
  | _ => none

def createdBy : PolicyOperationV1 → Option ItemId
  | .itemCreate itemId _ _ _ _ _ _ => some itemId
  | _ => none

def introduced (genesis : PolicyGenesisV1) (revisions : List SignedPolicyRevisionV1) : List PrincipalDescriptorV1 :=
  genesis.owner :: revisions.flatMap fun revision => revision.operations.filterMap introducedBy

def createdItems (revisions : List SignedPolicyRevisionV1) : List ItemId :=
  revisions.flatMap fun revision => revision.operations.filterMap createdBy

structure SingleUse (descriptors : List PrincipalDescriptorV1) (itemIds : List ItemId) : Prop where
  principalIds : (descriptors.map (·.principalId)).Nodup
  recipientKeys : (descriptors.map (·.recipientPublicKey)).Nodup
  verificationKeys : (descriptors.map (·.verificationPublicKey)).Nodup
  itemIds : itemIds.Nodup

structure History where
  principalDescriptors : BTreeMap PrincipalId PrincipalDescriptorV1
  principalIds : BTreeSet PrincipalId
  recipientKeys : BTreeSet RecipientPublicKey1216
  verificationKeys : BTreeSet VerificationPublicKey32
  itemIds : BTreeSet ItemId

def PolicyState.history (state : PolicyState) : History :=
  { principalDescriptors := state.historicalPrincipalDescriptors
    principalIds := state.historicalPrincipalIds
    recipientKeys := state.historicalRecipientKeys
    verificationKeys := state.historicalVerificationKeys
    itemIds := state.historicalItemIds }

-- The history knows everything that was brought in, and nothing was brought in twice.
structure Recorded (descriptors : List PrincipalDescriptorV1) (itemIds : List ItemId) (history : History) : Prop where
  unique : SingleUse descriptors itemIds
  principalIds : ∀ descriptor ∈ descriptors, descriptor.principalId ∈ history.principalIds
  recipientKeys : ∀ descriptor ∈ descriptors, descriptor.recipientPublicKey ∈ history.recipientKeys
  verificationKeys : ∀ descriptor ∈ descriptors, descriptor.verificationPublicKey ∈ history.verificationKeys
  lookup : ∀ id, history.principalDescriptors[id]? = descriptors.find? fun descriptor => descriptor.principalId == id
  itemIds : ∀ itemId ∈ itemIds, itemId ∈ history.itemIds

section Fresh

variable {α κ : Type} [Ord κ] [TransOrd κ] {values : List α} {value : α} {key : α → κ} {record : BTreeSet κ}

theorem nodup_append_fresh (hvalues : (values.map key).Nodup) (hrecord : ∀ v ∈ values, key v ∈ record)
    (hfresh : key value ∉ record) : ((values ++ [value]).map key).Nodup := by
  rw [List.map_append, List.map_singleton, ← List.concat_eq_append, List.nodup_concat]
  refine ⟨fun hmem => ?_, hvalues⟩
  obtain ⟨v, hv, hkey⟩ := List.mem_map.mp hmem
  exact hfresh (hkey ▸ hrecord v hv)

theorem mem_insert_of_recorded (hrecord : ∀ v ∈ values, key v ∈ record) :
    ∀ v ∈ values ++ [value], key v ∈ record.insert (key value) := by
  intro v hv
  rcases List.mem_append.mp hv with hold | hnew
  · exact ExtTreeSet.mem_insert.mpr (.inr (hrecord v hold))
  · rw [List.mem_singleton.mp hnew]
    exact ExtTreeSet.mem_insert_self

end Fresh

variable {prior state : PolicyState}
variable {draft : Draft} {catalog : BTreeMap Digest32 WitnessPolicy}

theorem recordDescriptor_recorded {descriptor : PrincipalDescriptorV1}
    (hstate : Recorded descriptors itemIds state.history) (hfresh : requireFresh state descriptor = .ok u) :
    Recorded (descriptors ++ [descriptor]) itemIds (recordDescriptor state descriptor).history := by
  simp only [requireFresh, rejectIf_eq_ok, Bool.or_eq_false_iff] at hfresh
  obtain ⟨⟨hid, hrecip⟩, hverif⟩ := hfresh
  have hid := not_mem_of_contains hid
  have hrecip := not_mem_of_contains hrecip
  have hverif := not_mem_of_contains hverif
  constructor
  · exact {
      principalIds := nodup_append_fresh hstate.unique.principalIds hstate.principalIds hid
      recipientKeys := nodup_append_fresh hstate.unique.recipientKeys hstate.recipientKeys hrecip
      verificationKeys := nodup_append_fresh hstate.unique.verificationKeys hstate.verificationKeys hverif
      itemIds := hstate.unique.itemIds }
  · exact mem_insert_of_recorded hstate.principalIds
  · exact mem_insert_of_recorded hstate.recipientKeys
  · exact mem_insert_of_recorded hstate.verificationKeys
  · -- The new entry does not hide an older one, whose identifier would be on record.
    intro id
    rw [List.find?_append, ← hstate.lookup id]
    by_cases hown : id = descriptor.principalId
    · subst hown
      have hnone : descriptors.find? (fun d => d.principalId == descriptor.principalId) = none := by
        rw [List.find?_eq_none]
        intro d hd heq
        rw [beq_iff_eq] at heq
        exact hid (heq ▸ hstate.principalIds d hd)
      rw [hstate.lookup, hnone]
      simp [recordDescriptor, PolicyState.history]
    · have hother : ([descriptor].find? fun d => d.principalId == id) = none := by simp [Ne.symm hown]
      rw [hother, Option.or_none]
      exact getElem?_insert_ne _ _ hown
  · exact hstate.itemIds

theorem createItem_recorded {out : PolicyState} {itemId : ItemId} {itemKind : ItemKind} {keyEpoch : UInt64}
    {descriptor : DescriptorMetadataV1} {currentHash : Digest32} {directSlots : List DirectSlotV1}
    {witnessedState : Option WitnessedStateV1} (hstate : Recorded descriptors itemIds state.history)
    (h : createItem state itemId itemKind keyEpoch descriptor currentHash directSlots witnessedState = .ok out) :
    Recorded descriptors (itemIds ++ [itemId]) out.history := by
  simp only [createItem, eq_ok] at h
  obtain ⟨-, hfresh, grants, -, rfl⟩ := h
  have hunused := not_mem_of_contains hfresh
  have hnodup : ((itemIds ++ [itemId]).map id).Nodup :=
    nodup_append_fresh (by simpa using hstate.unique.itemIds) hstate.itemIds hunused
  rw [List.map_id] at hnodup
  exact {
    unique := { hstate.unique with itemIds := hnodup }
    principalIds := hstate.principalIds
    recipientKeys := hstate.recipientKeys
    verificationKeys := hstate.verificationKeys
    lookup := hstate.lookup
    itemIds := mem_insert_of_recorded hstate.itemIds }

variable [Crypto]

theorem mutate_history (hintroduced : introducedBy operation = none)
    (hcreated : createdBy operation = none) (h : mutate draft operation = .ok out) :
    out.next.history = draft.next.history := by
  unfold PolicyState.history
  cases operation <;> try contradiction
  all_goals
    simp only [mutate, changeLabel, removePrincipal, grantOwner, revokeOwner, renameItem, deleteItem, changeRole,
      eq_ok] at h
    aesop

theorem mutate_recorded
    (hdraft : Recorded descriptors itemIds draft.next.history) (h : mutate draft operation = .ok out) :
    Recorded (descriptors ++ (introducedBy operation).toList) (itemIds ++ (createdBy operation).toList)
      out.next.history := by
  cases operation
  case principalAdd descriptor displayLabel _ =>
    simp only [mutate, addPrincipal, eq_ok] at h
    obtain ⟨-, ⟨-, -, -, -, _, hfresh, rfl⟩, rfl⟩ := h
    simp only [introducedBy, createdBy, Option.toList_none, Option.toList_some, List.append_nil]
    exact recordDescriptor_recorded hdraft hfresh
  case principalReplace priorId nextDescriptor _ =>
    simp only [mutate, replacePrincipal, eq_ok] at h
    obtain ⟨-, ⟨-, -, -, -, -, -, _, hfresh, rfl⟩, rfl⟩ := h
    simp only [introducedBy, createdBy, Option.toList_none, Option.toList_some, List.append_nil]
    exact recordDescriptor_recorded hdraft hfresh
  case itemCreate =>
    simp only [mutate, eq_ok] at h
    obtain ⟨next, hnext, rfl⟩ := h
    simp only [introducedBy, createdBy, Option.toList_none, Option.toList_some, List.append_nil]
    exact createItem_recorded hdraft hnext
  all_goals
    simp only [introducedBy, createdBy, Option.toList_none, List.append_nil]
    rw [mutate_history rfl rfl h]
    exact hdraft

theorem applyOperations_recorded {sequence : UInt64} {operations : List PolicyOperationV1} {start : Draft}
    (hstart : Recorded descriptors itemIds start.next.history)
    (h : operations.foldlM (applyOperation prior sequence) start = .ok draft) :
    Recorded (descriptors ++ operations.filterMap introducedBy) (itemIds ++ operations.filterMap createdBy)
      draft.next.history := by
  induction operations generalizing start descriptors itemIds with
  | nil =>
    obtain rfl := Except.ok.inj h
    simpa using hstart
  | cons operation rest ih =>
    obtain ⟨reached, hreach, hrest⟩ := foldlM_cons_eq_ok.mp h
    obtain ⟨-, keys, hmutate⟩ := applyOperation_eq_ok hreach
    have hstep := ih (mutate_recorded (by exact hstart) hmutate) hrest
    have hdescriptors : (operation :: rest).filterMap introducedBy =
        (introducedBy operation).toList ++ rest.filterMap introducedBy := by
      cases hone : introducedBy operation <;> simp [hone]
    have hitems : (operation :: rest).filterMap createdBy =
        (createdBy operation).toList ++ rest.filterMap createdBy := by
      cases hone : createdBy operation <;> simp [hone]
    rwa [hdescriptors, hitems, ← List.append_assoc, ← List.append_assoc]

theorem replayRevision_recorded (hprior : Recorded descriptors itemIds prior.history)
    (h : replayRevision genesis index timestamp prior revision = .ok next) :
    Recorded (descriptors ++ revision.operations.filterMap introducedBy)
      (itemIds ++ revision.operations.filterMap createdBy) next.history := by
  obtain ⟨reached, terminal, hreach, -, rfl⟩ := (replayRevision_accepted h).result
  rcases revisionState_cases hreach with ⟨hempty, rfl⟩ | hreach
  · simp only [hempty, List.filterMap_nil, List.append_nil]
    exact hprior
  · obtain ⟨draft, hdraft, hrot, -⟩ := applyOperations_eq_ok hreach
    obtain ⟨items, rfl, -⟩ := applyRotations_frame hrot
    exact applyOperations_recorded (by exact hprior) hdraft

theorem replay_recorded {journal : PolicyJournalV1} (h : replayPolicyWithCatalog journal catalog = .ok state) :
    Recorded (introduced journal.genesis journal.revisions) (createdItems journal.revisions) state.history := by
  refine replay_induction (P := fun revisions state =>
    Recorded (introduced journal.genesis revisions) (createdItems revisions) state.history) ?_ ?_ h
  · intro _ _
    constructor
    · exact ⟨List.nodup_singleton _, List.nodup_singleton _, List.nodup_singleton _, List.nodup_nil⟩
    all_goals simp [introduced, createdItems, PolicyState.history, genesisState]
    intro id
    by_cases hown : id = journal.genesis.owner.principalId
    · simp [hown]
    · have hnone : ¬ journal.genesis.owner.principalId = id := fun heq => hown heq.symm
      simp [hnone]
  · intro before revision after timestamp prior next _ _ hprior hnext
    have hstep := replayRevision_recorded hprior hnext
    simpa [introduced, createdItems] using hstep

theorem verificationKey_eq_find {journal : PolicyJournalV1}
    (h : replayPolicyWithCatalog journal catalog = .ok state) (id : PrincipalId) :
    state.verificationKey id = ((introduced journal.genesis journal.revisions).find? fun descriptor =>
      descriptor.principalId == id).map (·.verificationPublicKey) := by
  rw [← (replay_recorded h).lookup id]
  rfl

-- No name or key comes into a vault twice along an accepted journal, and what a principal's name stands
-- for at one revision it stands for at every later one.
theorem identifiers_single_use (journal : PolicyJournalV1) (catalog : BTreeMap Digest32 WitnessPolicy)
    (state : PolicyState) (h : replayPolicyWithCatalog journal catalog = .ok state) :
    SingleUse (introduced journal.genesis journal.revisions) (createdItems journal.revisions) ∧
    ∀ before after earlier, journal.revisions = before ++ after →
      replayPolicyWithCatalog { journal with revisions := before } catalog = .ok earlier →
      ∀ id key, earlier.verificationKey id = some key → state.verificationKey id = some key := by
  refine ⟨(replay_recorded h).unique, ?_⟩
  intro before after earlier hrevs hearlier id key hkey
  rw [verificationKey_eq_find hearlier, Option.map_eq_some_iff] at hkey
  obtain ⟨descriptor, hfound, rfl⟩ := hkey
  have hlater : introduced journal.genesis journal.revisions = introduced journal.genesis before ++
      after.flatMap fun revision => revision.operations.filterMap introducedBy := by
    simp [introduced, hrevs]
  rw [verificationKey_eq_find h, hlater, List.find?_append, hfound]
  rfl

end Jury.Policy

namespace Jury.Policy.Sample

open Lib Protocol.Sample

theorem identifiers_single_use_six :
    ∃ state, replayPolicyWithCatalog journal catalog = .ok state ∧
      (introduced journal.genesis journal.revisions).length = 6 ∧
      SingleUse (introduced journal.genesis journal.revisions) (createdItems journal.revisions) := by
  have hreplayed : (replayPolicyWithCatalog journal catalog).isOk = true := by decide +kernel
  have hlen : (introduced journal.genesis journal.revisions).length = 6 := by decide +kernel
  obtain ⟨state, hstate⟩ := exists_eq_ok_of_isOk hreplayed
  exact ⟨state, hstate, hlen, (identifiers_single_use journal catalog state hstate).1⟩

end Jury.Policy.Sample
