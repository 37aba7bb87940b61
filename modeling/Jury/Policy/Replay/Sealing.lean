import Jury.Policy.Replay.Content

-- Where the slots of an item were sealed: they are those of the state before, or an operation of the
-- revision brought them, and then they say which item, epoch and revision they are for.
namespace Jury.Policy

open Lib Protocol Vault

variable {draft start : Draft} {itemId : ItemId} {next : PolicyState} {genesis : PolicyGenesisV1} {index : Nat}
variable {keyEpoch timestamp : UInt64} {revision : SignedPolicyRevisionV1} {genesisFingerprint : Digest32}

theorem rotateItem_rotationsFrom (hdraft : RotationsFrom operations draft)
    (h : rotateItem prior draft itemId = .ok out) : RotationsFrom operations out := by
  obtain ⟨-, item, rfl⟩ := rotateItem_writes h
  constructor
  · exact fun other rotation hrotation => hdraft.reader other rotation (getElem?_of_erase hrotation)
  · exact fun other rotation hrotation => hdraft.slots other rotation (getElem?_of_erase hrotation)

inductive TableOrigin (prior : PolicyState) (operations : List PolicyOperationV1) (itemId : ItemId)
    (item : ItemPolicyState) : Prop
  | kept (old : ItemPolicyState) (found : prior.items[itemId]? = some old) (epoch : item.keyEpoch = old.keyEpoch)
      (directSlots : item.directSlots = old.directSlots) (witnessedState : item.witnessedState = old.witnessedState)
  | created (itemKind : ItemKind) (descriptor : DescriptorMetadataV1) (currentHash : Digest32)
      (asked : .itemCreate itemId itemKind item.keyEpoch descriptor currentHash item.directSlots item.witnessedState ∈
        operations)
  | replaced (old : ItemPolicyState) (found : prior.items[itemId]? = some old)
      (epoch : item.keyEpoch.toNat = old.keyEpoch.toNat + 1)
      (asked : .itemSlotsReplace itemId item.keyEpoch item.directSlots item.witnessedState ∈ operations)

def TablesOriginate (prior : PolicyState) (operations : List PolicyOperationV1) (state : PolicyState) : Prop :=
  ∀ (itemId : ItemId) (item : ItemPolicyState), state.items[itemId]? = some item →
    TableOrigin prior operations itemId item

variable {prior : PolicyState} {operations : List PolicyOperationV1}

theorem TableOrigin.of_same_slots {after : ItemPolicyState} (h : TableOrigin prior operations itemId item)
    (hepoch : after.keyEpoch = item.keyEpoch) (hdir : after.directSlots = item.directSlots)
    (hwit : after.witnessedState = item.witnessedState) : TableOrigin prior operations itemId after := by
  cases h with
  | kept old hfound hold hslots hstate =>
    exact .kept old hfound (hepoch.trans hold) (hdir.trans hslots) (hwit.trans hstate)
  | created itemKind descriptor currentHash hasked =>
    refine .created itemKind descriptor currentHash ?_
    rwa [hepoch, hdir, hwit]
  | replaced old hfound hnew hasked =>
    refine .replaced old hfound ?_ ?_
    · rwa [hepoch]
    · rwa [hepoch, hdir, hwit]

theorem rotateItem_tables (hrot : itemId ∈ prior.items)
    (hfrom : RotationsFrom operations draft) (hdraft : TablesOriginate prior operations draft.next)
    (h : rotateItem prior draft itemId = .ok out) : TablesOriginate prior operations out.next := by
  obtain ⟨priorItem, hprior⟩ := mem_iff_getElem?.mp hrot
  obtain ⟨item, next, hfound, hitems, hrotation⟩ := rotateItem_rotation h hprior
  intro other found hother
  rw [hitems] at hother
  obtain ⟨rfl, rfl⟩ | ⟨-, hother⟩ := getElem?_insert_eq_some.mp hother
  · cases hrotation with
    | kept hsame => exact hsame ▸ hdraft _ item hfound
    | resealed slot hasked hepoch hslotEpoch hdir hwit =>
      have hop := hfrom.slots _ slot hasked
      rw [hslotEpoch, hdir, hwit] at hop
      exact .replaced priorItem hprior hepoch hop
  · exact hdraft other found hother

variable [Crypto]

inductive SlotOrigin (prior : PolicyState) (sequence : UInt64) (itemId : ItemId) (item : ItemPolicyState) : Prop
  | kept (old : ItemPolicyState) (found : prior.items[itemId]? = some old) (epoch : item.keyEpoch = old.keyEpoch)
      (witnessedState : item.witnessedState = old.witnessedState)
  | sealed
      (epoch : item.keyEpoch = 1 ∨
        ∃ old, prior.items[itemId]? = some old ∧ item.keyEpoch.toNat = old.keyEpoch.toNat + 1)
      (valid : validateAccessPaths item.directSlots item.witnessedState prior.vaultId prior.genesisFingerprint itemId
        item.keyEpoch sequence = .ok ())

def SlotsOriginate (prior : PolicyState) (sequence : UInt64) (state : PolicyState) : Prop :=
  ∀ (itemId : ItemId) (item : ItemPolicyState), state.items[itemId]? = some item →
    SlotOrigin prior sequence itemId item

variable {sequence : UInt64}

theorem applyOperations_valid (h : operations.foldlM (applyOperation prior sequence) start = .ok draft) :
    ∀ operation ∈ operations, validateOperation operation sequence prior.vaultId prior.genesisFingerprint = .ok () :=
  foldlM_forall (fun _ _ _ hround => (applyOperation_eq_ok hround).1) h

theorem applyOperations_draftTables (hstart : start.next.items = prior.items)
    (h : operations.foldlM (applyOperation prior sequence) start = .ok draft) :
    TablesOriginate prior operations draft.next := by
  refine foldlM_preserves (P := fun d => TablesOriginate prior operations d.next) (fun operation hmem b c hb hc => ?_)
    ?_ h
  · obtain ⟨-, keys, hmutate⟩ := applyOperation_eq_ok hc
    intro itemId item hitem
    cases mutate_origin hmutate hitem with
    | regranted before hfound hsame | renamed before _ _ hfound _ hsame =>
      rw [hsame]
      exact (hb itemId before hfound).of_same_slots rfl rfl rfl
    | created _ hasked => exact .created _ _ _ (hasked ▸ hmem)
  · intro itemId item hitem
    rw [hstart] at hitem
    exact .kept item hitem rfl rfl rfl

theorem applyOperations_tables (h : applyOperations prior sequence operations = .ok next) :
    TablesOriginate prior operations next := by
  obtain ⟨draft, hdraft, hrot, -⟩ := applyOperations_eq_ok h
  have hfrom : RotationsFrom operations draft := applyOperations_rotationsFrom ⟨by simp, by simp⟩ hdraft
  have htables : TablesOriginate prior operations draft.next := by
    refine applyOperations_draftTables ?_ hdraft
    rfl
  simp only [applyRotations, eq_ok] at hrot
  obtain ⟨out, hloop, -, -, rfl⟩ := hrot
  have hboth := foldlM_preserves (P := fun d => RotationsFrom operations d ∧ TablesOriginate prior operations d.next)
    (fun other hmem b c hb hc => ⟨rotateItem_rotationsFrom hb.1 hc,
      rotateItem_tables (mem_commonItems.mp hmem).1 hb.1 hb.2 hc⟩) ⟨hfrom, htables⟩ hloop
  exact hboth.2

theorem replayRevision_tables (h : replayRevision genesis index timestamp prior revision = .ok next) :
    TablesOriginate prior revision.operations next := by
  obtain ⟨reached, terminal, hreach, -, rfl⟩ := (replayRevision_accepted h).result
  intro itemId item hitem
  rcases revisionState_cases hreach with ⟨-, rfl⟩ | hreach
  · exact .kept item hitem rfl rfl rfl
  · exact applyOperations_tables hreach itemId item hitem

theorem replayRevision_valid (h : replayRevision genesis index timestamp prior revision = .ok next) :
    ∀ operation ∈ revision.operations, validateOperation operation (UInt64.ofNat (index + 1)) prior.vaultId
      prior.genesisFingerprint = .ok () := by
  obtain ⟨reached, terminal, hreach, -, rfl⟩ := (replayRevision_accepted h).result
  rcases revisionState_cases hreach with ⟨hempty, rfl⟩ | hreach
  · intro operation hmem
    rw [hempty] at hmem
    cases hmem
  · obtain ⟨draft, hdraft, -⟩ := applyOperations_eq_ok hreach
    exact applyOperations_valid hdraft

theorem TableOrigin.slotOrigin (h : TableOrigin prior operations itemId item) (hvalid : ∀ operation ∈ operations,
      validateOperation operation sequence prior.vaultId prior.genesisFingerprint = .ok ()) :
    SlotOrigin prior sequence itemId item := by
  cases h with
  | kept old hfound hepoch _ hwit => exact .kept old hfound hepoch hwit
  | created itemKind descriptor currentHash hasked =>
    have hcreated := hvalid _ hasked
    simp only [validateOperation, eq_ok, bne_eq_false_iff_eq] at hcreated
    obtain ⟨-, hepoch, -, -, hslots⟩ := hcreated
    exact .sealed (.inl hepoch) hslots
  | replaced old hfound hepoch hasked =>
    have hrepl := hvalid _ hasked
    simp only [validateOperation, bind_eq_ok] at hrepl
    obtain ⟨-, -, hslots⟩ := hrepl
    exact .sealed (.inr ⟨old, hfound, hepoch⟩) hslots

theorem replayRevision_slotOrigin (h : replayRevision genesis index timestamp prior revision = .ok next) :
    SlotsOriginate prior (UInt64.ofNat (index + 1)) next := fun itemId item hitem =>
  (replayRevision_tables h itemId item hitem).slotOrigin (replayRevision_valid h)

end Jury.Policy
