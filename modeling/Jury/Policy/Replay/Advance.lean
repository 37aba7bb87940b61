import Jury.Policy.Replay.Content
import Jury.Policy.Replay.Recatalog

-- What becomes of an item along a journal: a deleted one never comes back, and the key epoch of one that
-- stays never falls. Its descriptor advances with it as long as no reader set change puts an older one in.
namespace Jury.Policy

open Lib Protocol Vault

-- An item before and after some revisions: a descriptor that has changed is of an epoch the item has had
-- since.
structure ItemAdvanced (before after : ItemPolicyState) : Prop where
  epoch : before.keyEpoch ≤ after.keyEpoch
  carried : after.descriptor = before.descriptor ∨ before.keyEpoch ≤ after.descriptor.keyEpoch
  revision : before.descriptor.revision ≤ after.descriptor.revision

structure ItemsAdvanced (before after : PolicyState) : Prop where
  used : ∀ itemId, itemId ∈ before.historicalItemIds → itemId ∈ after.historicalItemIds
  items : ∀ (itemId : ItemId) (item : ItemPolicyState), itemId ∈ before.historicalItemIds →
    after.items[itemId]? = some item → ∃ old, before.items[itemId]? = some old ∧ ItemAdvanced old item

theorem ItemAdvanced.refl (item : ItemPolicyState) : ItemAdvanced item item :=
  ⟨UInt64.le_refl _, .inl rfl, UInt64.le_refl _⟩

theorem ItemAdvanced.trans (h : ItemAdvanced a b) (h' : ItemAdvanced b c) : ItemAdvanced a c where
  epoch := UInt64.le_trans h.epoch h'.epoch
  carried := by
    rcases h'.carried with hsame | hcarried
    · rw [hsame]
      exact h.carried
    · exact .inr (UInt64.le_trans h.epoch hcarried)
  revision := UInt64.le_trans h.revision h'.revision

theorem ItemsAdvanced.refl (state : PolicyState) : ItemsAdvanced state state :=
  ⟨fun _ hused => hused, fun _ item _ hitem => ⟨item, hitem, .refl item⟩⟩

theorem ItemsAdvanced.trans (h : ItemsAdvanced a b) (h' : ItemsAdvanced b c) : ItemsAdvanced a c where
  used itemId hused := h'.used itemId (h.used itemId hused)
  items itemId item hused hitem := by
    obtain ⟨middle, hmiddle, hlater⟩ := h'.items itemId item (h.used itemId hused) hitem
    obtain ⟨old, hold, hfirst⟩ := h.items itemId middle hused hmiddle
    exact ⟨old, hold, hfirst.trans hlater⟩

-- A reader set change puts in a descriptor whose revision is not below that of the one it replaces. Replay
-- compares the key epoch of the new descriptor only.
def keepsDescriptorRevision (prior : PolicyState) : PolicyOperationV1 → Bool
  | .itemReaderSetChange itemId _ _ _ _ descriptor _ =>
    prior.items[itemId]?.all fun item => decide (item.descriptor.revision ≤ descriptor.revision)
  | _ => true

def KeepsDescriptorRevisions (prior : PolicyState) (operations : List PolicyOperationV1) : Prop :=
  ∀ operation ∈ operations, keepsDescriptorRevision prior operation = true

variable {itemId : ItemId} {nextEpoch priorEpoch : UInt64} {nextReaders priorReaders : List PrincipalId}
variable {descriptor : DescriptorMetadataV1} {currentHash : Digest32} {draft out : Draft}

theorem KeepsDescriptorRevisions.replaced (h : KeepsDescriptorRevisions prior operations)
    (hmem : .itemReaderSetChange itemId priorEpoch nextEpoch priorReaders nextReaders descriptor currentHash ∈ operations)
    (hitem : prior.items[itemId]? = some item) : item.descriptor.revision ≤ descriptor.revision := by
  have hkept := h _ hmem
  simpa [keepsDescriptorRevision, hitem] using hkept

theorem applyRotations_asked (h : applyRotations prior draft = .ok next)
    (hasked : draft.readerRotations[itemId]? = some reader) : itemId ∈ prior.items ∧ itemId ∈ draft.next.items := by
  simp only [applyRotations, eq_ok, Bool.or_eq_false_iff] at h
  obtain ⟨out, hloop, -, ⟨hempty, -⟩, -⟩ := h
  by_contra hmem
  have hsame := (rotateItems_agreeOn (fun hcommon => hmem (mem_commonItems.mp hcommon)) hloop).readerRotation
  rw [hasked] at hsame
  rw [Bool.not_eq_false', Std.ExtTreeMap.isEmpty_iff] at hempty
  rw [hempty] at hsame
  cases hsame

theorem rotateItem_installs (h : rotateItem prior draft itemId = .ok out)
    (hasked : draft.readerRotations[itemId]? = some reader) :
    ∃ item, out.next.items[itemId]? = some item ∧ item.descriptor = reader.replacementDescriptor := by
  simp only [rotateItem, eq_ok] at h
  obtain ⟨-, -, -, -, _, -, expected, -, item, -, content, hcontent, next, hnext, rfl⟩ := h
  rw [hasked] at hcontent
  simp only [rotateContent, eq_ok] at hcontent
  obtain ⟨-, -, rfl⟩ := hcontent
  refine ⟨next, Std.ExtTreeMap.getElem?_insert_self, ?_⟩
  cases hslot : draft.slotRotations[itemId]? with
  | none =>
    rw [hslot] at hnext
    rw [← Except.ok.inj hnext]
  | some slot =>
    rw [hslot] at hnext
    simp only [rotateSlots, eq_ok] at hnext
    obtain ⟨-, -, -, -, -, -, rfl⟩ := hnext
    rfl

variable [Crypto]

section Operations

variable {prior : PolicyState} {sequence : UInt64} {operations : List PolicyOperationV1}

variable {operation : PolicyOperationV1}

theorem applyOperation_advanced (h : applyOperation prior sequence draft operation = .ok out) :
    ItemsAdvanced draft.next out.next := by
  obtain ⟨hvalid, keys, hmutate⟩ := applyOperation_eq_ok h
  refine ⟨fun itemId hused => mutate_used hmutate hused, fun itemId item hused hitem => ?_⟩
  cases mutate_origin hmutate hitem with
  | regranted before hfound hsame =>
    rw [hsame]
    exact ⟨before, hfound, UInt64.le_refl _, .inl rfl, UInt64.le_refl _⟩
  | renamed before descriptor hasked hfound hepoch hsame =>
    subst hasked hsame
    refine ⟨before, hfound, UInt64.le_refl _, .inr (UInt64.le_of_eq hepoch.symm), ?_⟩
    rw [validateOperation_rename hvalid]
    exact le_saturatingAdd _ _
  | created hunused _ => exact absurd hused hunused

theorem applyOperations_advanced (hkept : KeepsDescriptorRevisions prior operations)
    (h : applyOperations prior sequence operations = .ok next) : ItemsAdvanced prior next := by
  obtain ⟨draft, hdraft, hrot, -⟩ := applyOperations_eq_ok h
  have hdrafted : ItemsAdvanced prior draft.next :=
    foldlM_preserves (P := fun d => ItemsAdvanced prior d.next)
      (fun _ _ _ _ hb hc => hb.trans (applyOperation_advanced hc)) ⟨fun _ hused => hused, (ItemsAdvanced.refl prior).items⟩
      hdraft
  have hfrom : RotationsFrom operations draft := applyOperations_rotationsFrom ⟨by simp, by simp⟩ hdraft
  obtain ⟨items, rfl, hids⟩ := applyRotations_frame hrot
  refine ⟨fun itemId hid => hdrafted.used itemId hid, fun itemId nextItem hid hnew => ?_⟩
  have hnextMem : itemId ∈ items := mem_of_getElem? hnew
  obtain ⟨item, hitem⟩ := mem_iff_getElem?.mp ((hids itemId).mp hnextMem)
  obtain ⟨old, hold, hbefore⟩ := hdrafted.items itemId item hid hitem
  have hpriorMem : itemId ∈ prior.items := mem_of_getElem? hold
  obtain ⟨reached, rotated, hagree, hround, hitems, -⟩ := applyRotations_round hrot hpriorMem hnextMem
  obtain ⟨item', found, hitem', hinserted, hrotation⟩ := rotateItem_rotation hround hold
  obtain rfl : found = nextItem := by
    rw [hitems, hinserted, Std.ExtTreeMap.getElem?_insert_self] at hnew
    exact Option.some.inj hnew
  rw [hagree.item] at hitem'
  obtain rfl : item = item' := some_unique hitem hitem'
  refine ⟨old, hold, ?_⟩
  cases hrotation with
  | kept hsame => exact hsame ▸ hbefore
  | resealed _ _ hepoch _ _ _ hcarries hcontent =>
    have hlater : old.keyEpoch ≤ found.keyEpoch := by
      rw [UInt64.le_iff_toNat_le]
      omega
    refine ⟨hlater, .inr (hcarries ▸ hlater), ?_⟩
    cases hcontent with
    | old hdesc => exact hdesc ▸ hbefore.revision
    | replaced reader hreader hdesc _ =>
      rw [hagree.readerRotation] at hreader
      exact hdesc ▸ hkept.replaced (hfrom.reader itemId reader hreader) hold

-- A deletion leaves a tombstone, and no operation takes one away.
theorem mutate_tombstones (h : mutate draft operation = .ok out) (hdeleted : itemId ∈ draft.next.tombstones ∨
      ∃ descriptorDigest revisionHash at', operation = .itemDelete itemId descriptorDigest revisionHash at') :
    itemId ∈ out.next.tombstones := by
  cases operation
  case itemDelete other descriptorDigest revisionHash at' =>
    simp only [mutate, deleteItem, eq_ok] at h
    obtain ⟨-, ⟨-, -, -, -, rfl⟩, rfl⟩ := h
    rw [Std.ExtTreeMap.mem_insert]
    rcases hdeleted with hbefore | ⟨_, _, _, heq⟩
    · exact .inr hbefore
    · cases heq
      exact .inl (by simp)
  all_goals
    simp only [mutate, addPrincipal, changeLabel, removePrincipal, grantOwner, revokeOwner, createItem, renameItem,
      changeRole, replacePrincipal, recordDescriptor, eq_ok] at h
    have hsame : out.next.tombstones = draft.next.tombstones := by aesop
    rw [hsame]
    rcases hdeleted with hbefore | ⟨_, _, _, heq⟩
    · exact hbefore
    · cases heq

theorem applyOperations_tombstones (h : applyOperations prior sequence operations = .ok next)
    (hdeleted : itemId ∈ prior.tombstones ∨
      ∃ descriptorDigest revisionHash at', .itemDelete itemId descriptorDigest revisionHash at' ∈ operations) :
    itemId ∈ next.tombstones := by
  obtain ⟨draft, hdraft, hrot, -⟩ := applyOperations_eq_ok h
  obtain ⟨items, rfl, -⟩ := applyRotations_frame hrot
  have hgrows : ∀ {rest : List PolicyOperationV1} {start : Draft},
      rest.foldlM (applyOperation prior sequence) start = .ok draft → itemId ∈ start.next.tombstones →
      itemId ∈ draft.next.tombstones := by
    intro rest start hrest hstart
    refine foldlM_preserves (P := fun d : Draft => itemId ∈ d.next.tombstones) (fun _ _ _ _ hb hc => ?_) hstart hrest
    obtain ⟨-, keys, hmutate⟩ := applyOperation_eq_ok hc
    exact mutate_tombstones hmutate (.inl hb)
  rcases hdeleted with hbefore | ⟨descriptorDigest, revisionHash, at', hmem⟩
  · exact hgrows hdraft hbefore
  · obtain ⟨before, after, rfl⟩ := List.append_of_mem hmem
    obtain ⟨first, -, hrest⟩ := foldlM_append_eq_ok.mp hdraft
    obtain ⟨second, hsecond, hrest⟩ := foldlM_cons_eq_ok.mp hrest
    obtain ⟨-, keys, hmutate⟩ := applyOperation_eq_ok hsecond
    exact hgrows hrest (mutate_tombstones hmutate (.inr ⟨_, _, _, rfl⟩))

-- What a draft holds of a reader set change once it has been applied: nothing else is recorded under its
-- key.
structure ReaderAsked (itemId : ItemId) (descriptor : DescriptorMetadataV1) (draft : Draft) : Prop where
  recorded : OperationKey.item 10 itemId ∈ draft.mutationKeys
  asked : ∃ reader, draft.readerRotations[itemId]? = some reader ∧ reader.replacementDescriptor = descriptor

theorem mutate_readerAsked (hdraft : ReaderAsked itemId descriptor draft)
    (hkey : operationKey operation ≠ .item 10 itemId) (h : mutate draft operation = .ok out) :
    ReaderAsked itemId descriptor out := by
  cases operation
  case itemReaderSetChange other _ _ _ _ _ _ =>
    simp only [mutate, pure_eq_ok] at h
    subst h
    obtain ⟨reader, hreader, hdesc⟩ := hdraft.asked
    have hother : itemId ≠ other := fun heq => hkey (by rw [heq]; rfl)
    exact ⟨hdraft.recorded, reader, by rw [getElem?_insert_ne _ _ hother]; exact hreader, hdesc⟩
  case itemSlotsReplace =>
    simp only [mutate, pure_eq_ok] at h
    subst h
    exact ⟨hdraft.recorded, hdraft.asked⟩
  all_goals
    simp only [mutate, eq_ok] at h
    obtain ⟨_, -, rfl⟩ := h
    exact ⟨hdraft.recorded, hdraft.asked⟩

theorem applyOperation_readerAsked (hdraft : ReaderAsked itemId descriptor draft)
    (h : applyOperation prior sequence draft operation = .ok out) : ReaderAsked itemId descriptor out := by
  simp only [applyOperation, eq_ok] at h
  obtain ⟨_, -, _, -, _, hkey, hmutate⟩ := h
  have hrecorded : ReaderAsked itemId descriptor
      { draft with mutationKeys := operationKey operation :: draft.mutationKeys } :=
    ⟨List.mem_cons_of_mem _ hdraft.recorded, hdraft.asked⟩
  refine mutate_readerAsked hrecorded ?_ hmutate
  intro heq
  rw [heq, List.contains_eq_mem, decide_eq_false_iff_not] at hkey
  exact hkey hdraft.recorded

-- A reader set change of an accepted revision is what the item ends with.
theorem applyOperations_installs (h : applyOperations prior sequence operations = .ok next)
    (hmem : .itemReaderSetChange itemId priorEpoch nextEpoch priorReaders nextReaders descriptor currentHash ∈ operations) :
    ∃ item, next.items[itemId]? = some item ∧ item.descriptor = descriptor := by
  obtain ⟨draft, hdraft, hrot, -⟩ := applyOperations_eq_ok h
  have hasked : ReaderAsked itemId descriptor draft := by
    obtain ⟨before, after, rfl⟩ := List.append_of_mem hmem
    obtain ⟨first, -, hrest⟩ := foldlM_append_eq_ok.mp hdraft
    obtain ⟨second, hsecond, hrest⟩ := foldlM_cons_eq_ok.mp hrest
    refine foldlM_preserves (P := ReaderAsked itemId descriptor)
      (fun _ _ _ _ hb hc => applyOperation_readerAsked hb hc) ?_ hrest
    simp only [applyOperation, mutate, eq_ok] at hsecond
    obtain ⟨_, -, _, -, _, -, rfl⟩ := hsecond
    exact ⟨List.mem_cons_self, _, Std.ExtTreeMap.getElem?_insert_self, rfl⟩
  obtain ⟨reader, hreader, hdesc⟩ := hasked.asked
  obtain ⟨hpriorMem, hdraftMem⟩ := applyRotations_asked hrot hreader
  obtain ⟨items, rfl, hids⟩ := applyRotations_frame hrot
  have hnextMem : itemId ∈ items := (hids itemId).mpr hdraftMem
  obtain ⟨reached, rotated, hagree, hround, hitems, -⟩ := applyRotations_round hrot hpriorMem hnextMem
  rw [← hagree.readerRotation] at hreader
  obtain ⟨item, hitem, hcontent⟩ := rotateItem_installs hround hreader
  exact ⟨item, hitems.trans hitem, hcontent.trans hdesc⟩

end Operations

section Run

variable {genesis : PolicyGenesisV1} {index : Nat} {timestamp : UInt64} {state next : PolicyState}
  {revision : SignedPolicyRevisionV1}

theorem replayRevision_advanced (hkept : KeepsDescriptorRevisions state revision.operations)
    (h : replayRevision genesis index timestamp state revision = .ok next) : ItemsAdvanced state next := by
  obtain ⟨reached, terminal, hreach, -, rfl⟩ := (replayRevision_accepted h).result
  rcases revisionState_cases hreach with ⟨-, rfl⟩ | hreach
  · exact ⟨fun _ hused => hused, (ItemsAdvanced.refl state).items⟩
  · have hadv := applyOperations_advanced hkept hreach
    exact ⟨hadv.used, hadv.items⟩

theorem replayRevision_tombstones (h : replayRevision genesis index timestamp state revision = .ok next)
    (hdeleted : itemId ∈ state.tombstones ∨
      ∃ descriptorDigest revisionHash at', .itemDelete itemId descriptorDigest revisionHash at' ∈ revision.operations) :
    itemId ∈ next.tombstones := by
  obtain ⟨reached, terminal, hreach, -, rfl⟩ := (replayRevision_accepted h).result
  rcases revisionState_cases hreach with ⟨hempty, rfl⟩ | hreach
  · rcases hdeleted with hbefore | ⟨_, _, _, hmem⟩
    · exact hbefore
    · rw [hempty] at hmem
      cases hmem
  · have hdead := applyOperations_tombstones hreach hdeleted
    exact hdead

theorem replayRevision_installs (h : replayRevision genesis index timestamp state revision = .ok next)
    (hmem : .itemReaderSetChange itemId priorEpoch nextEpoch priorReaders nextReaders descriptor currentHash ∈
      revision.operations) :
    ∃ item, next.items[itemId]? = some item ∧ item.descriptor = descriptor := by
  obtain ⟨reached, terminal, hreach, -, rfl⟩ := (replayRevision_accepted h).result
  rcases revisionState_cases hreach with ⟨hempty, rfl⟩ | hreach
  · rw [hempty] at hmem
    cases hmem
  · have hinstalled := applyOperations_installs hreach hmem
    exact hinstalled

variable {journal : PolicyJournalV1} {catalog : BTreeMap Digest32 WitnessPolicy} {final : PolicyState}

theorem replay_tombstones (h : replayPolicyWithCatalog journal catalog = .ok final)
    (hrev : revision ∈ journal.revisions)
    (hmem : .itemDelete itemId descriptorDigest revisionHash at' ∈ revision.operations) :
    itemId ∈ final.tombstones := by
  refine replay_induction (P := fun revisions state => revision ∈ revisions → itemId ∈ state.tombstones) ?_ ?_ h hrev
  · intro _ _ hnone
    cases hnone
  · intro before last after timestamp prior next _ _ hprior hnext hlisted
    refine replayRevision_tombstones hnext ?_
    rcases List.mem_append.mp hlisted with hbefore | hlast
    · exact .inl (hprior hbefore)
    · rw [List.mem_singleton] at hlast
      exact .inr ⟨_, _, _, hlast ▸ hmem⟩

theorem replay_advanced
    (h : replayPolicyWithCatalog { journal with revisions := before ++ suffix } catalog = .ok final)
    (hkept : ∀ first revision last prior, suffix = first ++ revision :: last →
      replayPolicyWithCatalog { journal with revisions := before ++ first } catalog = .ok prior →
      KeepsDescriptorRevisions prior revision.operations) :
    ∃ start, replayPolicyWithCatalog { journal with revisions := before } catalog = .ok start ∧
      ItemsAdvanced start final := by
  induction suffix using List.reverseRecOn generalizing final with
  | nil =>
    rw [List.append_nil] at h
    exact ⟨final, h, .refl final⟩
  | append_singleton suffix revision ih =>
    have hsplit : before ++ (suffix ++ [revision]) = (before ++ suffix) ++ revision :: [] := by simp
    obtain ⟨prior, next, timestamp, hprior, hnext, hround⟩ := replay_split h hsplit
    obtain rfl : next = final := by
      rw [List.append_assoc] at hnext
      exact ok_unique hnext h
    obtain ⟨start, hstart, hadv⟩ := ih hprior fun first middle last state hfirst hstate =>
      hkept first middle (last ++ [revision]) state (by rw [hfirst, List.append_assoc, List.cons_append]) hstate
    exact ⟨start, hstart, hadv.trans (replayRevision_advanced (hkept suffix revision [] prior rfl hprior) hround)⟩

end Run

end Jury.Policy
