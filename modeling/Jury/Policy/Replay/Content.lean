import Jury.Policy.Replay.Complete

-- New slots come with new content: what an item's descriptor, its current revision and its slots have
-- to do with one another along an accepted journal.
namespace Jury.Policy

open Lib Protocol Vault

def DescriptorsCarryEpoch (state : PolicyState) : Prop :=
  ∀ (itemId : ItemId) (item : ItemPolicyState), state.items[itemId]? = some item →
    item.descriptor.keyEpoch = item.keyEpoch

-- An item before and after a revision: slots are replaced only together with the content, and the
-- descriptor advances whenever it is renamed or rotated.
structure ContentRenewed (operations : List PolicyOperationV1) (itemId : ItemId) (prior next : ItemPolicyState) :
    Prop where
  replaced : next.keyEpoch ≠ prior.keyEpoch ∨ next.directSlots ≠ prior.directSlots ∨
      next.witnessedState ≠ prior.witnessedState →
    next.descriptor ≠ prior.descriptor ∧ next.currentItemRevisionHash ≠ prior.currentItemRevisionHash ∧
    ∃ priorEpoch nextEpoch priorReaders nextReaders,
      .itemReaderSetChange itemId priorEpoch nextEpoch priorReaders nextReaders next.descriptor
        next.currentItemRevisionHash ∈ operations
  advanced : (next.keyEpoch ≠ prior.keyEpoch ∨
      ∃ revision descriptor, .itemRename itemId revision descriptor ∈ operations) →
    prior.descriptor.revision < next.descriptor.revision

-- What replay does not ask of operations: an item is created with a descriptor of its own epoch, content
-- that replaces other content is newer than it, and a revision number to be advanced is not the last one.
def bringsFreshContent (prior : PolicyState) : PolicyOperationV1 → Bool
  | .itemCreate _ _ keyEpoch descriptor _ _ _ => descriptor.keyEpoch == keyEpoch
  | .itemReaderSetChange itemId _ _ _ _ descriptor currentHash =>
    prior.items[itemId]?.all fun item =>
      decide (item.descriptor.revision < descriptor.revision) && currentHash != item.currentItemRevisionHash
  | .itemRename _ revision _ => decide (revision.toNat < 2 ^ 64 - 1)
  | _ => true

def FreshContent (prior : PolicyState) (operations : List PolicyOperationV1) : Prop :=
  ∀ operation ∈ operations, bringsFreshContent prior operation = true

variable {next prior state : PolicyState} {operations : List PolicyOperationV1} {itemId : ItemId}
variable {descriptor : DescriptorMetadataV1} {operation : PolicyOperationV1} {item priorItem : ItemPolicyState}
variable {draft out start : Draft} {revision sequence timestamp : UInt64}

theorem FreshContent.created (h : FreshContent prior operations) {keyEpoch : UInt64} {currentHash : Digest32}
    {directSlots : List DirectSlotV1} {witnessedState : Option WitnessedStateV1}
    (hmem : .itemCreate itemId itemKind keyEpoch descriptor currentHash directSlots witnessedState ∈ operations) :
    descriptor.keyEpoch = keyEpoch := by
  have hcreated := h _ hmem
  simpa [bringsFreshContent] using hcreated

inductive ItemOrigin (state : PolicyState) (operation : PolicyOperationV1) (itemId : ItemId)
    (item : ItemPolicyState) : Prop
  | regranted (before : ItemPolicyState) (found : state.items[itemId]? = some before)
      (same : item = { before with grants := item.grants })
  | renamed (before : ItemPolicyState) (descriptor : DescriptorMetadataV1)
      (asked : operation = .itemRename itemId before.descriptor.revision descriptor)
      (found : state.items[itemId]? = some before) (epoch : descriptor.keyEpoch = before.keyEpoch)
      (same : item = { before with descriptor })
  | created (unused : itemId ∉ state.historicalItemIds)
      (asked : operation = .itemCreate itemId item.itemKind item.keyEpoch item.descriptor item.currentItemRevisionHash
        item.directSlots item.witnessedState)

theorem ItemOrigin.of_insert (hnew : ItemOrigin state operation key new)
    (h : (state.items.insert key new)[itemId]? = some item) : ItemOrigin state operation itemId item := by
  obtain ⟨rfl, rfl⟩ | ⟨-, h⟩ := getElem?_insert_eq_some.mp h
  · exact hnew
  · exact .regranted item h rfl

theorem moveGrant_eq (priorId nextId : PrincipalId) (item : ItemPolicyState) :
    moveGrant priorId nextId item = { item with grants := (moveGrant priorId nextId item).grants } := by
  unfold moveGrant
  split <;> rfl

-- The operations of a revision, before its rotations, leave slots and content of an item alone; its
-- descriptor may be renamed.
structure ItemKept (before after : ItemPolicyState) : Prop where
  keyEpoch : after.keyEpoch = before.keyEpoch
  directSlots : after.directSlots = before.directSlots
  witnessedState : after.witnessedState = before.witnessedState
  currentHash : after.currentItemRevisionHash = before.currentItemRevisionHash
  revision : before.descriptor.revision ≤ after.descriptor.revision

structure ItemsKept (before after : PolicyState) : Prop where
  used : ∀ itemId, itemId ∈ before.historicalItemIds → itemId ∈ after.historicalItemIds
  items : ∀ (itemId : ItemId) (item : ItemPolicyState), itemId ∈ before.historicalItemIds →
    after.items[itemId]? = some item → ∃ old, before.items[itemId]? = some old ∧ ItemKept old item

theorem ItemKept.refl (item : ItemPolicyState) : ItemKept item item := ⟨rfl, rfl, rfl, rfl, UInt64.le_refl _⟩

theorem ItemKept.trans (h : ItemKept a b) (h' : ItemKept b c) : ItemKept a c where
  keyEpoch := h'.keyEpoch.trans h.keyEpoch
  directSlots := h'.directSlots.trans h.directSlots
  witnessedState := h'.witnessedState.trans h.witnessedState
  currentHash := h'.currentHash.trans h.currentHash
  revision := UInt64.le_trans h.revision h'.revision

theorem ItemsKept.trans (h : ItemsKept a b) (h' : ItemsKept b c) : ItemsKept a c where
  used itemId hused := h'.used itemId (h.used itemId hused)
  items itemId item hused hitem := by
    obtain ⟨middle, hmiddle, hkept'⟩ := h'.items itemId item (h.used itemId hused) hitem
    obtain ⟨old, hold, hkept⟩ := h.items itemId middle hused hmiddle
    exact ⟨old, hold, hkept.trans hkept'⟩

theorem le_saturatingAdd (a b : UInt64) : a ≤ saturatingAdd a b := by
  rw [UInt64.le_iff_toNat_le, toNat_saturatingAdd]
  have := a.toNat_lt
  omega

inductive ContentOrigin (draft : Draft) (itemId : ItemId) (item next : ItemPolicyState) : Prop
  | old (descriptor : next.descriptor = item.descriptor)
  | replaced (reader : ReaderRotation) (asked : draft.readerRotations[itemId]? = some reader)
      (descriptor : next.descriptor = reader.replacementDescriptor)
      (currentHash : next.currentItemRevisionHash = reader.replacementCurrentItemRevisionHash)

-- What becomes of an item in its own round: nothing, or it gets the slots it was asked to get under the
-- next epoch, which its descriptor must carry.
inductive ItemRotation (draft : Draft) (itemId : ItemId) (prior item next : ItemPolicyState) : Prop
  | kept (same : next = item)
  | resealed (slot : SlotRotation) (asked : draft.slotRotations[itemId]? = some slot)
      (epoch : next.keyEpoch.toNat = prior.keyEpoch.toNat + 1) (nextEpoch : slot.nextEpoch = next.keyEpoch)
      (directSlots : slot.directSlots = next.directSlots) (witnessedState : slot.witnessedState = next.witnessedState)
      (carried : next.descriptor.keyEpoch = next.keyEpoch) (content : ContentOrigin draft itemId item next)

theorem rotateItem_unasked
    (h : rotateItem prior draft itemId = .ok out) (hslot : draft.slotRotations[itemId]? = none) :
    ∃ item, draft.next.items[itemId]? = some item ∧ out.next.items = draft.next.items.insert itemId item := by
  simp only [rotateItem, eq_ok] at h
  obtain ⟨-, -, -, hboth, _, -, expected, -, item, hitem, content, hcontent, next, hnext, rfl⟩ := h
  have hreader : draft.readerRotations[itemId]? = none := by
    cases hreader : draft.readerRotations[itemId]? with
    | none => rfl
    | some reader =>
      rw [hslot, hreader] at hboth
      cases hboth
  rw [hreader] at hcontent
  rw [hslot] at hnext
  obtain rfl := Except.ok.inj hcontent
  obtain rfl := Except.ok.inj hnext
  exact ⟨item, hitem, rfl⟩

structure Resealed (draft : Draft) (itemId : ItemId) (slot : SlotRotation) (prior item next : ItemPolicyState) :
    Prop where
  epoch : next.keyEpoch.toNat = prior.keyEpoch.toNat + 1
  nextEpoch : slot.nextEpoch = next.keyEpoch
  directSlots : slot.directSlots = next.directSlots
  witnessedState : slot.witnessedState = next.witnessedState
  carried : next.descriptor.keyEpoch = next.keyEpoch
  content : ContentOrigin draft itemId item next

section Rotated

variable (h : rotateItem prior draft itemId = .ok out) (hprior : prior.items[itemId]? = some priorItem)

include h hprior

theorem rotateItem_asked (hslot : draft.slotRotations[itemId]? = some slot) :
    ∃ item next, draft.next.items[itemId]? = some item ∧ out.next.items = draft.next.items.insert itemId next ∧
      Resealed draft itemId slot priorItem item next := by
  simp only [rotateItem, eq_ok] at h
  obtain ⟨-, -, -, -, _, hfound, expected, hexp, item, hitem, content, hcontent, next, hnext, rfl⟩ := h
  obtain rfl : priorItem = _ := some_unique hprior hfound
  rw [hslot] at hnext
  simp only [rotateSlots, eq_ok, bne_eq_false_iff_eq] at hnext
  obtain ⟨-, hslotEpoch, -, -, -, hcarried, rfl⟩ := hnext
  refine ⟨item, _, hitem, rfl, checkedAdd_eq_some.mp hexp, hslotEpoch, rfl, rfl, hcarried, ?_⟩
  cases hreader : draft.readerRotations[itemId]? with
  | none =>
    rw [hreader] at hcontent
    obtain rfl := Except.ok.inj hcontent
    exact .old rfl
  | some reader =>
    rw [hreader] at hcontent
    simp only [rotateContent, eq_ok] at hcontent
    obtain ⟨-, -, rfl⟩ := hcontent
    exact .replaced reader hreader rfl rfl

theorem rotateItem_rotation :
    ∃ item next, draft.next.items[itemId]? = some item ∧ out.next.items = draft.next.items.insert itemId next ∧
      ItemRotation draft itemId priorItem item next := by
  cases hslot : draft.slotRotations[itemId]? with
  | none =>
    obtain ⟨item, hitem, hitems⟩ := rotateItem_unasked h hslot
    exact ⟨item, item, hitem, hitems, .kept rfl⟩
  | some slot =>
    obtain ⟨item, next, hitem, hitems, hsealed⟩ := rotateItem_asked h hprior hslot
    exact ⟨item, next, hitem, hitems, .resealed slot hslot hsealed.epoch hsealed.nextEpoch hsealed.directSlots
      hsealed.witnessedState hsealed.carried hsealed.content⟩

end Rotated

theorem rotateItem_carriesEpoch (hdraft : DescriptorsCarryEpoch draft.next) (hitem : itemId ∈ prior.items)
    (h : rotateItem prior draft itemId = .ok out) : DescriptorsCarryEpoch out.next := by
  obtain ⟨priorItem, hprior⟩ := mem_iff_getElem?.mp hitem
  obtain ⟨item, next, hfound, hitems, hrotation⟩ := rotateItem_rotation h hprior
  intro other found hother
  rw [hitems] at hother
  obtain ⟨rfl, rfl⟩ | ⟨-, hother⟩ := getElem?_insert_eq_some.mp hother
  · cases hrotation with
    | kept hsame => exact hsame ▸ hdraft _ item hfound
    | resealed _ _ _ _ _ _ hcarried => exact hcarried
  · exact hdraft other found hother

theorem applyRotations_carriesEpoch
    (hdraft : DescriptorsCarryEpoch draft.next) (h : applyRotations prior draft = .ok next) :
    DescriptorsCarryEpoch next := by
  simp only [applyRotations, eq_ok] at h
  obtain ⟨out, hloop, -, -, rfl⟩ := h
  exact foldlM_preserves (P := fun d => DescriptorsCarryEpoch d.next)
    (fun itemId hmem _ _ hb hc => rotateItem_carriesEpoch hb (mem_commonItems.mp hmem).1 hc) hdraft hloop

variable [Crypto]

theorem mutate_origin (h : mutate draft operation = .ok out) (hitem : out.next.items[itemId]? = some item) :
    ItemOrigin draft.next operation itemId item := by
  cases operation
  case itemCreate =>
    simp only [mutate, createItem, eq_ok] at h
    obtain ⟨-, ⟨-, hfresh, grants, -, rfl⟩, rfl⟩ := h
    exact ItemOrigin.of_insert (.created (not_mem_of_contains hfresh) rfl) hitem
  case itemRename =>
    simp only [mutate, renameItem, eq_ok, passed] at h
    obtain ⟨-, ⟨before, hbefore, -, ⟨rfl, hepoch⟩, rfl⟩, rfl⟩ := h
    exact ItemOrigin.of_insert (.renamed before _ rfl hbefore hepoch rfl) hitem
  case itemRoleChange =>
    simp only [mutate, changeRole, eq_ok] at h
    obtain ⟨-, ⟨-, -, -, -, before, hbefore, -, -, rfl⟩, rfl⟩ := h
    exact ItemOrigin.of_insert (.regranted before hbefore rfl) hitem
  case itemDelete =>
    simp only [mutate, deleteItem, eq_ok] at h
    obtain ⟨-, ⟨-, -, -, -, rfl⟩, rfl⟩ := h
    exact .regranted item (getElem?_of_erase hitem) rfl
  case principalReplace =>
    simp only [mutate, replacePrincipal, eq_ok] at h
    obtain ⟨-, ⟨-, -, _, -, -, -, -, -, rfl⟩, rfl⟩ := h
    rw [Std.ExtTreeMap.getElem?_map, Option.map_eq_some_iff] at hitem
    obtain ⟨before, hbefore, rfl⟩ := hitem
    exact .regranted before hbefore (moveGrant_eq _ _ _)
  all_goals
    simp only [mutate, addPrincipal, changeLabel, removePrincipal, grantOwner, revokeOwner, recordDescriptor,
      eq_ok] at h
    have hsame : out.next.items = draft.next.items := by aesop
    exact .regranted item (hsame ▸ hitem) rfl

theorem mutate_used (h : mutate draft operation = .ok out) (hused : itemId ∈ draft.next.historicalItemIds) :
    itemId ∈ out.next.historicalItemIds := by
  cases operation
  case itemCreate =>
    simp only [mutate, createItem, eq_ok] at h
    obtain ⟨-, ⟨-, -, -, -, rfl⟩, rfl⟩ := h
    exact Std.ExtTreeSet.mem_insert.mpr (.inr hused)
  all_goals
    simp only [mutate, addPrincipal, changeLabel, removePrincipal, grantOwner, revokeOwner, renameItem, deleteItem,
      changeRole, replacePrincipal, recordDescriptor, eq_ok] at h
    have hsame : out.next.historicalItemIds = draft.next.historicalItemIds := by aesop
    exact hsame ▸ hused

theorem validateOperation_rename
    (h : validateOperation (.itemRename itemId revision descriptor) sequence vaultId genesisFingerprint = .ok ()) :
    descriptor.revision = saturatingAdd revision 1 := by
  simp only [validateOperation, eq_ok, passed] at h
  obtain ⟨-, ⟨-, hrev⟩, -⟩ := h
  exact hrev

theorem applyOperation_itemsKept (h : applyOperation prior sequence draft operation = .ok out) :
    ItemsKept draft.next out.next := by
  obtain ⟨hvalid, keys, hmutate⟩ := applyOperation_eq_ok h
  refine ⟨fun itemId hused => mutate_used hmutate hused, fun itemId item hused hitem => ?_⟩
  cases mutate_origin hmutate hitem with
  | regranted before hfound hsame =>
    rw [hsame]
    exact ⟨before, hfound, rfl, rfl, rfl, rfl, UInt64.le_refl _⟩
  | renamed before descriptor hasked hfound _ hsame =>
    subst hasked hsame
    refine ⟨before, hfound, rfl, rfl, rfl, rfl, ?_⟩
    rw [validateOperation_rename hvalid]
    exact le_saturatingAdd _ _
  | created hunused _ => exact absurd hused hunused

theorem applyOperations_itemsKept (h : operations.foldlM (applyOperation prior sequence) start = .ok draft) :
    ItemsKept start.next draft.next :=
  foldlM_preserves (P := fun d => ItemsKept start.next d.next)
    (fun _ _ _ _ hb hc => hb.trans (applyOperation_itemsKept hc))
    ⟨fun _ hused => hused, fun _ item _ hitem => ⟨item, hitem, .refl item⟩⟩ h

-- A rename somewhere among the operations shows in the end, for the others never take a revision back.
theorem applyOperations_renames (h : operations.foldlM (applyOperation prior sequence) start = .ok draft)
    (hrename : .itemRename itemId revision descriptor ∈ operations) (hbound : revision.toNat < 2 ^ 64 - 1)
    (hused : itemId ∈ start.next.historicalItemIds) (hold : start.next.items[itemId]? = some old)
    (hitem : draft.next.items[itemId]? = some item) : old.descriptor.revision < item.descriptor.revision := by
  obtain ⟨before, after, rfl⟩ := List.append_of_mem hrename
  obtain ⟨first, hfirst, hrest⟩ := foldlM_append_eq_ok.mp h
  obtain ⟨second, hsecond, hrest⟩ := foldlM_cons_eq_ok.mp hrest
  have hbefore := applyOperations_itemsKept hfirst
  have hround := applyOperation_itemsKept hsecond
  have hafter := applyOperations_itemsKept hrest
  have hused' := hbefore.used itemId hused
  obtain ⟨renamed, hrenamed, hkept⟩ := hafter.items itemId item (hround.used itemId hused') hitem
  obtain ⟨hvalid, keys, hmutate⟩ := applyOperation_eq_ok hsecond
  simp only [mutate, renameItem, eq_ok, passed] at hmutate
  obtain ⟨-, ⟨current, hcur, -, ⟨rfl, -⟩, rfl⟩, rfl⟩ := hmutate
  rw [Std.ExtTreeMap.getElem?_insert_self] at hrenamed
  obtain rfl := Option.some.inj hrenamed
  obtain ⟨old', hold', hkeptBefore⟩ := hbefore.items itemId current hused hcur
  obtain rfl : old = old' := some_unique hold hold'
  have hstep : current.descriptor.revision < descriptor.revision := by
    rw [validateOperation_rename hvalid, UInt64.lt_iff_toNat_lt, toNat_saturatingAdd]
    have hone : (1 : UInt64).toNat = 1 := rfl
    omega
  exact UInt64.lt_of_le_of_lt hkeptBefore.revision (UInt64.lt_of_lt_of_le hstep hkept.revision)

theorem applyOperations_carriesEpoch
    (hcreated : ∀ itemId itemKind keyEpoch descriptor currentHash directSlots witnessedState,
      .itemCreate itemId itemKind keyEpoch descriptor currentHash directSlots witnessedState ∈ operations →
      descriptor.keyEpoch = keyEpoch) (hstart : DescriptorsCarryEpoch start.next)
    (h : operations.foldlM (applyOperation prior sequence) start = .ok draft) : DescriptorsCarryEpoch draft.next := by
  refine foldlM_preserves (P := fun d => DescriptorsCarryEpoch d.next) (fun operation hmem b c hb hc => ?_) hstart h
  obtain ⟨-, keys, hmutate⟩ := applyOperation_eq_ok hc
  intro itemId item hitem
  cases mutate_origin hmutate hitem with
  | regranted before hfound hsame =>
    rw [hsame]
    exact hb itemId before hfound
  | renamed before descriptor _ _ hepoch hsame => exact hsame ▸ hepoch
  | created _ hasked => exact hcreated _ _ _ _ _ _ _ (hasked ▸ hmem)

-- The step: the draft carries the old epoch, so that new slots without new content are refused.
theorem applyOperations_renewed
    (hids : ItemIdsUsed prior) (hprior : DescriptorsCarryEpoch prior) (hfresh : FreshContent prior operations)
    (h : applyOperations prior sequence operations = .ok next) :
    DescriptorsCarryEpoch next ∧ ∀ (itemId : ItemId) (priorItem nextItem : ItemPolicyState),
      prior.items[itemId]? = some priorItem → next.items[itemId]? = some nextItem →
      ContentRenewed operations itemId priorItem nextItem := by
  obtain ⟨draft, hdraft, hrot, -⟩ := applyOperations_eq_ok h
  have hcarried := applyOperations_carriesEpoch (fun _ _ _ _ _ _ _ => hfresh.created) hprior hdraft
  have hkept := applyOperations_itemsKept hdraft
  have hfrom : RotationsFrom operations draft := applyOperations_rotationsFrom ⟨by simp, by simp⟩ hdraft
  refine ⟨applyRotations_carriesEpoch hcarried hrot, fun itemId priorItem nextItem hold hnew => ?_⟩
  have hpriorMem : itemId ∈ prior.items := mem_of_getElem? hold
  have hnextMem : itemId ∈ next.items := mem_of_getElem? hnew
  have hused := hids.live itemId hpriorMem
  obtain ⟨reached, rotated, hagree, hround, hitems, -⟩ := applyRotations_round hrot hpriorMem hnextMem
  obtain ⟨item, found, hitem, hinserted, hrotation⟩ := rotateItem_rotation hround hold
  obtain rfl : found = nextItem := by
    rw [hitems, hinserted, Std.ExtTreeMap.getElem?_insert_self] at hnew
    exact Option.some.inj hnew
  rw [hagree.item] at hitem
  obtain ⟨old, hfound, hsame⟩ := hkept.items itemId item hused hitem
  obtain rfl : priorItem = old := some_unique hold hfound
  cases hrotation with
  | kept hunchanged =>
    subst hunchanged
    constructor
    · rintro (hepoch | hdir | hwit)
      · exact absurd hsame.keyEpoch hepoch
      · exact absurd hsame.directSlots hdir
      · exact absurd hsame.witnessedState hwit
    · rintro (hepoch | ⟨revision, descriptor, hrename⟩)
      · exact absurd hsame.keyEpoch hepoch
      · have hbound := hfresh _ hrename
        simp only [bringsFreshContent, decide_eq_true_eq] at hbound
        exact applyOperations_renames hdraft hrename hbound hused hold hitem
  | resealed _ _ hepoch _ _ _ hcarries hcontent =>
    cases hcontent with
    | old hdesc =>
      exfalso
      have hstale := hcarried itemId item hitem
      rw [← hdesc, hcarries, hsame.keyEpoch] at hstale
      rw [hstale] at hepoch
      omega
    | replaced reader hreader hdesc hhash =>
      rw [hagree.readerRotation] at hreader
      have hasked := hfrom.reader itemId reader hreader
      have hnewer := hfresh _ hasked
      simp only [bringsFreshContent, hold, Option.all_some, holds, bne_iff_ne] at hnewer
      obtain ⟨hrev, hother⟩ := hnewer
      rw [← hdesc, ← hhash] at hasked
      refine ⟨fun _ => ⟨fun heq => ?_, hhash ▸ hother, _, _, _, _, hasked⟩, fun _ => hdesc ▸ hrev⟩
      rw [heq, hprior itemId priorItem hold] at hcarries
      rw [hcarries] at hepoch
      omega

-- What an accepted revision does to the items, in a state whose descriptors carry the epochs of their items.
theorem replayRevision_renewed {revision : SignedPolicyRevisionV1} (hids : ItemIdsUsed state)
    (hstate : DescriptorsCarryEpoch state) (hfresh : FreshContent state revision.operations)
    (h : replayRevision genesis index timestamp state revision = .ok next) :
    DescriptorsCarryEpoch next ∧ ∀ (itemId : ItemId) (priorItem nextItem : ItemPolicyState),
      state.items[itemId]? = some priorItem → next.items[itemId]? = some nextItem →
      ContentRenewed revision.operations itemId priorItem nextItem := by
  obtain ⟨reached, terminal, hreach, -, rfl⟩ := (replayRevision_accepted h).result
  rcases revisionState_cases hreach with ⟨hempty, rfl⟩ | hreach
  · -- An empty revision has no operation that could ask for anything.
    refine ⟨hstate, fun itemId priorItem nextItem hold hnew => ?_⟩
    obtain rfl : priorItem = nextItem := some_unique hold hnew
    constructor
    · rintro (hepoch | hdir | hwit)
      · exact absurd rfl hepoch
      · exact absurd rfl hdir
      · exact absurd rfl hwit
    · rintro (hepoch | ⟨_, _, hrename⟩)
      · exact absurd rfl hepoch
      · rw [hempty] at hrename
        cases hrename
  · have hrenewed := applyOperations_renewed hids hstate hfresh hreach
    exact hrenewed

-- The run: a journal in which every revision brings fresh content.
theorem replay_carriesEpoch {journal : PolicyJournalV1} {catalog : BTreeMap Digest32 WitnessPolicy}
    (hfresh : ∀ before revision after prior, journal.revisions = before ++ revision :: after →
      replayPolicyWithCatalog { journal with revisions := before } catalog = .ok prior →
      FreshContent prior revision.operations) (h : replayPolicyWithCatalog journal catalog = .ok final) :
    DescriptorsCarryEpoch final := by
  refine replay_induction (P := fun _ => DescriptorsCarryEpoch) ?_ (fun hsplit hprior hcarries hround => ?_) h
  · intro _ _ itemId item hitem
    simp [genesisState] at hitem
  · exact (replayRevision_renewed (replay_itemIds hprior) hcarries (hfresh _ _ _ _ hsplit hprior) hround).1

theorem content_renewed (journal : PolicyJournalV1) (catalog : BTreeMap Digest32 WitnessPolicy) (final : PolicyState)
    (h : replayPolicyWithCatalog journal catalog = .ok final)
    (hfresh : ∀ before revision after prior, journal.revisions = before ++ revision :: after →
      replayPolicyWithCatalog { journal with revisions := before } catalog = .ok prior →
      FreshContent prior revision.operations) :
    DescriptorsCarryEpoch final ∧ ∀ before revision after, journal.revisions = before ++ revision :: after →
      ∃ prior next,
        replayPolicyWithCatalog { journal with revisions := before } catalog = .ok prior ∧
        replayPolicyWithCatalog { journal with revisions := before ++ [revision] } catalog = .ok next ∧
        DescriptorsCarryEpoch prior ∧ DescriptorsCarryEpoch next ∧
        ∀ itemId priorItem nextItem, prior.items[itemId]? = some priorItem → next.items[itemId]? = some nextItem →
          ContentRenewed revision.operations itemId priorItem nextItem := by
  refine ⟨replay_carriesEpoch hfresh h, fun before revision after hsplit => ?_⟩
  obtain ⟨prior, next, timestamp, hprior, hnext, hrev⟩ := replay_split h hsplit
  have hcarries : DescriptorsCarryEpoch prior := by
    refine replay_carriesEpoch (fun first later rest state hfirst hstate => ?_) hprior
    refine hfresh first later (rest ++ revision :: after) state ?_ hstate
    rw [hsplit, show before = first ++ later :: rest from hfirst, List.append_assoc, List.cons_append]
  have hrenewed := replayRevision_renewed (replay_itemIds hprior) hcarries
    (hfresh before revision after prior hsplit hprior) hrev
  exact ⟨prior, next, hprior, hnext, hcarries, hrenewed.1, hrenewed.2⟩

end Jury.Policy

namespace Jury.Policy.Sample

open Lib Protocol.Vault Protocol.Sample

def freshAt (journal : PolicyJournalV1) (index : Nat) : Bool :=
  Returns (replayPolicyWithCatalog { journal with revisions := journal.revisions.take index } ∅) fun state =>
    journal.revisions[index]?.all fun revision => revision.operations.all (bringsFreshContent state)

theorem freshContent_of_freshAt {journal : PolicyJournalV1} {before : List SignedPolicyRevisionV1}
    {revision : SignedPolicyRevisionV1} (h : freshAt journal before.length = true)
    (hsplit : journal.revisions = before ++ revision :: after)
    (hprior : replayPolicyWithCatalog { journal with revisions := before } ∅ = .ok prior) :
    FreshContent prior revision.operations := by
  obtain ⟨state, hstate, hfresh⟩ := returns_iff.mp h
  have htake : journal.revisions.take before.length = before := by rw [hsplit, List.take_left']; rfl
  have hget : journal.revisions[before.length]? = some revision := by
    rw [hsplit, List.getElem?_append_right (Nat.le_refl _), Nat.sub_self]
    rfl
  rw [htake, hprior] at hstate
  obtain rfl := Except.ok.inj hstate
  rw [hget] at hfresh
  exact List.all_eq_true.mp hfresh

theorem content_renewed_revoked :
    ∃ final prior next revision, replayPolicyWithCatalog sharingJournal ∅ = .ok final ∧
      replayPolicyWithCatalog { sharingJournal with revisions := sharingJournal.revisions.take 1 } ∅ = .ok prior ∧
      sharingJournal.revisions[1]? = some revision ∧
      replayPolicyWithCatalog sharingJournal ∅ = .ok next ∧ DescriptorsCarryEpoch final ∧
      ∀ priorItem nextItem, prior.items[sharedItem]? = some priorItem → next.items[sharedItem]? = some nextItem →
        ContentRenewed revision.operations sharedItem priorItem nextItem := by
  have hlen : sharingJournal.revisions.length = 2 := by decide +kernel
  have hfresh : (freshAt sharingJournal 0 && freshAt sharingJournal 1) = true := by decide +kernel
  have hreplayed : (replayPolicyWithCatalog sharingJournal ∅).isOk = true := by decide +kernel
  generalize sharingJournal = journal at hlen hfresh hreplayed ⊢
  obtain ⟨final, hfinal⟩ := exists_eq_ok_of_isOk hreplayed
  obtain ⟨first, second, hrevs⟩ := List.length_eq_two.mp hlen
  rw [Bool.and_eq_true] at hfresh
  obtain ⟨hfirst, hsecond⟩ := hfresh
  obtain ⟨hcarries, hrenewed⟩ := content_renewed journal ∅ final hfinal fun before revision after prior hsplit hprior => by
    refine freshContent_of_freshAt ?_ hsplit hprior
    have hbound : before.length < 2 := by
      rw [← hlen, hsplit, List.length_append, List.length_cons]
      omega
    rcases Nat.lt_or_ge before.length 1 with hzero | hone
    · rwa [show before.length = 0 by omega]
    · rwa [show before.length = 1 by omega]
  obtain ⟨prior, next, hprior, hnext, -, -, hitems⟩ := hrenewed [first] second [] hrevs
  refine ⟨final, prior, next, second, hfinal, ?_, ?_, ?_, hcarries, hitems sharedItem⟩
  · rw [hrevs]
    exact hprior
  · rw [hrevs]
    rfl
  · rw [List.singleton_append, ← hrevs] at hnext
    exact hnext

-- An item whose descriptor is already said to be of epoch two, and then new slots for epoch two with the
-- content left as it is.
def rewrappingJournal : PolicyJournalV1 :=
  let created := extend (foundedBy 1 1000) [] 1 1001 [
    .itemCreate sharedItem .canonical 1 (metadata 1 2 50) (FixedBytes.replicate 32 7)
      (sharedSlots 1 1 50 [(1, .owner)]) none]
  extend created [] 1 1002 [.itemSlotsReplace sharedItem 2 (sharedSlots 2 2 70 [(1, .owner)]) none]

theorem slots_rewrapped :
    ∃ prior next priorItem nextItem,
      replayPolicyWithCatalog { rewrappingJournal with revisions := rewrappingJournal.revisions.take 1 } ∅ = .ok prior ∧
      replayPolicyWithCatalog rewrappingJournal ∅ = .ok next ∧
      prior.items[sharedItem]? = some priorItem ∧ next.items[sharedItem]? = some nextItem ∧
      priorItem.descriptor.keyEpoch ≠ priorItem.keyEpoch ∧
      nextItem.keyEpoch ≠ priorItem.keyEpoch ∧ nextItem.directSlots ≠ priorItem.directSlots ∧
      nextItem.descriptor = priorItem.descriptor ∧
      nextItem.currentItemRevisionHash = priorItem.currentItemRevisionHash := by
  have hprior : Returns
      (replayPolicyWithCatalog { rewrappingJournal with revisions := rewrappingJournal.revisions.take 1 } ∅)
      (fun state => state.items[sharedItem]?.any fun item =>
        item.keyEpoch == 1 && item.descriptor == metadata 1 2 50 &&
        item.currentItemRevisionHash == FixedBytes.replicate 32 7 &&
        item.directSlots == sharedSlots 1 1 50 [(1, .owner)]) = true := by decide +kernel
  have hnext : Returns (replayPolicyWithCatalog rewrappingJournal ∅)
      (fun state => state.items[sharedItem]?.any fun item =>
        item.keyEpoch == 2 && item.descriptor == metadata 1 2 50 &&
        item.currentItemRevisionHash == FixedBytes.replicate 32 7 &&
        item.directSlots == sharedSlots 2 2 70 [(1, .owner)]) = true := by decide +kernel
  obtain ⟨prior, hprior, hpriorItem⟩ := returns_iff.mp hprior
  obtain ⟨next, hnext, hnextItem⟩ := returns_iff.mp hnext
  obtain ⟨priorItem, hold, hpriorItem⟩ := (Option.any_eq_true _ _).mp hpriorItem
  obtain ⟨nextItem, hnew, hnextItem⟩ := (Option.any_eq_true _ _).mp hnextItem
  simp only [holds] at hpriorItem hnextItem
  obtain ⟨⟨⟨hepoch, hdesc⟩, hhash⟩, hslots⟩ := hpriorItem
  obtain ⟨⟨⟨hepoch', hdescriptor'⟩, hhash'⟩, hslots'⟩ := hnextItem
  refine ⟨prior, next, priorItem, nextItem, hprior, hnext, hold, hnew, ?_, ?_, ?_, ?_, ?_⟩
  · rw [hdesc, hepoch]
    decide
  · rw [hepoch, hepoch']
    decide
  · rw [hslots, hslots']
    decide +kernel
  · rw [hdesc, hdescriptor']
  · rw [hhash, hhash']

end Jury.Policy.Sample
