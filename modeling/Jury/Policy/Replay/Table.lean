import Jury.Policy.Replay.Sealing

-- What the slot table of an item says: which operation of the journal wrote it, what the format check of a
-- table has seen of its direct slots, and when its slots name the content the item currently has.
namespace Jury.Policy

open Lib Protocol Vault Std

variable {revision : SignedPolicyRevisionV1}

section Written

def writtenTable : PolicyOperationV1 → Option (ItemId × UInt64 × List DirectSlotV1 × Option WitnessedStateV1)
  | .itemCreate itemId _ keyEpoch _ _ directSlots witnessedState => some (itemId, keyEpoch, directSlots, witnessedState)
  | .itemSlotsReplace itemId nextEpoch directSlots witnessedState => some (itemId, nextEpoch, directSlots, witnessedState)
  | _ => none

def TablesWritten (revisions : List SignedPolicyRevisionV1) (state : PolicyState) : Prop :=
  ∀ (itemId : ItemId) (item : ItemPolicyState), state.items[itemId]? = some item →
    ∃ revision ∈ revisions, ∃ operation ∈ revision.operations,
      writtenTable operation = some (itemId, item.keyEpoch, item.directSlots, item.witnessedState)

variable [Crypto]

theorem replayRevision_written (hprior : TablesWritten before prior)
    (h : replayRevision genesis index timestamp prior revision = .ok next) :
    TablesWritten (before ++ [revision]) next := by
  intro itemId item hitem
  cases replayRevision_tables h itemId item hitem with
  | kept old hfound hepoch hdir hwit =>
    obtain ⟨earlier, hmem, operation, hop, hwritten⟩ := hprior itemId old hfound
    rw [hepoch, hdir, hwit]
    exact ⟨earlier, List.mem_append_left _ hmem, operation, hop, hwritten⟩
  | created itemKind descriptor currentHash hasked => exact ⟨revision, by simp, _, hasked, rfl⟩
  | replaced old hfound hepoch hasked => exact ⟨revision, by simp, _, hasked, rfl⟩

theorem replay_written (h : replayPolicyWithCatalog journal catalog = .ok state) :
    TablesWritten journal.revisions state := by
  refine replay_induction (P := TablesWritten) ?_ (fun _ _ hprior hnext => replayRevision_written hprior hnext) h
  intro _ _ itemId item hitem
  simp [genesisState] at hitem

end Written

section Direct

structure DirectSlotSealed (vaultId : VaultId) (itemId : ItemId) (keyEpoch : UInt64) (slot : DirectSlotV1) : Prop where
  schema : slot.slotSchema = 1
  algorithm : slot.slotAlgorithm = 1
  kem : slot.kem = 0x647a
  kdf : slot.kdf = 1
  aead : (VaultSuite.fromId slot.suite).map (·.hpkeAead) = some slot.aead
  vault : slot.vaultId = vaultId
  item : slot.itemId = itemId
  epoch : slot.keyEpoch = keyEpoch

-- The scan knows which recipients the slots so far have, and has seen no recipient twice in one role.
structure DirectScanned (slots : List DirectSlotV1) (scan : DirectSlotScan) : Prop where
  recipients : ∀ slot ∈ slots, slot.recipientPrincipalId ∈ scan.recipientRoles
  content : ∀ recipient role,
    (slotsFor slots recipient role).length = if (recipient, role) ∈ scan.recipientContent then 1 else 0

theorem slotsFor_append_singleton (slots : List DirectSlotV1) (slot : DirectSlotV1) (recipient : PrincipalId)
    (role : ContentRole) :
    (slotsFor (slots ++ [slot]) recipient role).length =
      (slotsFor slots recipient role).length +
        if slot.recipientPrincipalId = recipient ∧ slot.contentRole = role then 1 else 0 := by
  rw [slotsFor, List.filter_append, List.length_append, ← slotsFor]
  by_cases hrecip : slot.recipientPrincipalId = recipient
  · by_cases hrole : slot.contentRole = role
    · simp [hrecip, hrole]
    · simp [hrole]
  · simp [hrecip]

variable {vaultId : VaultId} {itemId : ItemId} {keyEpoch sequence : UInt64} {mode : ItemAccessMode}

theorem scanDirectSlot_sealed (h : scanDirectSlot vaultId itemId keyEpoch sequence mode scan slot = .ok out) :
    DirectSlotSealed vaultId itemId keyEpoch slot := by
  simp only [scanDirectSlot, eq_ok, passed, and_assoc] at h
  obtain ⟨-, hschema, halgorithm, -, hkem, hkdf, haead, hvault, hitem, hepoch, -⟩ := h
  exact ⟨hschema, halgorithm, hkem, hkdf, haead, hvault, hitem, hepoch⟩

theorem scanDirectSlot_scanned (hscan : DirectScanned slots scan)
    (h : scanDirectSlot vaultId itemId keyEpoch sequence mode scan slot = .ok out) :
    DirectScanned (slots ++ [slot]) out := by
  simp only [scanDirectSlot, eq_ok] at h
  obtain ⟨-, -, -, -, -, -, -, hfresh, -, -, -, -, rfl⟩ := h
  have hunseen := not_mem_of_contains hfresh
  constructor
  · intro other hother
    rcases List.mem_append.mp hother with hold | hnew
    · exact ExtTreeMap.mem_insert.mpr (.inr (hscan.recipients other hold))
    · obtain rfl := List.mem_singleton.mp hnew
      exact ExtTreeMap.mem_insert_self
  · intro recipient role
    rw [slotsFor_append_singleton, hscan.content]
    by_cases hmatch : slot.recipientPrincipalId = recipient ∧ slot.contentRole = role
    · obtain ⟨rfl, rfl⟩ := hmatch
      simp [hunseen]
    · rw [if_neg hmatch, Nat.add_zero]
      have hne : (slot.recipientPrincipalId, slot.contentRole) ≠ (recipient, role) := by
        intro heq
        exact hmatch (Prod.mk.inj heq)
      simp only [ExtTreeSet.mem_insert, LawfulEqOrd.compare_eq_iff_eq, hne, false_or]

theorem validateDirectSlots_scanned (h : validateDirectSlots slots vaultId itemId keyEpoch sequence mode = .ok u) :
    (∀ slot ∈ slots, DirectSlotSealed vaultId itemId keyEpoch slot) ∧
      ∀ slot ∈ slots, ∀ role, (slotsFor slots slot.recipientPrincipalId role).length = 1 := by
  simp only [validateDirectSlots, eq_ok, List.any_eq_false] at h
  obtain ⟨scan, hscan, hboth⟩ := h
  refine ⟨foldlM_forall (fun _ _ _ hround => scanDirectSlot_sealed hround) hscan, fun slot hslot role => ?_⟩
  have hscanned : DirectScanned slots scan := by
    clear hboth hslot
    induction slots using List.reverseRecOn generalizing scan with
    | nil =>
      obtain rfl := Except.ok.inj hscan
      exact ⟨fun _ hslot => absurd hslot List.not_mem_nil, fun _ _ => by simp [slotsFor]⟩
    | append_singleton slots last ih =>
      obtain ⟨reached, hreach, hlast⟩ := foldlM_append_eq_ok.mp hscan
      obtain ⟨out, hout, hend⟩ := foldlM_cons_eq_ok.mp hlast
      obtain rfl := Except.ok.inj hend
      exact scanDirectSlot_scanned (ih reached hreach) hout
  have hrecip := hboth slot.recipientPrincipalId (ExtTreeMap.mem_keys.mpr (hscanned.recipients slot hslot))
  rw [hscanned.content, if_pos]
  simp only [Bool.or_eq_true, Bool.not_eq_true', not_or, Bool.not_eq_false, ExtTreeSet.contains_iff_mem] at hrecip
  cases role
  · exact hrecip.1
  · exact hrecip.2

end Direct

section Whole

def sealedContent (directSlots : List DirectSlotV1) (witnessedState : Option WitnessedStateV1) :
    List (ContentRole × UInt64 × RevisionSealId) :=
  directSlots.map (fun slot => (slot.contentRole, slot.revision, slot.revisionSealId)) ++
    ((witnessedState.map (·.slots)).getD []).map fun slot => (slot.contentRole, slot.revision, slot.revisionSealId)

-- The revisions and seals of the bodies that an item is known to have under a revision hash.
variable (bodies : ItemId → Digest32 → List (UInt64 × RevisionSealId))

def tableMatches (itemId : ItemId) (descriptor : DescriptorMetadataV1) (currentHash : Digest32)
    (directSlots : List DirectSlotV1) (witnessedState : Option WitnessedStateV1) : Bool :=
  (sealedContent directSlots witnessedState).all fun content =>
    match content.1 with
    | .descriptor => content.2 == (descriptor.revision, descriptor.revisionSealId)
    | .body => (bodies itemId currentHash).all fun body => content.2 == body

def replacesSlotsOf (itemId : ItemId) : PolicyOperationV1 → Bool
  | .itemSlotsReplace other _ _ _ => other == itemId
  | _ => false

def tableMatchesContent (itemId : ItemId) (descriptor : DescriptorMetadataV1) (currentHash : Digest32) :
    PolicyOperationV1 → Bool
  | .itemSlotsReplace other _ directSlots witnessedState =>
    other != itemId || tableMatches bodies itemId descriptor currentHash directSlots witnessedState
  | _ => true

-- What replay does not ask of the operations of a revision: slots are written together with the content
-- they are sealed for, and a new descriptor is never installed without new slots.
def sealsWhole (operations : List PolicyOperationV1) : PolicyOperationV1 → Bool
  | .itemCreate itemId _ keyEpoch descriptor currentHash directSlots witnessedState =>
    descriptor.keyEpoch == keyEpoch
      && tableMatches bodies itemId descriptor currentHash directSlots witnessedState
  | .itemRename itemId _ _ => operations.any (replacesSlotsOf itemId)
  | .itemReaderSetChange itemId _ _ _ _ descriptor currentHash =>
    operations.all (tableMatchesContent bodies itemId descriptor currentHash)
  | _ => true

def SealsWhole (operations : List PolicyOperationV1) : Prop :=
  ∀ operation ∈ operations, sealsWhole bodies operations operation = true

def itemMatches (itemId : ItemId) (item : ItemPolicyState) : Bool :=
  tableMatches bodies itemId item.descriptor item.currentItemRevisionHash item.directSlots item.witnessedState

def TablesMatch (state : PolicyState) : Prop :=
  ∀ (itemId : ItemId) (item : ItemPolicyState), state.items[itemId]? = some item → itemMatches bodies itemId item = true

variable {bodies} {prior : PolicyState} {operations : List PolicyOperationV1}

theorem SealsWhole.created (h : SealsWhole bodies operations)
    (hmem : .itemCreate itemId itemKind keyEpoch descriptor currentHash directSlots witnessedState ∈ operations) :
    descriptor.keyEpoch = keyEpoch ∧
      tableMatches bodies itemId descriptor currentHash directSlots witnessedState = true := by
  have hwhole := h _ hmem
  simpa only [sealsWhole, holds] using hwhole

variable {slot : SlotRotation} {itemId : ItemId} {sequence : UInt64}

theorem SealsWhole.replaced (h : SealsWhole bodies operations) {reader : ReaderRotation}
    (hslots : .itemSlotsReplace itemId slot.nextEpoch slot.directSlots slot.witnessedState ∈ operations)
    (hreader : .itemReaderSetChange itemId reader.priorEpoch reader.nextEpoch reader.priorReaderIds reader.nextReaderIds
      reader.replacementDescriptor reader.replacementCurrentItemRevisionHash ∈ operations) :
    tableMatches bodies itemId reader.replacementDescriptor reader.replacementCurrentItemRevisionHash slot.directSlots
      slot.witnessedState = true := by
  have hwhole := h _ hreader
  simp only [sealsWhole, List.all_eq_true] at hwhole
  have hmatches := hwhole _ hslots
  simpa [tableMatchesContent] using hmatches

-- While the rotations of a revision are carried out, an item whose slots no longer fit it has new ones waiting.
structure Pending (bodies : ItemId → Digest32 → List (UInt64 × RevisionSealId)) (prior : PolicyState)
    (operations : List PolicyOperationV1) (draft : Draft) : Prop where
  rotations : RotationsFrom operations draft
  carried : DescriptorsCarryEpoch draft.next
  waiting : ∀ (itemId : ItemId) (old item : ItemPolicyState), prior.items[itemId]? = some old →
    draft.next.items[itemId]? = some item → draft.slotRotations[itemId]?.isSome = true → item.keyEpoch = old.keyEpoch
  matched : ∀ (itemId : ItemId) (item : ItemPolicyState), draft.next.items[itemId]? = some item →
    itemMatches bodies itemId item = true ∨ draft.slotRotations[itemId]?.isSome = true

variable {out start : Draft}

theorem rotateItem_slotRotations (h : rotateItem prior draft itemId = .ok out) :
    out.slotRotations = draft.slotRotations.erase itemId := by
  obtain ⟨-, item, rfl⟩ := rotateItem_writes h
  rfl

-- New slots of an item that had its old epoch come with content of its own.
theorem Pending.resealed {old item next : ItemPolicyState} (hdraft : Pending bodies prior operations draft)
    (hwhole : SealsWhole bodies operations) (hold : prior.items[itemId]? = some old)
    (hitem : draft.next.items[itemId]? = some item) (hslot : draft.slotRotations[itemId]? = some slot)
    (h : Resealed draft itemId slot old item next) : itemMatches bodies itemId next = true := by
  cases h.content with
  | old hdesc =>
    exfalso
    have hstale := hdraft.carried itemId item hitem
    rw [hdraft.waiting itemId old item hold hitem (by simp [hslot]), ← hdesc, h.carried] at hstale
    have hepoch := h.epoch
    rw [hstale] at hepoch
    omega
  | replaced reader hreader hdesc hhash =>
    have hmatches := hwhole.replaced (hdraft.rotations.slots itemId slot hslot)
      (hdraft.rotations.reader itemId reader hreader)
    rw [itemMatches, hdesc, hhash, ← h.directSlots, ← h.witnessedState]
    exact hmatches

theorem rotateItem_pending (hwhole : SealsWhole bodies operations) (hrot : itemId ∈ prior.items)
    (hdraft : Pending bodies prior operations draft) (h : rotateItem prior draft itemId = .ok out) :
    Pending bodies prior operations out := by
  have herased := rotateItem_slotRotations h
  have hdone : out.slotRotations[itemId]? = none := by simp [herased]
  have hkept : ∀ other, other ≠ itemId → out.slotRotations[other]? = draft.slotRotations[other]? := by
    intro other hne
    rw [herased, ExtTreeMap.getElem?_erase, if_neg]
    exact fun heq => hne (LawfulEqOrd.eq_of_compare heq).symm
  have hcarried := rotateItem_carriesEpoch hdraft.carried hrot h
  obtain ⟨old, hold⟩ := mem_iff_getElem?.mp hrot
  have hround : ∃ next, out.next.items = draft.next.items.insert itemId next ∧ itemMatches bodies itemId next = true := by
    cases hslot : draft.slotRotations[itemId]? with
    | none =>
      obtain ⟨item, hitem, hitems⟩ := rotateItem_unasked h hslot
      refine ⟨item, hitems, ?_⟩
      rcases hdraft.matched itemId item hitem with hmatches | hwaiting
      · exact hmatches
      · rw [hslot] at hwaiting
        cases hwaiting
    | some slot =>
      obtain ⟨item, next, hitem, hitems, hsealed⟩ := rotateItem_asked h hold hslot
      exact ⟨next, hitems, hdraft.resealed hwhole hold hitem hslot hsealed⟩
  obtain ⟨next, hitems, hmatches⟩ := hround
  refine ⟨rotateItem_rotationsFrom hdraft.rotations h, hcarried, fun other before item hbefore hitem hwaiting => ?_,
    fun other item hitem => ?_⟩
  · by_cases hkey : other = itemId
    · rw [hkey, hdone] at hwaiting
      cases hwaiting
    · rw [hitems, getElem?_insert_ne _ _ hkey] at hitem
      rw [hkept other hkey] at hwaiting
      exact hdraft.waiting other before item hbefore hitem hwaiting
  · rw [hitems] at hitem
    obtain ⟨rfl, rfl⟩ | ⟨hkey, hitem⟩ := getElem?_insert_eq_some.mp hitem
    · exact .inl hmatches
    · rw [hkept other hkey]
      exact hdraft.matched other item hitem

theorem applyRotations_matched (hwhole : SealsWhole bodies operations)
    (hdraft : Pending bodies prior operations draft) (h : applyRotations prior draft = .ok next) :
    DescriptorsCarryEpoch next ∧ TablesMatch bodies next := by
  simp only [applyRotations, eq_ok, passed] at h
  obtain ⟨out, hloop, -, ⟨-, hempty⟩, rfl⟩ := h
  have hout := foldlM_preserves (P := Pending bodies prior operations)
    (fun itemId hmem b c hb hc => rotateItem_pending hwhole (mem_commonItems.mp hmem).1 hb hc) hdraft hloop
  refine ⟨hout.carried, fun itemId item hitem => ?_⟩
  rcases hout.matched itemId item hitem with hmatches | hwaiting
  · exact hmatches
  · rw [ExtTreeMap.isEmpty_iff.mp hempty] at hwaiting
    simp at hwaiting

variable [Crypto]

theorem mutate_slotRotations (h : mutate draft operation = .ok out)
    (hasked : draft.slotRotations[itemId]?.isSome = true ∨ replacesSlotsOf itemId operation = true) :
    out.slotRotations[itemId]?.isSome = true := by
  cases operation
  case itemSlotsReplace other nextEpoch directSlots witnessedState =>
    simp only [mutate, pure_eq_ok] at h
    subst h
    by_cases hkey : itemId = other
    · subst hkey
      simp
    · rcases hasked with hasked | hasked
      · rwa [getElem?_insert_ne _ _ hkey]
      · exact absurd (beq_iff_eq.mp hasked).symm hkey
  all_goals
    simp only [mutate, eq_ok] at h
    have hsame : out.slotRotations = draft.slotRotations := by aesop
    rw [hsame]
    exact hasked.resolve_right Bool.false_ne_true

theorem applyOperations_slotRotations (h : operations.foldlM (applyOperation prior sequence) start = .ok draft)
    (hasked : operations.any (replacesSlotsOf itemId) = true) : draft.slotRotations[itemId]?.isSome = true := by
  obtain ⟨operation, hmem, hreplaces⟩ := List.any_eq_true.mp hasked
  obtain ⟨before, after, rfl⟩ := List.append_of_mem hmem
  obtain ⟨first, -, hrest⟩ := foldlM_append_eq_ok.mp h
  obtain ⟨second, hsecond, hrest⟩ := foldlM_cons_eq_ok.mp hrest
  obtain ⟨-, keys, hmutate⟩ := applyOperation_eq_ok hsecond
  refine foldlM_preserves (P := fun d => d.slotRotations[itemId]?.isSome = true) (fun _ _ _ _ hb hc => ?_)
    (mutate_slotRotations hmutate (.inr hreplaces)) hrest
  obtain ⟨-, keys, hmutate⟩ := applyOperation_eq_ok hc
  exact mutate_slotRotations hmutate (.inl hb)

theorem applyOperations_matched (hwhole : SealsWhole bodies operations) (hstart : TablesMatch bodies start.next)
    (h : operations.foldlM (applyOperation prior sequence) start = .ok draft) (itemId : ItemId) (item : ItemPolicyState)
    (hitem : draft.next.items[itemId]? = some item) :
    itemMatches bodies itemId item = true ∨ draft.slotRotations[itemId]?.isSome = true := by
  have hmatched : ∀ (itemId : ItemId) (item : ItemPolicyState), draft.next.items[itemId]? = some item →
      itemMatches bodies itemId item = true ∨ operations.any (replacesSlotsOf itemId) = true := by
    refine foldlM_preserves (P := fun d => ∀ (itemId : ItemId) (item : ItemPolicyState), d.next.items[itemId]? = some item →
      itemMatches bodies itemId item = true ∨ operations.any (replacesSlotsOf itemId) = true)
      (fun operation hmem b c hb hc itemId item hitem => ?_) (fun itemId item hitem => .inl (hstart itemId item hitem)) h
    obtain ⟨-, keys, hmutate⟩ := applyOperation_eq_ok hc
    cases mutate_origin hmutate hitem with
    | regranted before hfound hsame =>
      rw [hsame]
      exact hb itemId before hfound
    | renamed before descriptor hasked _ _ _ =>
      have hrename := hwhole _ hmem
      rw [hasked] at hrename
      exact .inr hrename
    | created _ hasked => exact .inl (hwhole.created (hasked ▸ hmem)).2
  exact (hmatched itemId item hitem).imp_right (applyOperations_slotRotations h)

theorem replayRevision_matched (hids : ItemIdsUsed prior) (hwhole : SealsWhole bodies revision.operations)
    (hprior : DescriptorsCarryEpoch prior ∧ TablesMatch bodies prior)
    (h : replayRevision genesis index timestamp prior revision = .ok next) :
    DescriptorsCarryEpoch next ∧ TablesMatch bodies next := by
  obtain ⟨reached, terminal, hreach, -, rfl⟩ := (replayRevision_accepted h).result
  rcases revisionState_cases hreach with ⟨-, rfl⟩ | hreach
  · exact hprior
  · obtain ⟨draft, hdraft, hrot, -⟩ := applyOperations_eq_ok hreach
    have hkept := applyOperations_itemsKept hdraft
    have hpend : Pending bodies prior revision.operations draft := {
      rotations := applyOperations_rotationsFrom ⟨by simp, by simp⟩ hdraft
      carried := applyOperations_carriesEpoch (fun _ _ _ _ _ _ _ hmem => (hwhole.created hmem).1) hprior.1 hdraft
      waiting := by
        intro itemId old item hold hitem _
        have hused : itemId ∈ prior.historicalItemIds :=
          hids.live itemId (mem_of_getElem? hold)
        obtain ⟨before, hbefore, hsame⟩ := hkept.items itemId item hused hitem
        obtain rfl : old = before := some_unique hold hbefore
        exact hsame.keyEpoch
      matched := applyOperations_matched hwhole hprior.2 hdraft }
    have hmatched := applyRotations_matched hwhole hpend hrot
    exact hmatched

theorem replay_matched (h : replayPolicyWithCatalog journal catalog = .ok state)
    (hwhole : ∀ revision ∈ journal.revisions, SealsWhole bodies revision.operations) :
    DescriptorsCarryEpoch state ∧ TablesMatch bodies state := by
  refine replay_induction (P := fun _ state => DescriptorsCarryEpoch state ∧ TablesMatch bodies state) ?_ ?_ h
  · intro _ _
    constructor <;> intro itemId item hitem <;> simp [genesisState] at hitem
  · intro before revision after timestamp prior next hsplit hreplay hprior hnext
    exact replayRevision_matched (replay_itemIds hreplay) (hwhole revision (by simp [hsplit])) hprior hnext

end Whole

end Jury.Policy
