import Jury.Policy.Replay.Theorems

-- Revocation: in the revision in which a principal stops reading an item, the item gets a new key
-- epoch, new content and new slots, whatever the operations were that took the access away.
namespace Jury.Policy

open Lib Protocol Vault

def ItemPolicyState.witnessedSlots (item : ItemPolicyState) : List WitnessedSlotV1 :=
  (item.witnessedState.map (·.slots)).getD []

structure RotationsFrom (operations : List PolicyOperationV1) (draft : Draft) : Prop where
  reader : ∀ itemId r, draft.readerRotations[itemId]? = some r →
    .itemReaderSetChange itemId r.priorEpoch r.nextEpoch r.priorReaderIds r.nextReaderIds r.replacementDescriptor
      r.replacementCurrentItemRevisionHash ∈ operations
  slots : ∀ itemId r, draft.slotRotations[itemId]? = some r →
    .itemSlotsReplace itemId r.nextEpoch r.directSlots r.witnessedState ∈ operations

def SlotsCarryEpoch (state : PolicyState) : Prop :=
  ∀ (itemId : ItemId) (item : ItemPolicyState), state.items[itemId]? = some item →
    (∀ slot ∈ item.directSlots, slot.keyEpoch = item.keyEpoch) ∧
    ∀ slot ∈ item.witnessedSlots, slot.keyEpoch = item.keyEpoch

-- A principal was cut off from an item: everything it could open is replaced.
structure RevocationComplete (operations : List PolicyOperationV1) (itemId : ItemId) (principalId : PrincipalId)
    (prior next : ItemPolicyState) : Prop where
  epoch : next.keyEpoch.toNat = prior.keyEpoch.toNat + 1
  content : ∃ priorEpoch nextEpoch priorReaders nextReaders,
    .itemReaderSetChange itemId priorEpoch nextEpoch priorReaders nextReaders next.descriptor
      next.currentItemRevisionHash ∈ operations
  slots : ∃ nextEpoch, .itemSlotsReplace itemId nextEpoch next.directSlots next.witnessedState ∈ operations
  directSlots : ∀ slot ∈ next.directSlots,
    slot.keyEpoch = next.keyEpoch ∧ slot ∉ prior.directSlots ∧ slot.recipientPrincipalId ≠ principalId
  witnessedSlots : ∀ slot ∈ next.witnessedSlots, slot.keyEpoch = next.keyEpoch ∧ slot ∉ prior.witnessedSlots

variable [Crypto]

-- Ten of the twelve operations leave both maps alone; the other two add what they name.
theorem mutate_rotationsFrom (hmem : operation ∈ operations) (hdraft : RotationsFrom operations draft)
    (h : mutate draft operation = .ok out) : RotationsFrom operations out := by
  cases operation
  case itemReaderSetChange itemId priorEpoch nextEpoch priorReaders nextReaders descriptor hash =>
    simp only [mutate, pure_eq_ok] at h
    subst h
    refine ⟨fun other r hr => ?_, hdraft.slots⟩
    obtain ⟨rfl, rfl⟩ | ⟨-, hr⟩ := getElem?_insert_eq_some.mp hr
    · exact hmem
    · exact hdraft.reader other r hr
  case itemSlotsReplace itemId nextEpoch directSlots witnessedState =>
    simp only [mutate, pure_eq_ok] at h
    subst h
    refine ⟨hdraft.reader, fun other r hr => ?_⟩
    obtain ⟨rfl, rfl⟩ | ⟨-, hr⟩ := getElem?_insert_eq_some.mp hr
    · exact hmem
    · exact hdraft.slots other r hr
  all_goals
    simp only [mutate, eq_ok] at h
    obtain ⟨next, -, rfl⟩ := h
    exact ⟨hdraft.reader, hdraft.slots⟩

theorem applyOperations_rotationsFrom {prior : PolicyState} {sequence : UInt64} {start draft : Draft}
    (hstart : RotationsFrom operations start)
    (h : operations.foldlM (applyOperation prior sequence) start = .ok draft) : RotationsFrom operations draft := by
  refine foldlM_preserves (P := RotationsFrom operations) (fun operation hmem b c hb hc => ?_) hstart h
  obtain ⟨-, mutationKeys, hmutate⟩ := applyOperation_eq_ok hc
  refine mutate_rotationsFrom hmem ?_ hmutate
  exact ⟨hb.reader, hb.slots⟩

section Checked

variable (h : validateCompleteState state = .ok ())

include h

theorem validateItem_of_complete (hitem : state.items[itemId]? = some item) :
    validateItem state (itemId, item) = .ok () := by
  simp only [validateCompleteState, bind_eq_ok, forM_eq_ok] at h
  obtain ⟨-, -, hitems⟩ := h
  exact hitems _ (Std.ExtTreeMap.mem_toList_iff_getElem?_eq_some.mpr hitem)

theorem directSlot_of_complete (hitem : state.items[itemId]? = some item) :
    ∀ slot ∈ item.directSlots,
      slot.keyEpoch = item.keyEpoch ∧ slot.recipientPrincipalId ∈ state.effectiveReaderIds itemId := by
  have hvalid := validateItem_of_complete h hitem
  simp only [validateItem, bind_eq_ok, forM_eq_ok] at hvalid
  obtain ⟨mode, -, _, -, _, hslots, -⟩ := hvalid
  intro slot hslot
  have hchecked := hslots slot hslot
  simp only [validateItemDirectSlot, eq_ok, passed, and_assoc] at hchecked
  obtain ⟨principal, -, -, hrole, -, -, hepoch, -⟩ := hchecked
  refine ⟨hepoch, mem_effectiveReaderIds.mpr ?_⟩
  cases heff : state.effectiveRole itemId slot.recipientPrincipalId with
  | none => simp [slotRoleIsCurrent, heff] at hrole
  | some role => rfl

theorem slotsCarryEpoch_of_complete : SlotsCarryEpoch state := by
  intro itemId item hitem
  refine ⟨fun slot hslot => (directSlot_of_complete h hitem slot hslot).1, fun slot hslot => ?_⟩
  have hvalid := validateItem_of_complete h hitem
  simp only [validateItem, bind_eq_ok] at hvalid
  obtain ⟨mode, -, _, -, _, -, hwit⟩ := hvalid
  cases hstate : item.witnessedState with
  | none => simp [ItemPolicyState.witnessedSlots, hstate] at hslot
  | some witnessed =>
    rw [hstate] at hwit
    simp only [validateItemWitnessed, bind_eq_ok, forM_eq_ok] at hwit
    obtain ⟨first, -, _, hslots, -⟩ := hwit
    have hchecked := hslots slot (by simpa [ItemPolicyState.witnessedSlots, hstate] using hslot)
    simp only [validateItemWitnessedSlot, rejectIf_eq_ok, passed, and_assoc] at hchecked
    obtain ⟨-, hepoch, -⟩ := hchecked
    exact hepoch

end Checked

theorem replayRevision_slotsCarryEpoch (hstate : SlotsCarryEpoch state)
    (h : replayRevision genesis index timestamp state revision = .ok next) : SlotsCarryEpoch next := by
  obtain ⟨reached, terminal, hreach, -, rfl⟩ := (replayRevision_accepted h).result
  rcases revisionState_cases hreach with ⟨-, rfl⟩ | hreach
  · exact hstate
  · obtain ⟨draft, -, -, hcomp⟩ := applyOperations_eq_ok hreach
    exact slotsCarryEpoch_of_complete hcomp

theorem replay_slotsCarryEpoch {journal : PolicyJournalV1} {catalog : BTreeMap Digest32 WitnessPolicy}
    (h : replayPolicyWithCatalog journal catalog = .ok state) : SlotsCarryEpoch state := by
  refine replay_induction (P := fun _ => SlotsCarryEpoch) ?_
    (fun _ _ hprior hnext => replayRevision_slotsCarryEpoch hprior hnext) h
  intro _ _ itemId item hitem
  simp [genesisState] at hitem

theorem replayRevision_revokes (hstate : SlotsCarryEpoch state)
    (h : replayRevision genesis index timestamp state revision = .ok next)
    (hprior : state.items[itemId]? = some prior) (hafter : next.items[itemId]? = some after)
    (hbefore : principalId ∈ state.effectiveReaderIds itemId) (hgone : principalId ∉ next.effectiveReaderIds itemId) :
    RevocationComplete revision.operations itemId principalId prior after := by
  obtain ⟨reached, terminal, hreach, -, rfl⟩ := (replayRevision_accepted h).result
  have hreaders : state.effectiveReaderIds itemId ≠ reached.effectiveReaderIds itemId := by
    intro heq
    exact hgone (heq ▸ hbefore)
  rcases revisionState_cases hreach with ⟨-, rfl⟩ | hreach
  · -- An empty revision changes no reader.
    exact absurd rfl hreaders
  obtain ⟨draft, hdraft, hrot, hcomp⟩ := applyOperations_eq_ok hreach
  have hrekeyed := applyRotations_rekeys hrot hprior hafter hreaders
  have hfrom : RotationsFrom revision.operations draft :=
    applyOperations_rotationsFrom ⟨by simp, by simp⟩ hdraft
  have hdir := directSlot_of_complete hcomp hafter
  have hwit := (slotsCarryEpoch_of_complete hcomp itemId after hafter).2
  obtain ⟨holdDirect, holdWitnessed⟩ := hstate itemId prior hprior
  have hepochs : prior.keyEpoch ≠ after.keyEpoch := by
    intro heq
    have hsucc := hrekeyed.epoch
    rw [heq] at hsucc
    omega
  obtain ⟨reader, hreader, hdesc, hhash⟩ := hrekeyed.content
  obtain ⟨slot, hslot, hslots, hstates⟩ := hrekeyed.slots
  exact {
    epoch := hrekeyed.epoch
    content := ⟨_, _, _, _, hdesc ▸ hhash ▸ hfrom.reader itemId reader hreader⟩
    slots := ⟨_, hslots ▸ hstates ▸ hfrom.slots itemId slot hslot⟩
    directSlots := fun s hs => ⟨(hdir s hs).1,
      fun hold => hepochs ((holdDirect s hold).symm.trans (hdir s hs).1),
      fun heq => hgone (heq ▸ (hdir s hs).2)⟩
    witnessedSlots := fun s hs => ⟨hwit s hs, fun hold => hepochs ((holdWitnessed s hold).symm.trans (hwit s hs))⟩ }

theorem revocation_complete (journal : PolicyJournalV1) (policies : List WitnessPolicy) (final : PolicyState)
    (h : replayPolicyWithWitnessPolicies journal policies = .ok final)
    (before after : List SignedPolicyRevisionV1) (revision : SignedPolicyRevisionV1)
    (hrevisions : journal.revisions = before ++ revision :: after) :
    ∃ prior next,
      replayPolicyWithWitnessPolicies { journal with revisions := before } policies = .ok prior ∧
      replayPolicyWithWitnessPolicies { journal with revisions := before ++ [revision] } policies = .ok next ∧
      ∀ itemId principalId priorItem nextItem,
        prior.items[itemId]? = some priorItem → next.items[itemId]? = some nextItem →
        principalId ∈ prior.effectiveReaderIds itemId → principalId ∉ next.effectiveReaderIds itemId →
        RevocationComplete revision.operations itemId principalId priorItem nextItem := by
  obtain ⟨catalog, hcat, hreplay⟩ := replayPolicy_eq_ok.mp h
  obtain ⟨prior, next, timestamp, hprior, hnext, hrev⟩ := replay_split hreplay hrevisions
  have hslots := replay_slotsCarryEpoch hprior
  refine ⟨prior, next, replayPolicy_eq_ok.mpr ⟨catalog, hcat, hprior⟩, replayPolicy_eq_ok.mpr ⟨catalog, hcat, hnext⟩, ?_⟩
  intro itemId principalId priorItem nextItem hpriorItem hnextItem hreader hgone
  exact replayRevision_revokes hslots hrev hpriorItem hnextItem hreader hgone

end Jury.Policy

namespace Jury.Policy

open Lib Protocol Vault Protocol.Sample Policy.Sample

def sharedItem : ItemId := identifier .item 1

def formerReader : PrincipalId := identifier .principal 2

def sharedSlots (keyEpoch policySequence : UInt64) (byte : UInt8) (members : List (UInt8 × AccessRole)) :
    List DirectSlotV1 :=
  [ContentRole.descriptor, .body].flatMap fun role =>
    members.map fun (member, accessRole) =>
      directSlot sharedItem keyEpoch policySequence role accessRole member (byte + 10 * role.tag)

def sharingJournal : PolicyJournalV1 :=
  let shared := extend (foundedBy 1 1000) [] 1 1001 [
    .principalAdd (descriptor .human 2) "reader" ZERO_DIGEST,
    .itemCreate sharedItem .canonical 1 (metadata 1 1 50) (FixedBytes.replicate 32 7)
      (sharedSlots 1 1 50 [(1, .owner), (2, .reader)]) none]
  extend shared [] 1 1002 [
    .itemRoleChange sharedItem formerReader (some .reader) none,
    .itemReaderSetChange sharedItem 1 2 [identifier .principal 1, formerReader] [identifier .principal 1]
      (metadata 2 2 70) (FixedBytes.replicate 32 8),
    .itemSlotsReplace sharedItem 2 (sharedSlots 2 2 70 [(1, .owner)]) none]

theorem revocation_complete_former_reader :
    ∃ revision prior next priorItem nextItem,
      sharingJournal.revisions.getLast? = some revision ∧
      replayPolicyWithWitnessPolicies { sharingJournal with revisions := sharingJournal.revisions.take 1 } [] =
        .ok prior ∧
      replayPolicyWithWitnessPolicies sharingJournal [] = .ok next ∧
      prior.items[sharedItem]? = some priorItem ∧ next.items[sharedItem]? = some nextItem ∧
      formerReader ∈ prior.effectiveReaderIds sharedItem ∧ formerReader ∉ next.effectiveReaderIds sharedItem ∧
      RevocationComplete revision.operations sharedItem formerReader priorItem nextItem := by
  have hlen : sharingJournal.revisions.length = 2 := by decide +kernel
  have hshared : Returns
      (replayPolicyWithWitnessPolicies { sharingJournal with revisions := sharingJournal.revisions.take 1 } [])
      (fun state => state.items[sharedItem]?.isSome && decide (formerReader ∈ state.effectiveReaderIds sharedItem)) =
        true := by decide +kernel
  have hrevoked : Returns (replayPolicyWithWitnessPolicies sharingJournal [])
      (fun state => state.items[sharedItem]?.isSome && decide (formerReader ∉ state.effectiveReaderIds sharedItem)) =
        true := by decide +kernel
  generalize sharingJournal = journal at hlen hshared hrevoked ⊢
  obtain ⟨first, revision, hrevs⟩ := List.length_eq_two.mp hlen
  obtain ⟨prior, hprior, hreader⟩ := returns_iff.mp hshared
  obtain ⟨final, hfinal, hgone⟩ := returns_iff.mp hrevoked
  simp only [holds, Option.isSome_iff_exists] at hreader hgone
  obtain ⟨⟨priorItem, hpriorItem⟩, hreader⟩ := hreader
  obtain ⟨⟨nextItem, hnextItem⟩, hgone⟩ := hgone
  obtain ⟨prior', next, hprior', hnext, hcomp⟩ :=
    revocation_complete journal [] final hfinal [first] [] revision hrevs
  obtain rfl : prior = prior' := by
    rw [hrevs] at hprior
    exact ok_unique hprior hprior'
  obtain rfl : final = next := by
    rw [List.singleton_append, ← hrevs] at hnext
    exact ok_unique hfinal hnext
  exact ⟨revision, prior, final, priorItem, nextItem, by simp [hrevs], hprior, hfinal, hpriorItem, hnextItem,
    hreader, hgone, hcomp _ _ _ _ hpriorItem hnextItem hreader hgone⟩

end Jury.Policy
