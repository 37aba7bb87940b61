import Jury.Lib.Group
import Jury.Policy.Replay.Revocation

-- What holds of every state that replay accepts: owners, grants and slots agree with the principals, and
-- item identifiers are never used twice.
namespace Jury.Policy

open Lib Protocol Vault Std

def ActiveAs (state : PolicyState) (id : PrincipalId) (kinds : PrincipalKind → Prop) : Prop :=
  ∃ principal, state.principals[id]? = some principal ∧ kinds principal.descriptor.principalKind

-- A direct slot is sealed to the current key of a current reader, under the mode and epoch of its item.
structure SlotCurrent [Crypto] (state : PolicyState) (itemId : ItemId) (item : ItemPolicyState)
    (slot : DirectSlotV1) : Prop where
  recipient : ∃ principal, state.principals[slot.recipientPrincipalId]? = some principal ∧
    isHumanOrMachine principal.descriptor.principalKind = true ∧
    slot.recipientPublicKeyFingerprint = recipientPublicKeyFingerprint principal.descriptor.recipientPublicKey
  reader : slot.recipientPrincipalId ∈ state.effectiveReaderIds itemId
  mode : item.accessMode = some slot.itemAccessMode
  epoch : slot.keyEpoch = item.keyEpoch
  role : slot.accessRole = .owner ↔ slot.recipientPrincipalId ∈ state.owners

def slotsFor (slots : List DirectSlotV1) (recipient : PrincipalId) (role : ContentRole) : List DirectSlotV1 :=
  slots.filter fun slot => slot.recipientPrincipalId == recipient && slot.contentRole == role

-- The shares of a witnessed slot are held by the active members of the policy that it is bound to.
structure MembersBound (state : PolicyState) (slot : WitnessedSlotV1) (policy : WitnessPolicy) : Prop where
  bound : state.witnessPolicies[slot.witnessPolicyDigest]? = some policy
  active : ∀ capsule ∈ slot.capsules, ActiveAs state capsule.witnessId (· = .witness)
  members : (slot.capsules.map (·.witnessId)).Perm (policy.activeWitnesses.map (·.witnessId))

-- Identifiers of items that live or have been deleted are on record, and none is both.
structure ItemIdsUsed (state : PolicyState) : Prop where
  live : ∀ itemId, itemId ∈ state.items → itemId ∈ state.historicalItemIds
  deleted : ∀ itemId, itemId ∈ state.tombstones → itemId ∈ state.historicalItemIds
  disjoint : ∀ itemId, itemId ∈ state.items → itemId ∉ state.tombstones

structure Complete [Crypto] (state : PolicyState) : Prop where
  owned : ∃ owner, owner ∈ state.owners
  owners : ∀ owner, owner ∈ state.owners → ActiveAs state owner (· = .human)
  grants : ∀ (itemId : ItemId) (item : ItemPolicyState), state.items[itemId]? = some item →
    ∀ (id : PrincipalId) (role : AccessRole), item.grants[id]? = some role →
      role ≠ .owner ∧ ActiveAs state id fun kind => isHumanOrMachine kind = true
  directSlots : ∀ (itemId : ItemId) (item : ItemPolicyState), state.items[itemId]? = some item →
    ∀ slot ∈ item.directSlots, SlotCurrent state itemId item slot
  ownerSlots : ∀ (itemId : ItemId) (item : ItemPolicyState), state.items[itemId]? = some item →
    item.accessMode ≠ some .witnessedOnly → ∀ owner, owner ∈ state.owners → ∀ role : ContentRole,
      (slotsFor item.directSlots owner role).length = 1
  witnessedSlots : ∀ (itemId : ItemId) (item : ItemPolicyState), state.items[itemId]? = some item →
    ∀ slot ∈ item.witnessedSlots, ∃ policy, MembersBound state slot policy
  itemIds : ItemIdsUsed state

def coverageOf (slots : List DirectSlotV1) (recipient : PrincipalId) : SlotCoverage where
  count := UInt8.ofNat (min 255 (slots.countP fun slot => slot.recipientPrincipalId == recipient))
  descriptor := slots.any fun slot => slot.recipientPrincipalId == recipient && slot.contentRole == .descriptor
  body := slots.any fun slot => slot.recipientPrincipalId == recipient && slot.contentRole == .body

theorem saturating_succ (count : Nat) :
    (if UInt8.ofNat (min 255 count) = 255 then 255 else UInt8.ofNat (min 255 count) + 1) =
      UInt8.ofNat (min 255 (count + 1)) := by
  by_cases hfull : 255 ≤ count
  · rw [Nat.min_eq_left hfull, Nat.min_eq_left (by omega)]
    rfl
  · have hless : count < 255 := by omega
    have hne : UInt8.ofNat count ≠ 255 := by
      intro heq
      have hnat := congrArg UInt8.toNat heq
      rw [UInt8.toNat_ofNat', Nat.mod_eq_of_lt (by omega)] at hnat
      have hfive : (255 : UInt8).toNat = 255 := rfl
      omega
    rw [Nat.min_eq_right (by omega), Nat.min_eq_right (by omega), if_neg hne, UInt8.ofNat_add]
    rfl

theorem foldl_coverSlot (slots : List DirectSlotV1) (recipient : PrincipalId) :
    (slots.foldl coverSlot ∅)[recipient]?.getD ⟨0, false, false⟩ = coverageOf slots recipient := by
  induction slots using List.reverseRecOn with
  | nil => rfl
  | append_singleton slots slot ih =>
    rw [List.foldl_append, List.foldl_cons, List.foldl_nil, coverSlot]
    by_cases hown : slot.recipientPrincipalId = recipient
    · subst hown
      rw [ExtTreeMap.getElem?_insert_self, Option.getD_some, ih]
      simp only [coverageOf, List.countP_append, List.any_append, List.countP_singleton, List.any_cons, List.any_nil,
        beq_self_eq_true, if_true, Bool.true_and, Bool.or_false, ← saturating_succ]
      congr
    · rw [getElem?_insert_ne _ _ (Ne.symm hown), ih]
      simp [coverageOf, hown]

theorem countP_eq_slotsFor (slots : List DirectSlotV1) (recipient : PrincipalId) :
    slots.countP (fun slot => slot.recipientPrincipalId == recipient) =
      (slotsFor slots recipient .descriptor).length + (slotsFor slots recipient .body).length := by
  induction slots with
  | nil => rfl
  | cons slot slots ih =>
    rw [List.countP_cons, ih]
    by_cases hown : slot.recipientPrincipalId = recipient
    · cases hrole : slot.contentRole <;> simp [slotsFor, hown, hrole] <;> omega
    · simp [slotsFor, hown]

theorem slotsFor_length {slots : List DirectSlotV1} (h : (slots.foldl coverSlot ∅)[recipient]? = some ⟨2, true, true⟩)
    (role : ContentRole) : (slotsFor slots recipient role).length = 1 := by
  have hcoverage := foldl_coverSlot slots recipient
  rw [h, Option.getD_some] at hcoverage
  obtain ⟨hcount, hdesc, hbody⟩ := SlotCoverage.mk.inj hcoverage
  have htwo : slots.countP (fun slot => slot.recipientPrincipalId == recipient) = 2 := by
    have hnat := congrArg UInt8.toNat hcount
    rw [UInt8.toNat_ofNat'] at hnat
    have hval : (2 : UInt8).toNat = 2 := rfl
    omega
  have hpositive : ∀ role : ContentRole,
      (slots.any fun slot => slot.recipientPrincipalId == recipient && slot.contentRole == role) = true →
        0 < (slotsFor slots recipient role).length := by
    intro role hany
    obtain ⟨slot, hslot, hmatch⟩ := List.any_eq_true.mp hany
    exact List.length_pos_of_mem (List.mem_filter.mpr ⟨hslot, hmatch⟩)
  have hsum := countP_eq_slotsFor slots recipient
  have hfirst := hpositive .descriptor hdesc.symm
  have hsecond := hpositive .body hbody.symm
  cases role <;> omega

variable {itemId : ItemId} {item : ItemPolicyState} {state : PolicyState}

section ItemIds

theorem ItemIdsUsed.of_same_ids {t : PolicyState} (h : ItemIdsUsed s)
    (hitems : ∀ itemId, itemId ∈ t.items → itemId ∈ s.items) (hused : t.historicalItemIds = s.historicalItemIds)
    (htombstones : t.tombstones = s.tombstones) : ItemIdsUsed t where
  live itemId hmem := hused ▸ h.live itemId (hitems itemId hmem)
  deleted itemId hmem := hused ▸ h.deleted itemId (htombstones ▸ hmem)
  disjoint itemId hmem := htombstones ▸ h.disjoint itemId (hitems itemId hmem)

theorem mem_of_mem_insert_present {items : BTreeMap ItemId ItemPolicyState} {other : ItemId}
    {new : ItemPolicyState} (hitem : items[itemId]? = some item) (h : other ∈ items.insert itemId new) :
    other ∈ items := by
  rcases ExtTreeMap.mem_insert.mp h with heq | hmem
  · obtain rfl := LawfulEqOrd.eq_of_compare heq
    exact mem_of_getElem? hitem
  · exact hmem

theorem createItem_itemIds {descriptor : DescriptorMetadataV1} {directSlots : List DirectSlotV1}
    {witnessedState : Option WitnessedStateV1} (hstate : ItemIdsUsed state)
    (h : createItem state itemId itemKind keyEpoch descriptor currentHash directSlots witnessedState = .ok out) :
    ItemIdsUsed out := by
  simp only [createItem, eq_ok] at h
  obtain ⟨-, hfresh, grants, -, rfl⟩ := h
  have hunused := not_mem_of_contains hfresh
  constructor
  · intro other hother
    rcases ExtTreeMap.mem_insert.mp hother with heq | hmem
    · exact ExtTreeSet.mem_insert.mpr (.inl heq)
    · exact ExtTreeSet.mem_insert.mpr (.inr (hstate.live other hmem))
  · intro other hother
    exact ExtTreeSet.mem_insert.mpr (.inr (hstate.deleted other hother))
  · intro other hother
    rcases ExtTreeMap.mem_insert.mp hother with heq | hmem
    · obtain rfl := LawfulEqOrd.eq_of_compare heq
      exact fun hdeleted => hunused (hstate.deleted _ hdeleted)
    · exact hstate.disjoint other hmem

theorem deleteItem_itemIds {out : PolicyState} {descriptorDigest revisionHash : Digest32}
    {sequence : UInt64} (hstate : ItemIdsUsed state)
    (h : deleteItem state itemId descriptorDigest revisionHash sequence = .ok out) : ItemIdsUsed out := by
  simp only [deleteItem, eq_ok] at h
  obtain ⟨item, hitem, -, -, rfl⟩ := h
  have hlive : itemId ∈ state.items := mem_of_getElem? hitem
  constructor
  · intro other hother
    exact hstate.live other (ExtTreeMap.mem_erase.mp hother).2
  · intro other hother
    rcases ExtTreeMap.mem_insert.mp hother with heq | hmem
    · obtain rfl := LawfulEqOrd.eq_of_compare heq
      exact hstate.live _ hlive
    · exact hstate.deleted other hmem
  · intro other hother hdeleted
    obtain ⟨hne, hmem⟩ := ExtTreeMap.mem_erase.mp hother
    rcases ExtTreeMap.mem_insert.mp hdeleted with heq | hdeleted
    · exact hne heq
    · exact hstate.disjoint other hmem hdeleted

variable {draft : Draft}

variable [Crypto]

theorem mutate_itemIds (hdraft : ItemIdsUsed draft.next) (h : mutate draft operation = .ok out) :
    ItemIdsUsed out.next := by
  cases operation
  case itemCreate =>
    simp only [mutate, eq_ok] at h
    obtain ⟨next, hnext, rfl⟩ := h
    exact createItem_itemIds hdraft hnext
  case itemDelete =>
    simp only [mutate, eq_ok] at h
    obtain ⟨next, hnext, rfl⟩ := h
    exact deleteItem_itemIds hdraft hnext
  case itemRename =>
    simp only [mutate, renameItem, eq_ok] at h
    obtain ⟨-, ⟨item, hitem, -, -, rfl⟩, rfl⟩ := h
    exact hdraft.of_same_ids (fun other hmem => mem_of_mem_insert_present hitem hmem) rfl rfl
  case itemRoleChange =>
    simp only [mutate, changeRole, eq_ok] at h
    obtain ⟨-, ⟨-, -, -, -, item, hitem, -, -, rfl⟩, rfl⟩ := h
    exact hdraft.of_same_ids (fun other hmem => mem_of_mem_insert_present hitem hmem) rfl rfl
  case principalReplace =>
    simp only [mutate, replacePrincipal, eq_ok] at h
    obtain ⟨-, ⟨-, -, -, -, -, -, -, -, rfl⟩, rfl⟩ := h
    exact hdraft.of_same_ids (fun other hmem => by simpa using hmem) rfl rfl
  all_goals
    simp only [mutate, addPrincipal, changeLabel, removePrincipal, grantOwner, revokeOwner, recordDescriptor,
      eq_ok] at h
    have hsame : out.next.items = draft.next.items ∧ out.next.historicalItemIds = draft.next.historicalItemIds ∧
        out.next.tombstones = draft.next.tombstones := by aesop
    exact hdraft.of_same_ids (fun other hmem => hsame.1 ▸ hmem) hsame.2.1 hsame.2.2

end ItemIds

theorem owners_of_complete [Crypto] (h : validateCompleteState state = .ok ()) :
    (∃ owner, owner ∈ state.owners) ∧ ∀ owner, owner ∈ state.owners → ActiveAs state owner (· = .human) := by
  simp only [validateCompleteState, eq_ok, passed] at h
  obtain ⟨-, ⟨hsome, hhuman⟩, -⟩ := h
  refine ⟨?_, fun owner howner => ?_⟩
  · rw [ExtTreeSet.isEmpty_eq_false_iff] at hsome
    by_contra hnone
    exact hsome (ExtTreeSet.ext_mem fun owner => ⟨fun h => absurd ⟨owner, h⟩ hnone, fun h => by simp at h⟩)
  · have hkind := List.all_eq_true.mp hhuman owner (ExtTreeSet.mem_toList.mpr howner)
    obtain ⟨principal, hprin, hkind⟩ := (Option.any_eq_true _ _).mp hkind
    exact ⟨principal, hprin, by simpa using hkind⟩

structure ItemChecked [Crypto] (state : PolicyState) (itemId : ItemId) (item : ItemPolicyState) : Prop where
  grants : ∀ (id : PrincipalId) (role : AccessRole), item.grants[id]? = some role →
    role ≠ .owner ∧ ActiveAs state id fun kind => isHumanOrMachine kind = true
  slots : ∃ mode, item.accessMode = some mode ∧
    (∀ slot ∈ item.directSlots, validateItemDirectSlot state itemId item mode slot = .ok ()) ∧
    ∀ witnessed, item.witnessedState = some witnessed → validateItemWitnessed state itemId item mode witnessed = .ok ()

theorem item_of_complete [Crypto]
    (h : validateCompleteState state = .ok ()) (hitem : state.items[itemId]? = some item) :
    ItemChecked state itemId item := by
  have hvalid := validateItem_of_complete h hitem
  simp only [validateItem, eq_ok, forM_eq_ok] at hvalid
  obtain ⟨mode, hmode, -, hgrants, -, hdir, hwit⟩ := hvalid
  refine ⟨fun id role hgrant => ?_, mode, hmode, hdir, fun witnessed hstate => ?_⟩
  · have hchecked := hgrants (id, role) (ExtTreeMap.mem_toList_iff_getElem?_eq_some.mpr hgrant)
    simp only [validateItemGrant, eq_ok, passed, beq_eq_false_iff_ne] at hchecked
    obtain ⟨principal, hprin, hkind, hrole⟩ := hchecked
    exact ⟨hrole, principal, hprin, hkind⟩
  · rwa [hstate] at hwit

theorem slotRole_owner_iff {id : PrincipalId} {role : AccessRole} (hitem : state.items[itemId]? = some item)
    (hgrants : ∀ granted, item.grants[id]? = some granted → granted ≠ .owner)
    (h : slotRoleIsCurrent (state.effectiveRole itemId id) role = true) : role = .owner ↔ id ∈ state.owners := by
  by_cases howner : id ∈ state.owners
  · have hrole : state.effectiveRole itemId id = some .owner := by
      rw [PolicyState.effectiveRole, if_pos (ExtTreeSet.contains_iff_mem.mpr howner)]
    rw [hrole] at h
    simp only [howner, iff_true]
    cases role <;> first | rfl | cases h
  · have hrole : state.effectiveRole itemId id = item.grants[id]? := by
      rw [PolicyState.effectiveRole, if_neg (fun hmem => howner (ExtTreeSet.contains_iff_mem.mp hmem)), hitem]
      rfl
    simp only [howner, iff_false]
    rintro rfl
    rw [hrole] at h
    cases hgrant : item.grants[id]? with
    | none => rw [hgrant] at h; cases h
    | some granted =>
      have hne := hgrants granted hgrant
      rw [hgrant] at h
      cases granted <;> first | exact hne rfl | cases h

theorem ItemChecked.slotCurrent [Crypto]
    (h : ItemChecked state itemId item) (hitem : state.items[itemId]? = some item) :
    ∀ slot ∈ item.directSlots, SlotCurrent state itemId item slot := by
  obtain ⟨mode, hmode, hdir, -⟩ := h.slots
  intro slot hslot
  have hchecked := hdir slot hslot
  simp only [validateItemDirectSlot, eq_ok, passed, and_assoc] at hchecked
  obtain ⟨principal, hprin, hkind, hrole, hkey, hslotMode, hepoch, -⟩ := hchecked
  constructor
  · exact ⟨principal, hprin, hkind, hkey⟩
  · rw [mem_effectiveReaderIds]
    cases heff : state.effectiveRole itemId slot.recipientPrincipalId with
    | none => rw [heff] at hrole; cases hrole
    | some role => rfl
  · rw [hmode, hslotMode]
  · exact hepoch
  · exact slotRole_owner_iff hitem (fun granted hgrant => (h.grants _ granted hgrant).1) hrole

-- The first slot is checked against its policy, the others against the first.
theorem ItemChecked.membersBound [Crypto] (h : ItemChecked state itemId item) :
    ∀ slot ∈ item.witnessedSlots, ∃ policy, MembersBound state slot policy ∧
      policy.vaultPolicySequence ≤ state.sequence := by
  obtain ⟨mode, -, -, hwit⟩ := h.slots
  intro slot hslot
  cases hstate : item.witnessedState with
  | none => simp [ItemPolicyState.witnessedSlots, hstate] at hslot
  | some witnessed =>
    have hmem : slot ∈ witnessed.slots := by simpa [ItemPolicyState.witnessedSlots, hstate] using hslot
    have hchecked := hwit witnessed hstate
    simp only [validateItemWitnessed, validateItemPolicyBinding, eq_ok, forM_eq_ok, passed] at hchecked
    obtain ⟨first, hfirst, -, hslots, -, hactive, first', hfirst', policy, hpolicy, -, ⟨⟨-, hseq⟩, -⟩, -,
      ⟨hmembers, -⟩, -⟩ := hchecked
    obtain rfl : first = first' := some_unique hfirst hfirst'
    have hsame := hslots slot hmem
    simp only [validateItemWitnessedSlot, rejectIf_eq_ok, passed] at hsame
    obtain ⟨⟨-, hdigest⟩, hids⟩ := hsame
    refine ⟨policy, ⟨hdigest ▸ hpolicy, fun capsule hcapsule => ?_, ?_⟩, UInt64.not_lt.mp hseq⟩
    · have hid : capsule.witnessId ∈ first.capsules.map (·.witnessId) := hids ▸ List.mem_map_of_mem hcapsule
      obtain ⟨principal, hprin, hkind⟩ := (Option.any_eq_true _ _).mp (hactive _ hid)
      exact ⟨principal, hprin, by simpa using hkind⟩
    · rw [hids]
      exact (sortByKey_perm _ _).symm.trans (hmembers ▸ sortByKey_perm _ _)

theorem ownerSlots_of_covered (h : validateCompleteOwnerSlots state = .ok ())
    (hitem : state.items[itemId]? = some item) (hmode : item.accessMode ≠ some .witnessedOnly)
    (howner : owner ∈ state.owners) (role : ContentRole) : (slotsFor item.directSlots owner role).length = 1 := by
  have hchecked := forM_eq_ok.mp h item (mem_values.mpr ⟨itemId, hitem⟩)
  simp only [validateItemOwnerSlots, eq_ok] at hchecked
  obtain ⟨mode, hfound, hcovered⟩ := hchecked
  have hne : mode ≠ .witnessedOnly := fun heq => hmode (heq ▸ hfound)
  rw [if_neg hne, rejectIf_eq_ok, List.any_eq_false] at hcovered
  have hcoverage := hcovered owner (ExtTreeSet.mem_toList.mpr howner)
  exact slotsFor_length (by simpa using hcoverage) role

section Run

variable [Crypto]

theorem revisionState_itemIds {sequence : UInt64} {operations : List PolicyOperationV1}
    (hstate : ItemIdsUsed state) (h : revisionState state sequence operations = .ok next) : ItemIdsUsed next := by
  rcases revisionState_cases h with ⟨-, rfl⟩ | h
  · exact ⟨hstate.live, hstate.deleted, hstate.disjoint⟩
  · obtain ⟨draft, hdraft, hrot, -⟩ := applyOperations_eq_ok h
    obtain ⟨items, rfl, hids⟩ := applyRotations_frame hrot
    refine .of_same_ids (s := draft.next) ?_ (fun itemId => (hids itemId).mp) rfl rfl
    refine foldlM_preserves (P := fun d => ItemIdsUsed d.next) (fun _ _ b c hb hc => ?_) ?_ hdraft
    · obtain ⟨-, mutationKeys, hmutate⟩ := applyOperation_eq_ok hc
      refine mutate_itemIds ?_ hmutate
      exact hb
    · exact ⟨hstate.live, hstate.deleted, hstate.disjoint⟩

variable {genesis : PolicyGenesisV1} {catalog : BTreeMap Digest32 WitnessPolicy} {timestamp : UInt64} {index : Nat}
  {journal : PolicyJournalV1}

theorem replayRevision_itemIds (hstate : ItemIdsUsed state)
    (h : replayRevision genesis index timestamp state revision = .ok next) : ItemIdsUsed next := by
  obtain ⟨reached, terminal, hreach, -, rfl⟩ := (replayRevision_accepted h).result
  have hids := revisionState_itemIds hstate hreach
  exact ⟨hids.live, hids.deleted, hids.disjoint⟩

theorem complete_of_checked (hcomp : validateCompleteState state = .ok ())
    (hcovered : validateCompleteOwnerSlots state = .ok ()) (hids : ItemIdsUsed state) : Complete state where
  owned := (owners_of_complete hcomp).1
  owners := (owners_of_complete hcomp).2
  grants _ _ hitem := (item_of_complete hcomp hitem).grants
  directSlots _ _ hitem := (item_of_complete hcomp hitem).slotCurrent hitem
  ownerSlots _ _ hitem hmode _ howner role := ownerSlots_of_covered hcovered hitem hmode howner role
  witnessedSlots _ _ hitem slot hslot := by
    obtain ⟨policy, hbound, -⟩ := (item_of_complete hcomp hitem).membersBound slot hslot
    exact ⟨policy, hbound⟩
  itemIds := hids

-- Completeness speaks of neither the sequence nor the hashes.
theorem Complete.relabel (h : Complete state) (sequence : UInt64) (terminal : Digest32) (hashes : List Digest32) :
    Complete { state with sequence, terminalRevisionHash := terminal, revisionHashes := hashes } where
  owned := h.owned
  owners := h.owners
  grants := h.grants
  directSlots itemId item hitem slot hslot := by
    obtain ⟨hrecip, hreader, hmode, hepoch, hrole⟩ := h.directSlots itemId item hitem slot hslot
    exact ⟨hrecip, hreader, hmode, hepoch, hrole⟩
  ownerSlots := h.ownerSlots
  witnessedSlots itemId item hitem slot hslot := by
    obtain ⟨policy, hbound, hactive, hmembers⟩ := h.witnessedSlots itemId item hitem slot hslot
    exact ⟨policy, hbound, hactive, hmembers⟩
  itemIds := ⟨h.itemIds.live, h.itemIds.deleted, h.itemIds.disjoint⟩

theorem genesisState_complete (hkind : genesis.owner.principalKind = .human) :
    Complete (genesisState genesis fingerprint catalog) := by
  have hnone : ∀ itemId : ItemId, (genesisState genesis fingerprint catalog).items[itemId]? = none := by
    intro itemId
    exact ExtTreeMap.getElem?_empty
  constructor
  case owned => exact ⟨genesis.owner.principalId, ExtTreeSet.mem_insert_self⟩
  case owners =>
    intro owner howner
    rcases ExtTreeSet.mem_insert.mp howner with heq | hmem
    · obtain rfl := LawfulEqOrd.eq_of_compare heq
      exact ⟨_, ExtTreeMap.getElem?_insert_self, hkind⟩
    · simp at hmem
  case itemIds => constructor <;> intro itemId hmem <;> simp [genesisState] at hmem
  all_goals
    intro itemId item hitem
    rw [hnone] at hitem
    cases hitem

theorem replayRevision_complete (hstate : Complete state)
    (h : replayRevision genesis index timestamp state revision = .ok next) : Complete next := by
  simp only [replayRevision, eq_ok] at h
  obtain ⟨-, -, -, -, -, -, -, -, -, -, reached, hreach, -, -, -, -, _, hcovered, terminal, -, rfl⟩ := h
  have hids := revisionState_itemIds hstate.itemIds hreach
  rcases revisionState_cases hreach with ⟨-, rfl⟩ | hreach
  · exact hstate.relabel _ _ _
  · obtain ⟨draft, -, -, hcomp⟩ := applyOperations_eq_ok hreach
    exact (complete_of_checked hcomp hcovered hids).relabel _ _ _

theorem startReplay_complete (h : startReplay journal catalog = .ok state) : Complete state := by
  simp only [startReplay, eq_ok, passed] at h
  obtain ⟨-, hheader, -, -, -, -, -, -, fingerprint, -, rfl⟩ := h
  exact genesisState_complete hheader.1.2

theorem replay_itemIds (h : replayPolicyWithCatalog journal catalog = .ok state) : ItemIdsUsed state := by
  exact replay_induction (P := fun _ => ItemIdsUsed) (fun _ hstart => (startReplay_complete hstart).itemIds)
    (fun _ _ hprior hnext => replayRevision_itemIds hprior hnext) h

theorem replay_complete (journal : PolicyJournalV1) (catalog : BTreeMap Digest32 WitnessPolicy) (state : PolicyState)
    (h : replayPolicyWithCatalog journal catalog = .ok state) : Complete state := by
  exact replay_induction (P := fun _ => Complete) (fun _ hstart => startReplay_complete hstart)
    (fun _ _ hprior hnext => replayRevision_complete hprior hnext) h

end Run

end Jury.Policy

namespace Jury.Policy.Sample

open Lib Protocol Protocol.Sample

def catalog : BTreeMap Digest32 WitnessPolicy := (witnessPolicyCatalog [witnessPolicy]).toOption.getD ∅

theorem replay_complete_witnessed :
    ∃ state item, replayPolicyWithCatalog journal catalog = .ok state ∧ state.items[witnessedItem]? = some item ∧
      item.witnessedSlots.length = 2 ∧ Complete state := by
  have hreplayed : Returns (replayPolicyWithCatalog journal catalog) (fun state =>
      state.items[witnessedItem]?.any fun item => item.witnessedSlots.length == 2) = true := by decide +kernel
  obtain ⟨state, hstate, hitem⟩ := returns_iff.mp hreplayed
  obtain ⟨item, hfound, hslots⟩ := (Option.any_eq_true _ _).mp hitem
  exact ⟨state, item, hstate, hfound, by simpa using hslots, replay_complete journal catalog state hstate⟩

end Jury.Policy.Sample
