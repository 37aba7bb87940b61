import Jury.Policy.Journal

-- What the rotations of one revision do to a single item. Rotating another item leaves it alone, so
-- its own round in the loop decides what becomes of it.
namespace Jury.Policy

open Lib Protocol Std

variable {item : ItemPolicyState}

theorem mem_effectiveReaderIds {state : PolicyState} {id : PrincipalId} :
    id ∈ state.effectiveReaderIds itemId ↔ (state.effectiveRole itemId id).isSome := by
  unfold PolicyState.effectiveReaderIds PolicyState.effectiveRole
  cases state.items[itemId]? with
  | none => by_cases howner : id ∈ state.owners <;> simp [howner]
  | some item => by_cases howner : id ∈ state.owners <;> simp [howner]

theorem effectiveReaderIds_congr {s t : PolicyState} (howners : s.owners = t.owners) (ha : s.items[itemId]? = some a)
    (hb : t.items[itemId]? = some b) (hgrants : a.grants = b.grants) :
    s.effectiveReaderIds itemId = t.effectiveReaderIds itemId := by
  simp only [PolicyState.effectiveReaderIds, ha, hb, howners, hgrants]

theorem rotateContent_eq_ok {out : ItemPolicyState} {rotation : Option ReaderRotation} {current expected : UInt64}
    {priorReaders nextReaders : List PrincipalId}
    (h : rotateContent item rotation current expected priorReaders nextReaders = .ok out) :
    out.grants = item.grants ∧ ∀ r, rotation = some r →
      out.descriptor = r.replacementDescriptor ∧
      out.currentItemRevisionHash = r.replacementCurrentItemRevisionHash := by
  cases rotation with
  | none => simp_all [rotateContent]
  | some r =>
    simp only [rotateContent, eq_ok] at h
    obtain ⟨-, -, rfl⟩ := h
    simp

theorem rotateSlots_eq_ok {out : ItemPolicyState} {rotation : Option SlotRotation} {expected : UInt64}
    {changed : Bool} (h : rotateSlots item rotation expected changed = .ok out) :
    out.grants = item.grants ∧ out.descriptor = item.descriptor ∧
      out.currentItemRevisionHash = item.currentItemRevisionHash ∧ ∀ r, rotation = some r →
      out.keyEpoch = expected ∧ out.directSlots = r.directSlots ∧ out.witnessedState = r.witnessedState := by
  cases rotation with
  | none => simp_all [rotateSlots]
  | some r =>
    simp only [rotateSlots, eq_ok] at h
    obtain ⟨-, -, -, -, -, -, rfl⟩ := h
    simp

-- Rotating an item rewrites it in the state and takes its rotations out of the draft.
theorem rotateItem_writes (h : rotateItem prior draft itemId = .ok out) : itemId ∈ draft.next.items ∧ ∃ item, out = {
    draft with
    next := { draft.next with items := draft.next.items.insert itemId item }
    readerRotations := draft.readerRotations.erase itemId
    slotRotations := draft.slotRotations.erase itemId } := by
  simp only [rotateItem, eq_ok] at h
  obtain ⟨-, -, -, -, -, -, -, -, before, hitem, -, -, item, -, rfl⟩ := h
  exact ⟨mem_of_getElem? hitem, item, rfl⟩

-- The rotations of a revision change items only, and neither add nor remove one.
theorem applyRotations_frame (h : applyRotations prior draft = .ok next) :
    ∃ items, next = { draft.next with items } ∧ ∀ itemId, itemId ∈ items ↔ itemId ∈ draft.next.items := by
  simp only [applyRotations, eq_ok] at h
  obtain ⟨out, hloop, -, -, rfl⟩ := h
  refine foldlM_preserves (P := fun d : Draft => ∃ items, d.next = { draft.next with items } ∧
    ∀ itemId, itemId ∈ items ↔ itemId ∈ draft.next.items) ?_ ⟨_, rfl, fun _ => Iff.rfl⟩ hloop
  rintro rotated - before after ⟨items, hsame, hids⟩ hround
  obtain ⟨hmem, item, rfl⟩ := rotateItem_writes hround
  rw [hsame] at hmem ⊢
  refine ⟨_, rfl, fun itemId => ?_⟩
  rw [← hids, ExtTreeMap.mem_insert, LawfulEqOrd.compare_eq_iff_eq]
  exact ⟨fun h => h.elim (fun heq => heq ▸ hmem) id, .inr⟩

-- An item after its round in a revision that changed its readers: the operations named its new
-- content and its new slots, and its key epoch is the next one.
structure Rekeyed (draft : Draft) (itemId : ItemId) (prior next : ItemPolicyState) : Prop where
  epoch : next.keyEpoch.toNat = prior.keyEpoch.toNat + 1
  content : ∃ r, draft.readerRotations[itemId]? = some r ∧ next.descriptor = r.replacementDescriptor ∧
    next.currentItemRevisionHash = r.replacementCurrentItemRevisionHash
  slots : ∃ r, draft.slotRotations[itemId]? = some r ∧ next.directSlots = r.directSlots ∧
    next.witnessedState = r.witnessedState

theorem rotateItem_rekeys
    (h : rotateItem prior draft itemId = .ok out) (hprior : prior.items[itemId]? = some priorItem) :
    ∃ item next, draft.next.items[itemId]? = some item ∧ out.next.items[itemId]? = some next ∧
      out.next.owners = draft.next.owners ∧ next.grants = item.grants ∧
      (prior.effectiveReaderIds itemId ≠ draft.next.effectiveReaderIds itemId →
        Rekeyed draft itemId priorItem next) := by
  simp only [rotateItem, eq_ok] at h
  obtain ⟨-, hneeded, -, -, _, hfound, expected, hexp, item, hitem, content, hcontent, next, hnext, rfl⟩ := h
  obtain rfl : priorItem = _ := by simpa [hprior] using hfound
  obtain ⟨hgrants, hrepl⟩ := rotateContent_eq_ok hcontent
  obtain ⟨hgrants', hdesc, hhash, hslots⟩ := rotateSlots_eq_ok hnext
  refine ⟨item, next, hitem, by simp, rfl, hgrants'.trans hgrants, fun hchanged => ?_⟩
  -- The readers changed, so both rotations are there.
  simp only [bne_iff_ne, ne_eq, hchanged, not_false_eq_true, Bool.and_eq_false_imp, Bool.or_eq_false_iff,
    Option.isNone_eq_false_iff, Option.isSome_iff_exists, forall_const] at hneeded
  obtain ⟨⟨reader, hreader⟩, slot, hslot⟩ := hneeded
  obtain ⟨hepoch, hdir, hwit⟩ := hslots slot hslot
  obtain ⟨hdescriptor', hhash'⟩ := hrepl reader hreader
  exact {
    epoch := hepoch ▸ checkedAdd_eq_some.mp hexp
    content := ⟨reader, hreader, hdesc.trans hdescriptor', hhash.trans hhash'⟩
    slots := ⟨slot, hslot, hdir, hwit⟩ }

-- Two drafts that agree on everything a rotation of the item reads.
structure AgreeOn (itemId : ItemId) (a b : Draft) : Prop where
  owners : b.next.owners = a.next.owners
  item : b.next.items[itemId]? = a.next.items[itemId]?
  readerRotation : b.readerRotations[itemId]? = a.readerRotations[itemId]?
  slotRotation : b.slotRotations[itemId]? = a.slotRotations[itemId]?

theorem rotateItem_agreeOn (hother : other ≠ itemId) (h : rotateItem prior draft other = .ok out) :
    AgreeOn itemId draft out := by
  obtain ⟨-, item, rfl⟩ := rotateItem_writes h
  constructor <;> simp [ExtTreeMap.getElem?_insert, ExtTreeMap.getElem?_erase, hother]

theorem rotateItems_agreeOn {others : List ItemId}
    (hothers : itemId ∉ others) (h : others.foldlM (rotateItem prior) draft = .ok out) :
    AgreeOn itemId draft out := by
  refine foldlM_preserves (P := AgreeOn itemId draft) ?_ ⟨rfl, rfl, rfl, rfl⟩ h
  intro other hmem b c hb hc
  have hstep : AgreeOn itemId b c := rotateItem_agreeOn (fun heq => hothers (heq ▸ hmem)) hc
  exact ⟨hstep.owners.trans hb.owners, hstep.item.trans hb.item, hstep.readerRotation.trans hb.readerRotation,
    hstep.slotRotation.trans hb.slotRotation⟩

theorem commonItems_nodup (prior next : PolicyState) : (commonItems prior next).Nodup := by
  refine List.Nodup.filter _ ?_
  have := prior.items.distinct_keys
  exact this.imp fun h heq => h (by simp [heq])

theorem mem_commonItems : itemId ∈ commonItems prior next ↔ itemId ∈ prior.items ∧ itemId ∈ next.items := by
  simp [commonItems]

-- The rounds before and after an item's own one do not touch it.
theorem applyRotations_round
    (h : applyRotations prior draft = .ok next) (hprior : itemId ∈ prior.items) (hnext : itemId ∈ next.items) :
    ∃ reached rotated, AgreeOn itemId draft reached ∧ rotateItem prior reached itemId = .ok rotated ∧
      next.items[itemId]? = rotated.next.items[itemId]? ∧ next.owners = rotated.next.owners := by
  simp only [applyRotations, eq_ok] at h
  obtain ⟨out, hloop, -, -, rfl⟩ := h
  by_cases hmem : itemId ∈ commonItems prior draft.next
  case neg =>
    -- Rotations add no item, so one that is there afterwards was common before.
    have hsame := (rotateItems_agreeOn hmem hloop).item
    exfalso
    apply hmem
    rw [ExtTreeMap.mem_iff_isSome_getElem?, hsame, ← ExtTreeMap.mem_iff_isSome_getElem?] at hnext
    exact mem_commonItems.mpr ⟨hprior, hnext⟩
  obtain ⟨before, after, hsplit⟩ := List.append_of_mem hmem
  have hnodup := commonItems_nodup prior draft.next
  rw [hsplit] at hloop hnodup
  obtain ⟨hbefore, hafter⟩ : itemId ∉ before ∧ itemId ∉ after := by
    rw [List.nodup_middle, List.nodup_cons, List.mem_append, not_or] at hnodup
    exact hnodup.1
  obtain ⟨reached, hreach, hrest⟩ := foldlM_append_eq_ok.mp hloop
  obtain ⟨rotated, hrot, hrest⟩ := foldlM_cons_eq_ok.mp hrest
  have hpost := rotateItems_agreeOn hafter hrest
  exact ⟨reached, rotated, rotateItems_agreeOn hbefore hreach, hrot, hpost.item, hpost.owners⟩

theorem applyRotations_rekeys (h : applyRotations prior draft = .ok next)
    (hprior : prior.items[itemId]? = some priorItem) (hnext : next.items[itemId]? = some nextItem)
    (hreaders : prior.effectiveReaderIds itemId ≠ next.effectiveReaderIds itemId) :
    Rekeyed draft itemId priorItem nextItem := by
  have hold : itemId ∈ prior.items := mem_of_getElem? hprior
  have hnew : itemId ∈ next.items := mem_of_getElem? hnext
  obtain ⟨reached, rotated, hpre, hrot, hitems, howners⟩ := applyRotations_round h hold hnew
  obtain ⟨item, new, hitem, hnew, hsameOwners, hgrants, hrekeyed⟩ := rotateItem_rekeys hrot hprior
  obtain rfl : new = nextItem := by simpa [hitems, hnew] using hnext
  have hsame := effectiveReaderIds_congr (howners.trans hsameOwners) hnext hitem hgrants
  have hdone := hrekeyed (hsame ▸ hreaders)
  exact ⟨hdone.epoch, hpre.readerRotation ▸ hdone.content, hpre.slotRotation ▸ hdone.slots⟩

end Jury.Policy
