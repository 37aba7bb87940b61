import Jury.Access.Direct
import Jury.Mutation.Plan
import Jury.Policy.Replay.Advance

-- Descent between artifacts of one vault: a strict order on the validated ones, and what it keeps of the
-- items of the older artifact.
namespace Jury.Mutation

open Lib Protocol Vault Policy LocalState List

variable {candidate : VaultFileV1} {policy : PolicyState}

def ArtifactRelation.swap : ArtifactRelation → ArtifactRelation
  | .identical => .identical
  | .incomingStrictDescendant => .localStrictDescendant
  | .localStrictDescendant => .incomingStrictDescendant
  | .divergent => .divergent

def DescriptorNotLower (item later : ItemEnvelopeV1) : Prop :=
  item.descriptor.revision ≤ later.descriptor.revision ∧ item.descriptor.keyEpoch ≤ later.descriptor.keyEpoch

-- The envelope of an item in a later artifact, with the signed history of the older one before its own.
structure Survives (candidate : VaultFileV1) (item later : ItemEnvelopeV1) : Prop where
  listed : later ∈ candidate.items
  itemId : later.itemId = item.itemId
  history : item.revisions <+: later.revisions

structure Deleted (base candidate : VaultFileV1) (itemId : ItemId) : Prop where
  unlisted : ∀ later ∈ candidate.items, later.itemId ≠ itemId
  deletion : ∃ revision ∈ candidate.policy.revisions.drop base.policy.revisions.length,
    ∃ descriptorDigest revisionHash sequence,
      .itemDelete itemId descriptorDigest revisionHash sequence ∈ revision.operations

structure HistoryKept (item later : ItemEnvelopeV1) : Prop where
  history : item.revisions <+: later.revisions
  same : later.revisions.length ≤ item.revisions.length →
    later.currentRevision = item.currentRevision ∧ later.bodyCiphertext = item.bodyCiphertext ∧
      DescriptorNotLower item later

theorem itemHistoryIsPrefix_iff : itemHistoryIsPrefix item later = true ↔ HistoryKept item later := by
  simp only [itemHistoryIsPrefix, holds, Bool.or_eq_true, isPrefixOf_iff_prefix, gt_iff_lt, ge_iff_le]
  constructor
  · rintro ⟨hhistory, hlonger | ⟨⟨⟨hcur, hbody⟩, hrev⟩, hepoch⟩⟩
    · exact ⟨hhistory, fun hshort => absurd hlonger (by omega)⟩
    · exact ⟨hhistory, fun _ => ⟨hcur, hbody, hrev, hepoch⟩⟩
  · rintro ⟨hhistory, hsame⟩
    refine ⟨hhistory, ?_⟩
    rcases Nat.lt_or_ge item.revisions.length later.revisions.length with hlonger | hshort
    · exact .inl hlonger
    · obtain ⟨hcur, hbody, hrev, hepoch⟩ := hsame hshort
      exact .inr ⟨⟨⟨hcur, hbody⟩, hrev⟩, hepoch⟩

theorem HistoryKept.trans (h : HistoryKept a b) (h' : HistoryKept b c) : HistoryKept a c where
  history := h.history.trans h'.history
  same hshort := by
    have hfirst := h.history.length_le
    have hsecond := h'.history.length_le
    obtain ⟨hcur, hbody, hrev, hepoch⟩ := h.same (by omega)
    obtain ⟨hcurrent', hbody', hrevision', hepoch'⟩ := h'.same (by omega)
    exact ⟨hcurrent'.trans hcur, hbody'.trans hbody, UInt64.le_trans hrev hrevision', UInt64.le_trans hepoch hepoch'⟩

variable {a vault : VaultFileV1} {itemId : ItemId}

theorem policySuffixDeletes_iff :
    policySuffixDeletes vault start itemId = true ↔
      ∃ revision ∈ vault.policy.revisions.drop start, ∃ descriptorDigest revisionHash sequence,
        .itemDelete itemId descriptorDigest revisionHash sequence ∈ revision.operations := by
  simp only [policySuffixDeletes, any_eq_true, beq_iff_eq]
  constructor
  · rintro ⟨revision, hrev, operation, hmem, hdeleted⟩
    cases operation <;> simp only [deletedItemId, Option.some.injEq, reduceCtorEq] at hdeleted
    subst hdeleted
    exact ⟨revision, hrev, _, _, _, hmem⟩
  · rintro ⟨revision, hrev, descriptorDigest, revisionHash, sequence, hmem⟩
    exact ⟨revision, hrev, _, hmem, rfl⟩

theorem envelopesById_eq_some (hnodup : (vault.items.map (·.itemId)).Nodup) :
    (envelopesById vault)[itemId]? = some envelope ↔ envelope ∈ vault.items ∧ envelope.itemId = itemId := by
  have hlookup : ∀ listed ∈ vault.items, (envelopesById vault)[listed.itemId]? = some listed := by
    intro listed hmem
    refine Std.ExtTreeMap.getElem?_ofList_of_mem Std.ReflCmp.compare_self ?_ (mem_map.mpr ⟨listed, hmem, rfl⟩)
    rw [pairwise_map]
    exact (pairwise_map.mp hnodup).imp fun hdiff heq => hdiff (Std.LawfulEqOrd.eq_of_compare heq)
  constructor
  · intro hfound
    have hmem : itemId ∈ envelopesById vault := mem_of_getElem? hfound
    rw [envelopesById, Std.ExtTreeMap.mem_ofList, contains_iff_mem, map_map] at hmem
    obtain ⟨listed, hlisted, rfl⟩ := mem_map.mp hmem
    have heq := (hlookup listed hlisted).symm.trans hfound
    exact Option.some.inj heq ▸ ⟨hlisted, rfl⟩
  · rintro ⟨hmem, rfl⟩
    exact hlookup envelope hmem

structure Descends (base candidate : VaultFileV1) : Prop where
  vaultId : base.header.vaultId = candidate.header.vaultId
  fingerprint : base.header.genesisFingerprint = candidate.header.genesisFingerprint
  genesis : base.policy.genesis = candidate.policy.genesis
  migration : base.suiteMigration = candidate.suiteMigration
  longer : base.policy.revisions.length < candidate.policy.revisions.length
  journal : base.policy.revisions <+: candidate.policy.revisions
  items : ∀ item ∈ base.items,
    (∃ later ∈ candidate.items, later.itemId = item.itemId ∧ HistoryKept item later) ∨
      Deleted base candidate item.itemId

theorem isStrictDescendant_iff (hnodup : (candidate.items.map (·.itemId)).Nodup) :
    isStrictDescendant base candidate = true ↔ Descends base candidate := by
  simp only [isStrictDescendant, holds, isPrefixOf_iff_prefix, all_eq_true, gt_iff_lt, and_assoc]
  constructor
  · rintro ⟨hvault, hfp, hgen, hmigration, hlonger, hjournal, hitems⟩
    refine ⟨hvault, hfp, hgen, hmigration, hlonger, hjournal, fun item hmem => ?_⟩
    have hitem := hitems item hmem
    split at hitem
    case h_1 hfound =>
      refine .inr ⟨fun later hlater heq => ?_, policySuffixDeletes_iff.mp hitem⟩
      rw [(envelopesById_eq_some hnodup).mpr ⟨hlater, heq⟩] at hfound
      cases hfound
    case h_2 found hfound =>
      obtain ⟨hlisted, hid⟩ := (envelopesById_eq_some hnodup).mp hfound
      exact .inl ⟨found, hlisted, hid, itemHistoryIsPrefix_iff.mp hitem⟩
  · intro h
    refine ⟨h.vaultId, h.fingerprint, h.genesis, h.migration, h.longer, h.journal, fun item hmem => ?_⟩
    rcases h.items item hmem with ⟨later, hlater, heq, hkept⟩ | hdeleted
    · rw [(envelopesById_eq_some hnodup).mpr ⟨hlater, heq⟩]
      exact itemHistoryIsPrefix_iff.mpr hkept
    · cases hfound : (envelopesById candidate)[item.itemId]? with
      | none => exact policySuffixDeletes_iff.mpr hdeleted.deletion
      | some found =>
        obtain ⟨hlisted, hid⟩ := (envelopesById_eq_some hnodup).mp hfound
        exact absurd hid (hdeleted.unlisted found hlisted)

theorem isStrictDescendant_longer (h : isStrictDescendant base candidate = true) :
    base.policy.revisions.length < candidate.policy.revisions.length := by
  obtain ⟨-, suffix, hsuffix, hrevs⟩ := isStrictDescendant_journal h
  rw [hrevs, length_append]
  have := length_pos_of_ne_nil hsuffix
  omega

theorem isStrictDescendant_irrefl (vault : VaultFileV1) : isStrictDescendant vault vault = false := by
  rw [Bool.eq_false_iff]
  intro h
  exact absurd (isStrictDescendant_longer h) (Nat.lt_irrefl _)

theorem isStrictDescendant_asymm (h : isStrictDescendant a b = true) : isStrictDescendant b a = false := by
  rw [Bool.eq_false_iff]
  intro h'
  have := isStrictDescendant_longer h
  have := isStrictDescendant_longer h'
  omega

theorem compareArtifacts_swap (a b : VaultFileV1) : compareArtifacts b a = (compareArtifacts a b).swap := by
  unfold compareArtifacts
  by_cases hsame : a = b
  · rw [if_pos hsame, if_pos hsame.symm]
    rfl
  · rw [if_neg hsame, if_neg (Ne.symm hsame)]
    cases hforward : isStrictDescendant a b with
    | true =>
      rw [isStrictDescendant_asymm hforward]
      rfl
    | false =>
      cases isStrictDescendant b a <;> rfl

variable [Crypto]

theorem ValidatedComplete.nodup (h : ValidatedComplete vault policies policy) : (vault.items.map (·.itemId)).Nodup := by
  obtain ⟨candidate, hcand⟩ := h.candidate
  simp only [CheckpointCandidate.fromValidated, bind_eq_ok] at hcand
  obtain ⟨-, -, -, -, -, -, -, -, -, -, seen, hscan, -⟩ := hcand
  exact (scanEnvelopes_nodup hscan).1

theorem ValidatedComplete.exists_catalog (h : ValidatedComplete vault policies policy) :
    ∃ catalog, witnessPolicyCatalog policies = .ok catalog ∧ replayPolicyWithCatalog vault.policy catalog = .ok policy :=
  replayPolicy_eq_ok.mp h.replayed

theorem ValidatedComplete.bound (h : ValidatedComplete vault policies policy) (hmem : envelope ∈ vault.items) :
    ∃ item, EnvelopeBound policy envelope item := by
  obtain ⟨candidate, hcand⟩ := h.candidate
  exact (fromValidated_envelopes hcand).1 envelope hmem

theorem ValidatedComplete.deleted {policies : List WitnessPolicy} (h : ValidatedComplete vault policies policy)
    {revision : SignedPolicyRevisionV1} {descriptorDigest revisionHash : Digest32} {sequence : UInt64}
    (hrev : revision ∈ vault.policy.revisions)
    (hmem : .itemDelete itemId descriptorDigest revisionHash sequence ∈ revision.operations) :
    itemId ∈ policy.tombstones ∧ ∀ envelope ∈ vault.items, envelope.itemId ≠ itemId := by
  obtain ⟨catalog, -, hreplay⟩ := h.exists_catalog
  have hdead := replay_tombstones hreplay hrev hmem
  refine ⟨hdead, fun envelope hlisted heq => ?_⟩
  obtain ⟨item, hbound⟩ := h.bound hlisted
  have hlive : itemId ∈ policy.items := mem_of_getElem? (heq ▸ hbound.found)
  exact (replay_itemIds hreplay).disjoint itemId hlive hdead

theorem Descends.trans (hc : ValidatedComplete c policies policy) (h : Descends a b) (h' : Descends b c) :
    Descends a c where
  vaultId := h.vaultId.trans h'.vaultId
  fingerprint := h.fingerprint.trans h'.fingerprint
  genesis := h.genesis.trans h'.genesis
  migration := h.migration.trans h'.migration
  longer := h.longer.trans h'.longer
  journal := h.journal.trans h'.journal
  items item hitem := by
    rcases h.items item hitem with ⟨middle, hmiddle, hid, hkept⟩ | hdeleted
    · rcases h'.items middle hmiddle with ⟨later, hlater, hid', hkept'⟩ | hdeleted
      · exact .inl ⟨later, hlater, hid'.trans hid, hkept.trans hkept'⟩
      · obtain ⟨revision, hrev, hdeletion⟩ := hdeleted.deletion
        rw [hid] at hdeleted hdeletion
        exact .inr ⟨hdeleted.unlisted, revision, (drop_suffix_drop_left _ h.longer.le).subset hrev, hdeletion⟩
    · obtain ⟨revision, hrev, descriptorDigest, revisionHash, sequence, hmem⟩ := hdeleted.deletion
      obtain ⟨suffix, hsuffix⟩ := h'.journal
      have hlater : revision ∈ c.policy.revisions.drop a.policy.revisions.length := by
        rw [← hsuffix, drop_append_of_le_length h.longer.le]
        exact mem_append_left _ hrev
      exact .inr ⟨(hc.deleted (mem_of_mem_drop hlater) hmem).2, revision, hlater, _, _, _, hmem⟩

def DescriptorsWithinEpoch (policy : PolicyState) : Prop :=
  ∀ (itemId : ItemId) (item : ItemPolicyState), policy.items[itemId]? = some item →
    item.descriptor.keyEpoch ≤ item.keyEpoch

-- Behind the journal of the older artifact, no reader set change puts in a descriptor whose revision is below that
-- of the descriptor it replaces.
def SuffixKeepsRevisions (base candidate : VaultFileV1) (policies : List WitnessPolicy) : Prop :=
  ∀ before revision after prior, candidate.policy.revisions = before ++ revision :: after →
    base.policy.revisions.length ≤ before.length →
    replayPolicyWithWitnessPolicies { candidate.policy with revisions := before } policies = .ok prior →
    KeepsDescriptorRevisions prior revision.operations

def DescriptorsNotLower (base candidate : VaultFileV1) : Prop :=
  ∀ item ∈ base.items, ∀ later ∈ candidate.items, later.itemId = item.itemId → DescriptorNotLower item later

section Descriptors

variable {candidate : VaultFileV1} {policy : PolicyState}

section Replayed

variable (h : Descends base candidate) (hbase : ValidatedComplete base basePolicies basePolicy)

include h hbase

-- The state of the older artifact is one that the younger journal passes through, up to the catalog.
theorem Descends.replayed_base {catalog : BTreeMap Digest32 WitnessPolicy}
    (hstart : replayPolicyWithCatalog { candidate.policy with revisions := base.policy.revisions } catalog = .ok start)
    : start = basePolicy.under catalog := by
  obtain ⟨baseCatalog, -, hreplay⟩ := hbase.exists_catalog
  have hjournal : { candidate.policy with revisions := base.policy.revisions } = base.policy := by
    dsimp only
    rw [← h.genesis]
  rw [hjournal] at hstart
  exact replay_agree hreplay hstart

theorem Descends.descriptors_of_suffix (hcand : ValidatedComplete candidate policies policy)
    (hepochs : DescriptorsWithinEpoch basePolicy) (hkept : SuffixKeepsRevisions base candidate policies) :
    DescriptorsNotLower base candidate := by
  obtain ⟨catalog, hcat, hreplay⟩ := hcand.exists_catalog
  obtain ⟨suffix, hsuffix⟩ := h.journal
  have hjournal : { candidate.policy with revisions := base.policy.revisions ++ suffix } = candidate.policy := by
    rw [hsuffix]
  rw [← hjournal] at hreplay
  obtain ⟨start, hstart, hadv⟩ := replay_advanced hreplay fun first revision last prior hsplit hprior => by
    refine hkept (base.policy.revisions ++ first) revision last prior ?_ (by simp) ?_
    · rw [← hsuffix, hsplit, append_assoc]
    · exact replayPolicy_eq_ok.mpr ⟨catalog, hcat, hprior⟩
  intro item hitem later hlater hid
  obtain ⟨newItem, hnew⟩ := hcand.bound hlater
  obtain ⟨oldItem, hold⟩ := hbase.bound hitem
  obtain rfl := h.replayed_base hbase hstart
  have hlive : item.itemId ∈ (basePolicy.under catalog).items := mem_of_getElem? hold.found
  obtain ⟨before, hbefore, hitemAdvanced⟩ := hadv.items item.itemId newItem
    ((replay_itemIds hstart).live _ hlive) (hid ▸ hnew.found)
  obtain rfl : oldItem = before := some_unique hold.found hbefore
  refine ⟨?_, ?_⟩
  · rw [hold.descriptor, hnew.descriptor]
    exact hitemAdvanced.revision
  · rw [hold.descriptor, hnew.descriptor]
    rcases hitemAdvanced.carried with hsame | hcarried
    · rw [hsame]
      exact UInt64.le_refl _
    · exact UInt64.le_trans (hepochs item.itemId oldItem hold.found) hcarried

-- For a descent by one revision the condition is also necessary: what a reader set change asks for is what the item
-- ends with.
theorem Descends.suffix_of_descriptors (hcand : ValidatedComplete candidate policies policy)
    (hone : candidate.policy.revisions.length = base.policy.revisions.length + 1)
    (hkept : DescriptorsNotLower base candidate) : SuffixKeepsRevisions base candidate policies := by
  intro before revision after prior hsplit hbefore hprior
  obtain ⟨catalog, hcat, hreplay⟩ := hcand.exists_catalog
  obtain ⟨prior', next, timestamp, hprior', hnext, hround⟩ := replay_split hreplay hsplit
  have hlen := congrArg length hsplit
  rw [length_append, length_cons] at hlen
  obtain rfl : after = [] := eq_nil_of_length_eq_zero (by omega)
  obtain rfl : policy = next := by
    rw [← hsplit] at hnext
    exact ok_unique hreplay hnext
  have hbaseRevisions : base.policy.revisions = before := by
    obtain ⟨suffix, hsuffix⟩ := h.journal
    rw [hsplit] at hsuffix
    exact (append_inj hsuffix (by omega)).1
  obtain ⟨catalog', hcatalog', hprior⟩ := replayPolicy_eq_ok.mp hprior
  obtain rfl := ok_unique hcat hcatalog'
  obtain rfl := h.replayed_base hbase (hbaseRevisions ▸ hprior)
  obtain rfl := ok_unique hprior hprior'
  intro operation hmem
  cases operation with
  | itemReaderSetChange itemId _ _ _ _ descriptor _ =>
    rw [keepsDescriptorRevision, Option.all_eq_true]
    intro item hitem
    rw [decide_eq_true_eq]
    obtain ⟨new, hnew, hdesc⟩ := replayRevision_installs hround hmem
    obtain ⟨_, hbaseCandidate⟩ := hbase.candidate
    obtain ⟨_, hnewCandidate⟩ := hcand.candidate
    obtain ⟨old, hold, rfl⟩ := (fromValidated_envelopes hbaseCandidate).2 itemId (mem_of_getElem? hitem)
    obtain ⟨later, hlater, hid⟩ := (fromValidated_envelopes hnewCandidate).2 old.itemId (mem_of_getElem? hnew)
    obtain ⟨oldItem, holdItem⟩ := hbase.bound hold
    obtain ⟨newItem, hnewItem⟩ := hcand.bound hlater
    obtain rfl : oldItem = item := some_unique holdItem.found hitem
    obtain rfl : newItem = new := by
      have hfound := hnewItem.found
      rw [hid] at hfound
      exact some_unique hfound hnew
    have hnotLower := (hkept old hold later hlater hid).1
    rwa [holdItem.descriptor, hnewItem.descriptor, hdesc] at hnotLower
  | _ => rfl

end Replayed

end Descriptors

def FullyValidated (vault : VaultFileV1) : Prop :=
  ∃ policies current policy, validateComplete vault policies current = .ok policy

theorem descent_strict_order :
    (∀ vault, isStrictDescendant vault vault = false) ∧
    (∀ a b, isStrictDescendant a b = true → isStrictDescendant b a = false) ∧
    (∀ a b c, FullyValidated a → FullyValidated b → FullyValidated c →
      isStrictDescendant a b = true → isStrictDescendant b c = true → isStrictDescendant a c = true) ∧
    (∀ a b, compareArtifacts b a = (compareArtifacts a b).swap) ∧
    ∀ base candidate basePolicies policies current current' basePolicy policy,
      validateComplete base basePolicies current = .ok basePolicy →
      validateComplete candidate policies current' = .ok policy →
      isStrictDescendant base candidate = true →
      (∀ item ∈ base.items, (∃ later, Survives candidate item later) ∨
        item.itemId ∈ policy.tombstones ∧ Deleted base candidate item.itemId) ∧
      (DescriptorsWithinEpoch basePolicy →
        (SuffixKeepsRevisions base candidate policies → DescriptorsNotLower base candidate) ∧
        (candidate.policy.revisions.length = base.policy.revisions.length + 1 →
          (DescriptorsNotLower base candidate ↔ SuffixKeepsRevisions base candidate policies))) := by
  refine ⟨isStrictDescendant_irrefl, fun _ _ => isStrictDescendant_asymm, ?_, compareArtifacts_swap, ?_⟩
  · rintro a b c - ⟨middlePolicies, _, middlePolicy, hmiddle⟩ ⟨policies, _, policy, hlast⟩ hab hbc
    rw [validateComplete_eq_ok] at hmiddle hlast
    rw [isStrictDescendant_iff hmiddle.nodup] at hab
    rw [isStrictDescendant_iff hlast.nodup] at hbc ⊢
    exact hab.trans hlast hbc
  · intro base candidate basePolicies policies _ _ basePolicy policy hbase hcand hdescends
    rw [validateComplete_eq_ok] at hbase hcand
    rw [isStrictDescendant_iff hcand.nodup] at hdescends
    refine ⟨fun item hitem => ?_, fun hepochs => ⟨?_, fun hone => ⟨?_, ?_⟩⟩⟩
    · rcases hdescends.items item hitem with ⟨later, hlater, hid, hkept⟩ | hdeleted
      · exact .inl ⟨later, hlater, hid, hkept.history⟩
      · obtain ⟨revision, hrev, _, _, _, hmem⟩ := hdeleted.deletion
        exact .inr ⟨(hcand.deleted (List.mem_of_mem_drop hrev) hmem).1, hdeleted⟩
    · exact hdescends.descriptors_of_suffix hbase hcand hepochs
    · exact hdescends.suffix_of_descriptors hbase hcand hone
    · exact hdescends.descriptors_of_suffix hbase hcand hepochs

end Jury.Mutation

namespace Jury.Mutation.Sample

open Lib Protocol Vault Protocol.Sample Policy Policy.Sample Access.Sample

def rewritten : SignedItemRevisionV1 :=
  let unsigned : SignedItemRevisionV1 := { body with
    itemRevision := 2
    previousItemRevisionHash := body.recomputedHash.getD ZERO_DIGEST
    keyEpoch := 2
    policySequence := 3
    timestampMs := 1003
    revisionSealId := identifier .revisionSeal 31
    nonce := FixedBytes.replicate 12 31
    signature := NO_SIGNATURE }
  { unsigned with signature := sign (verificationKey 1) unsigned.signaturePreimage }

def resealedDescriptor (revision : UInt64) : DescriptorMetadataV1 :=
  { metadata revision 2 13 with ciphertextDigest := sha256 descriptorCiphertext.bytes }

def resealedJournal (revision : UInt64) : PolicyJournalV1 :=
  extend renamedJournal [] 1 1003 [
    .itemReaderSetChange itemId 1 2 [owner] [owner] (resealedDescriptor revision)
      (rewritten.recomputedHash.getD ZERO_DIGEST),
    .itemSlotsReplace itemId 2
      [directSlot itemId 2 3 .descriptor .owner 1 13, directSlot itemId 2 3 .body .owner 1 31] none]

def resealedVault (revision : UInt64) : VaultFileV1 :=
  { vaultOf (resealedJournal revision) (resealedDescriptor revision) with
    items := [{
      itemId
      descriptor := resealedDescriptor revision
      descriptorCiphertext
      priorRevisions := [body]
      currentRevision := rewritten
      bodyCiphertext }] }

def lastKeeps (journal : PolicyJournalV1) : Bool :=
  Returns (replayPolicyWithWitnessPolicies { journal with revisions := journal.revisions.dropLast } []) fun state =>
    journal.revisions.getLast?.all fun revision => revision.operations.all (keepsDescriptorRevision state)

theorem suffixKeeps_of_lastKeeps {base : VaultFileV1} (h : lastKeeps candidate.policy = true)
    (hone : candidate.policy.revisions.length = base.policy.revisions.length + 1) :
    SuffixKeepsRevisions base candidate [] := by
  intro before revision after prior hsplit hbefore hprior
  have hlen := congrArg List.length hsplit
  rw [List.length_append, List.length_cons] at hlen
  obtain rfl : after = [] := List.eq_nil_of_length_eq_zero (by omega)
  obtain ⟨state, hstate, hkept⟩ := returns_iff.mp h
  rw [hsplit, List.dropLast_concat, hprior] at hstate
  obtain rfl := Except.ok.inj hstate
  rw [hsplit, List.getLast?_concat] at hkept
  exact List.all_eq_true.mp hkept

theorem resealed_vault_descends :
    isStrictDescendant createdVault (resealedVault 3) = true ∧ DescriptorsNotLower renamedVault (resealedVault 3) := by
  obtain ⟨-, -, htrans, -, hkept⟩ := descent_strict_order
  have hcreated : (validateComplete createdVault [] true).isOk = true := by decide +kernel
  have hrenamed : Returns (validateComplete renamedVault [] true) (fun policy =>
      policy.items.toList.all fun entry => decide (entry.2.descriptor.keyEpoch ≤ entry.2.keyEpoch)) = true := by
    decide +kernel
  have hresealed : (validateComplete (resealedVault 3) [] true).isOk = true := by decide +kernel
  have hfirst : isStrictDescendant createdVault renamedVault = true := by decide +kernel
  have hsecond : isStrictDescendant renamedVault (resealedVault 3) = true := by decide +kernel
  have hlast : lastKeeps (resealedVault 3).policy = true := by decide +kernel
  have hone : (resealedVault 3).policy.revisions.length = renamedVault.policy.revisions.length + 1 := by decide +kernel
  obtain ⟨createdPolicy, hcreated⟩ := exists_eq_ok_of_isOk hcreated
  obtain ⟨renamedPolicy, hrenamed, hepochs⟩ := returns_iff.mp hrenamed
  obtain ⟨resealedPolicy, hresealed⟩ := exists_eq_ok_of_isOk hresealed
  refine ⟨htrans _ _ _ ⟨_, _, _, hcreated⟩ ⟨_, _, _, hrenamed⟩ ⟨_, _, _, hresealed⟩ hfirst hsecond, ?_⟩
  refine ((hkept _ _ _ _ _ _ _ _ hrenamed hresealed hsecond).2 ?_).1 (suffixKeeps_of_lastKeeps hlast hone)
  intro itemId item hitem
  have hentry := List.all_eq_true.mp hepochs (itemId, item) (Std.ExtTreeMap.mem_toList_iff_getElem?_eq_some.mpr hitem)
  exact of_decide_eq_true hentry

-- A descendant in which the descriptor of the item is back at the first revision.
theorem resealed_vault_lower :
    ∃ basePolicy policy item later,
      validateComplete renamedVault [] true = .ok basePolicy ∧
      validateComplete (resealedVault 1) [] false = .ok policy ∧
      compareArtifacts renamedVault (resealedVault 1) = .incomingStrictDescendant ∧
      item ∈ renamedVault.items ∧ Survives (resealedVault 1) item later ∧
      later.descriptor.revision < item.descriptor.revision := by
  have hrenamed : (validateComplete renamedVault [] true).isOk = true := by decide +kernel
  have hresealed : (validateComplete (resealedVault 1) [] false).isOk = true := by decide +kernel
  have hcompared : compareArtifacts renamedVault (resealedVault 1) = .incomingStrictDescendant := by decide +kernel
  obtain ⟨basePolicy, hbase⟩ := exists_eq_ok_of_isOk hrenamed
  obtain ⟨policy, hpolicy⟩ := exists_eq_ok_of_isOk hresealed
  exact ⟨basePolicy, policy, _, _, hbase, hpolicy, hcompared, List.mem_singleton_self _,
    ⟨List.mem_singleton_self _, rfl, [rewritten], rfl⟩, by decide⟩

end Jury.Mutation.Sample
