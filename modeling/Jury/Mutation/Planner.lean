import Jury.Lib.HashChain
import Jury.Mutation.Descent

-- The planners that put together a revision and the envelopes it needs, and when what they plan descends from the
-- artifact they started from. The plan is compared with the policy, which names of every item the current revision
-- only; a peer compares whole histories.
namespace Jury.Mutation

open Lib Protocol Vault Policy LocalState Std List

structure PreparedItemMutation where
  policy : PreparedPolicyRevision
  envelope : ItemEnvelopeV1

structure PreparedItemBatchComponent where
  operations : List PolicyOperationV1
  envelope : ItemEnvelopeV1

def mapPolicyError : PolicyErrorKind → MutationErrorKind
  | .capacityExhausted => .capacityExhausted
  | .unauthorized | .invalidRole => .unauthorized
  | _ => .invalidPlan

def operationsMatch (existing operation : PolicyOperationV1) : Bool :=
  match existing, operation with
  | .principalAdd left _ _, .principalAdd right _ _ => left.principalId == right.principalId
  | .principalReplace leftPrior leftNext _, .principalReplace rightPrior rightNext _ =>
    leftPrior == rightPrior || leftNext.principalId == rightNext.principalId
  | .ownerGrant left, .ownerGrant right => left == right
  | .ownerRevoke left, .ownerRevoke right => left == right
  | _, _ => false

def pushBatchOperation (operations : List PolicyOperationV1) (operation : PolicyOperationV1) :
    Except MutationErrorKind (List PolicyOperationV1) :=
  match operations.find? fun existing => operationsMatch existing operation with
  | some existing => do
    rejectIf (existing != operation) .invalidPlan
    return operations
  | none => return operations ++ [operation]

def isOwnerGrant : PolicyOperationV1 → Bool
  | .ownerGrant _ => true
  | _ => false

namespace VaultMutationPlan

variable [Crypto]

def preparePolicy (codec : VaultCodec) (current : VaultFileV1) (witnessPolicies : List WitnessPolicy)
    (author : PolicySigner) (timestampMs : UInt64) (operations : List PolicyOperationV1)
    (downgrade : DirectDowngradeAcknowledgement) (kind : MutationKind) : Except MutationErrorKind VaultMutationPlan := do
  rejectIf operations.isEmpty .noChange
  let currentPolicy ← validateComplete current witnessPolicies true
  let prepared ← (prepareWithSigner currentPolicy author timestampMs operations).mapError mapPolicyError
  fromPrepared codec current witnessPolicies prepared [] timestampMs downgrade kind

def finishItemBatch (codec : VaultCodec) (current : VaultFileV1) (witnessPolicies : List WitnessPolicy)
    (currentPolicy : PolicyState) (author : PolicySigner) (timestampMs : UInt64) (operations : List PolicyOperationV1)
    (envelopes : List ItemEnvelopeV1) (additionalOperations : List PolicyOperationV1)
    (downgrade : DirectDowngradeAcknowledgement) (kind : MutationKind) : Except MutationErrorKind VaultMutationPlan := do
  let operations := operations.filter (!isOwnerGrant ·) ++ operations.filter isOwnerGrant
  let operations ← additionalOperations.foldlM pushBatchOperation operations
  let prepared ← (prepareWithSigner currentPolicy author timestampMs operations).mapError mapPolicyError
  fromPrepared codec current witnessPolicies prepared envelopes timestampMs downgrade kind

structure Batch where
  operations : List PolicyOperationV1
  envelopes : List ItemEnvelopeV1

def addItemMutation (currentPolicy : PolicyState) (author : PolicySigner) (expectedSequence timestampMs : UInt64)
    (batch : Batch) (mutation : PreparedItemMutation) : Except MutationErrorKind Batch := do
  let revision := mutation.policy.revision
  rejectIf
    (revision.sequence != expectedSequence
      || revision.previousRevisionHash != currentPolicy.terminalRevisionHash
      || revision.authorPrincipalId != author.principalId
      || revision.timestampMs != timestampMs)
    .invalidPlan
  let operations ← revision.operations.foldlM pushBatchOperation batch.operations
  return { operations, envelopes := batch.envelopes ++ [mutation.envelope] }

def addItemComponent (author : PolicySigner) (expectedSequence timestampMs : UInt64) (batch : Batch)
    (component : PreparedItemBatchComponent) : Except MutationErrorKind Batch := do
  let revision := component.envelope.currentRevision
  rejectIf
    (revision.policySequence != expectedSequence
      || revision.authorPrincipalId != author.principalId
      || revision.timestampMs != timestampMs)
    .invalidPlan
  let operations ← component.operations.foldlM pushBatchOperation batch.operations
  return { operations, envelopes := batch.envelopes ++ [component.envelope] }

def prepareItemBatch (codec : VaultCodec) (current : VaultFileV1) (witnessPolicies : List WitnessPolicy)
    (author : PolicySigner) (timestampMs : UInt64) (additionalOperations : List PolicyOperationV1)
    (itemMutations : List PreparedItemMutation) (downgrade : DirectDowngradeAcknowledgement) (kind : MutationKind) :
    Except MutationErrorKind VaultMutationPlan := do
  rejectIf (itemMutations.isEmpty && additionalOperations.isEmpty) .noChange
  let currentPolicy ← validateComplete current witnessPolicies true
  let expectedSequence ← orReject (checkedAdd currentPolicy.sequence 1) .capacityExhausted
  let batch ← itemMutations.foldlM (addItemMutation currentPolicy author expectedSequence timestampMs) ⟨[], []⟩
  finishItemBatch codec current witnessPolicies currentPolicy author timestampMs batch.operations batch.envelopes
    additionalOperations downgrade kind

def prepareItemComponentBatch (codec : VaultCodec) (current : VaultFileV1) (witnessPolicies : List WitnessPolicy)
    (author : PolicySigner) (timestampMs : UInt64) (additionalOperations : List PolicyOperationV1)
    (components : List PreparedItemBatchComponent) (downgrade : DirectDowngradeAcknowledgement) (kind : MutationKind) :
    Except MutationErrorKind VaultMutationPlan := do
  rejectIf (components.isEmpty && additionalOperations.isEmpty) .noChange
  let currentPolicy ← validateComplete current witnessPolicies true
  let expectedSequence ← orReject (checkedAdd currentPolicy.sequence 1) .capacityExhausted
  let batch ← components.foldlM (addItemComponent author expectedSequence timestampMs) ⟨[], []⟩
  finishItemBatch codec current witnessPolicies currentPolicy author timestampMs batch.operations batch.envelopes
    additionalOperations downgrade kind

end VaultMutationPlan

inductive PlannedWith [Crypto] (codec : VaultCodec) (current : VaultFileV1) :
    List ItemEnvelopeV1 → VaultMutationPlan → Prop where
  | policy {plan : VaultMutationPlan} (witnessPolicies : List WitnessPolicy) (author : PolicySigner)
      (timestampMs : UInt64) (operations : List PolicyOperationV1) (downgrade : DirectDowngradeAcknowledgement)
      (kind : MutationKind) (h : VaultMutationPlan.preparePolicy codec current witnessPolicies author timestampMs
        operations downgrade kind = .ok plan) : PlannedWith codec current [] plan
  | itemBatch {plan : VaultMutationPlan} (witnessPolicies : List WitnessPolicy) (author : PolicySigner)
      (timestampMs : UInt64) (additionalOperations : List PolicyOperationV1) (mutations : List PreparedItemMutation)
      (downgrade : DirectDowngradeAcknowledgement) (kind : MutationKind)
      (h : VaultMutationPlan.prepareItemBatch codec current witnessPolicies author timestampMs additionalOperations
        mutations downgrade kind = .ok plan) : PlannedWith codec current (mutations.map (·.envelope)) plan
  | componentBatch {plan : VaultMutationPlan} (witnessPolicies : List WitnessPolicy) (author : PolicySigner)
      (timestampMs : UInt64) (additionalOperations : List PolicyOperationV1)
      (components : List PreparedItemBatchComponent) (downgrade : DirectDowngradeAcknowledgement) (kind : MutationKind)
      (h : VaultMutationPlan.prepareItemComponentBatch codec current witnessPolicies author timestampMs
        additionalOperations components downgrade kind = .ok plan) :
      PlannedWith codec current (components.map (·.envelope)) plan
  | prepared {plan : VaultMutationPlan} (witnessPolicies : List WitnessPolicy) (prepared : PreparedPolicyRevision)
      (envelopes : List ItemEnvelopeV1) (timestampMs : UInt64) (downgrade : DirectDowngradeAcknowledgement)
      (kind : MutationKind) (h : VaultMutationPlan.fromPrepared codec current witnessPolicies prepared envelopes
        timestampMs downgrade kind = .ok plan) : PlannedWith codec current envelopes plan

theorem batch_envelopes {β : Type} {envelope : β → ItemEnvelopeV1}
    {step : VaultMutationPlan.Batch → β → Except MutationErrorKind VaultMutationPlan.Batch} {entries : List β}
    (hstep : ∀ batch entry next, step batch entry = .ok next → next.envelopes = batch.envelopes ++ [envelope entry])
    (h : entries.foldlM step start = .ok out) : out.envelopes = start.envelopes ++ entries.map envelope := by
  induction entries generalizing start with
  | nil =>
    obtain rfl := Except.ok.inj h
    simp
  | cons first rest ih =>
    obtain ⟨next, hnext, hrest⟩ := foldlM_cons_eq_ok.mp h
    rw [ih hrest, hstep start first next hnext, map_cons, append_assoc]
    rfl

section Planners

variable [Crypto] {codec : VaultCodec}

theorem finishItemBatch_fromPrepared
    (h : VaultMutationPlan.finishItemBatch codec current witnessPolicies currentPolicy author timestampMs operations
      envelopes additional downgrade kind = .ok plan) :
    ∃ prepared, VaultMutationPlan.fromPrepared codec current witnessPolicies prepared envelopes timestampMs downgrade kind =
      .ok plan := by
  simp only [VaultMutationPlan.finishItemBatch, bind_eq_ok] at h
  obtain ⟨-, -, prepared, -, hplan⟩ := h
  exact ⟨prepared, hplan⟩

theorem PlannedWith.fromPrepared (h : PlannedWith codec current envelopes plan) :
    ∃ witnessPolicies prepared timestampMs downgrade kind,
      VaultMutationPlan.fromPrepared codec current witnessPolicies prepared envelopes timestampMs downgrade kind =
        .ok plan := by
  cases h with
  | policy witnessPolicies author timestampMs operations downgrade kind h =>
    simp only [VaultMutationPlan.preparePolicy, bind_eq_ok] at h
    obtain ⟨-, -, -, -, prepared, -, hplan⟩ := h
    exact ⟨_, prepared, _, _, _, hplan⟩
  | itemBatch witnessPolicies author timestampMs additional mutations downgrade kind h =>
    simp only [VaultMutationPlan.prepareItemBatch, bind_eq_ok] at h
    obtain ⟨-, -, policy, -, sequence, -, batch, hbatch, hfinish⟩ := h
    have henvelopes : batch.envelopes = mutations.map (·.envelope) := by
      refine batch_envelopes (fun batch mutation next hnext => ?_) hbatch
      simp only [VaultMutationPlan.addItemMutation, eq_ok] at hnext
      obtain ⟨-, -, -, -, rfl⟩ := hnext
      rfl
    rw [henvelopes] at hfinish
    obtain ⟨prepared, hplan⟩ := finishItemBatch_fromPrepared hfinish
    exact ⟨_, prepared, _, _, _, hplan⟩
  | componentBatch witnessPolicies author timestampMs additional components downgrade kind h =>
    simp only [VaultMutationPlan.prepareItemComponentBatch, bind_eq_ok] at h
    obtain ⟨-, -, policy, -, sequence, -, batch, hbatch, hfinish⟩ := h
    have henvelopes : batch.envelopes = components.map (·.envelope) := by
      refine batch_envelopes (fun batch component next hnext => ?_) hbatch
      simp only [VaultMutationPlan.addItemComponent, eq_ok] at hnext
      obtain ⟨-, -, -, -, rfl⟩ := hnext
      rfl
    rw [henvelopes] at hfinish
    obtain ⟨prepared, hplan⟩ := finishItemBatch_fromPrepared hfinish
    exact ⟨_, prepared, _, _, _, hplan⟩
  | prepared witnessPolicies prepared _ timestampMs downgrade kind h => exact ⟨_, prepared, _, _, _, h⟩

end Planners

variable {envelope : ItemEnvelopeV1}

section Placement

theorem mem_placeEnvelope_self (envelope : ItemEnvelopeV1) (items : List ItemEnvelopeV1) :
    envelope ∈ placeEnvelope envelope items := by
  induction items with
  | nil => exact mem_cons_self
  | cons first rest ih =>
    unfold placeEnvelope
    split
    · exact mem_cons_self
    · exact mem_cons_self
    · exact mem_cons_of_mem _ ih

variable {items : List ItemEnvelopeV1}

theorem mem_placeEnvelope_of_ne (hmem : item ∈ items) (hne : envelope.itemId ≠ item.itemId) :
    item ∈ placeEnvelope envelope items := by
  induction items with
  | nil => cases hmem
  | cons first rest ih =>
    unfold placeEnvelope
    split
    · exact mem_cons_of_mem _ hmem
    · rename_i hsame
      rcases mem_cons.mp hmem with rfl | hrest
      · exact absurd (LawfulEqOrd.eq_of_compare hsame) hne
      · exact mem_cons_of_mem _ hrest
    · rcases mem_cons.mp hmem with rfl | hrest
      · exact mem_cons_self
      · exact mem_cons_of_mem _ (ih hrest)

variable {entries : List (ItemId × ItemEnvelopeV1)}

theorem mem_placed_of_ne (hmem : item ∈ items) (hne : ∀ entry ∈ entries, entry.2.itemId ≠ item.itemId) :
    item ∈ entries.foldl (fun items entry => placeEnvelope entry.2 items) items := by
  induction entries generalizing items with
  | nil => exact hmem
  | cons first rest ih =>
    exact ih (mem_placeEnvelope_of_ne hmem (hne first mem_cons_self)) fun entry hentry =>
      hne entry (mem_cons_of_mem _ hentry)

theorem mem_placed (hapart : entries.Pairwise fun a b => a.2.itemId ≠ b.2.itemId) (hentry : entry ∈ entries) :
    entry.2 ∈ entries.foldl (fun items entry => placeEnvelope entry.2 items) items := by
  induction entries generalizing items with
  | nil => cases hentry
  | cons first rest ih =>
    obtain ⟨hfirst, hrest⟩ := pairwise_cons.mp hapart
    rcases mem_cons.mp hentry with rfl | hentry
    · rw [foldl_cons]
      exact mem_placed_of_ne (mem_placeEnvelope_self _ _) fun other hother => (hfirst other hother).symm
    · exact ih hrest hentry

theorem collectReplacement_getElem? {envelopes : List ItemEnvelopeV1}
    (h : envelopes.foldlM collectReplacement start = .ok out) (itemId : ItemId) (envelope : ItemEnvelopeV1) :
    out[itemId]? = some envelope ↔
      start[itemId]? = some envelope ∨ (envelope ∈ envelopes ∧ envelope.itemId = itemId) := by
  induction envelopes generalizing start with
  | nil =>
    obtain rfl := Except.ok.inj h
    simp
  | cons first rest ih =>
    simp only [foldlM_cons_eq_ok, collectReplacement, eq_ok] at h
    obtain ⟨_, ⟨-, hfresh, rfl⟩, hrest⟩ := h
    have hnone : start[first.itemId]? = none := by
      refine ExtTreeMap.getElem?_eq_none fun hmem => ?_
      rw [ExtTreeMap.contains_iff_mem.mpr hmem] at hfresh
      cases hfresh
    rw [ih hrest]
    by_cases hsame : itemId = first.itemId
    · subst hsame
      rw [ExtTreeMap.getElem?_insert_self, hnone]
      simp only [Option.some.injEq, reduceCtorEq, false_or, mem_cons]
      constructor
      · rintro (rfl | ⟨hmem, hid⟩)
        · exact ⟨.inl rfl, rfl⟩
        · exact ⟨.inr hmem, hid⟩
      · rintro ⟨rfl | hmem, hid⟩
        · exact .inl rfl
        · exact .inr ⟨hmem, hid⟩
    · rw [getElem?_insert_ne _ _ hsame]
      simp only [mem_cons]
      constructor
      · rintro (hfound | ⟨hmem, hid⟩)
        · exact .inl hfound
        · exact .inr ⟨.inr hmem, hid⟩
      · rintro (hfound | ⟨rfl | hmem, hid⟩)
        · exact .inl hfound
        · exact absurd hid.symm hsame
        · exact .inr ⟨hmem, hid⟩

end Placement

section Ancestry

variable {a b : SignedItemRevisionV1}

theorem itemRevision_hashPreimage_inj (ha : a.hashPreimage = some preimage) (hb : b.hashPreimage = some preimage) :
    a = b := by
  simp only [SignedItemRevisionV1.hashPreimage, eq_some] at ha hb
  obtain ⟨field, hfield, rfl⟩ := ha
  obtain ⟨other, hother, h⟩ := hb
  obtain ⟨-, h⟩ := jce_append_inj (by decide) (by decide) h
  obtain ⟨hsigned, hsig⟩ := bytesField_append_inj hother hfield h
  obtain ⟨-, h⟩ := jce_append_inj (by decide) (by decide) hsigned
  simp only [code_inj, octets_inj, cons.injEq] at h
  rw [FixedBytes.bytes_inj] at hsig
  cases a
  cases b
  simp_all

variable [Crypto]

-- SHA-256 tells apart the revisions of two envelopes, and their bodies.
structure HashesApart (item later : ItemEnvelopeV1) : Prop where
  revisions : ∀ a ∈ item.revisions, ∀ b ∈ later.revisions, ∀ p q, a.hashPreimage = some p → b.hashPreimage = some q →
    sha256 p = sha256 q → p = q
  bodies : sha256 item.bodyCiphertext.asBytes = sha256 later.bodyCiphertext.asBytes →
    item.bodyCiphertext = later.bodyCiphertext

theorem HashesApart.eq {later : ItemEnvelopeV1} (h : HashesApart item later) (ha : a ∈ item.revisions)
    (hb : b ∈ later.revisions) {hash : Digest32} (hash_a : a.recomputedHash = some hash)
    (hash_b : b.recomputedHash = some hash) : a = b := by
  simp only [SignedItemRevisionV1.recomputedHash, eq_some] at hash_a hash_b
  obtain ⟨p, hp, rfl⟩ := hash_a
  obtain ⟨q, hq, hsame⟩ := hash_b
  obtain rfl := h.revisions a ha b hb p q hp hq hsame.symm
  exact itemRevision_hashPreimage_inj hp hq

structure HistorySound (item : ItemEnvelopeV1) : Prop where
  linked : Linked SignedItemRevisionV1.recomputedHash (·.previousItemRevisionHash) ZERO_DIGEST item.revisions
  numbered : ∀ index revision, item.revisions[index]? = some revision →
    revision.itemRevision = UInt64.ofNat (index + 1)
  short : item.priorRevisions.length ≤ MAX_ITEM_REVISION_PROOFS
  body : sha256 item.bodyCiphertext.asBytes = item.currentRevision.ciphertextDigest

theorem verifyItemAncestry_linked {verificationKey : PrincipalId → Option VerificationPublicKey32}
    (h : verifyItemAncestry envelope verificationKey = .ok u) :
    Linked SignedItemRevisionV1.recomputedHash (·.previousItemRevisionHash) ZERO_DIGEST envelope.revisions ∧
      ∀ index revision, envelope.revisions[index]? = some revision →
        revision.itemRevision = UInt64.ofNat (index + 1) := by
  simp only [verifyItemAncestry, bind_eq_ok] at h
  obtain ⟨last, hscan, -⟩ := h
  have hchecked : ∀ before revision index after,
      verifyItemRevision envelope verificationKey before (revision, index) = .ok after →
      revision.itemRevision = UInt64.ofNat (index + 1) ∧ revision.previousItemRevisionHash = before ∧
        revision.recomputedHash = some after := by
    intro before revision index after hround
    simp only [verifyItemRevision, eq_ok, passed, and_assoc] at hround
    obtain ⟨-, -, -, hnumber, hprev, -, -, -, -, -, -, hhash⟩ := hround
    exact ⟨hnumber, hprev, hhash⟩
  refine ⟨linked_of_scan (fun before revision index after hround => (hchecked _ _ _ _ hround).2) hscan, ?_⟩
  intro index revision hrev
  have hround := foldlM_forall (Q := fun entry : SignedItemRevisionV1 × Nat =>
    entry.1.itemRevision = UInt64.ofNat (entry.2 + 1)) (fun entry before after hround =>
      (hchecked before entry.1 entry.2 after hround).1) hscan
  exact hround (revision, index) (mk_mem_zipIdx_iff_getElem?.mpr hrev)

theorem scanEnvelope_proofs {vault : VaultFileV1} {items : List ItemEnvelopeV1}
    (h : items.foldlM vault.scanEnvelope start = .ok out) :
    start.proofCount ≤ out.proofCount ∧ ∀ item ∈ items, item.priorRevisions.length ≤ out.proofCount := by
  induction items generalizing start with
  | nil =>
    obtain rfl := Except.ok.inj h
    simp
  | cons first rest ih =>
    obtain ⟨next, hnext, hrest⟩ := foldlM_cons_eq_ok.mp h
    simp only [VaultFileV1.scanEnvelope, eq_ok] at hnext
    obtain ⟨_, -, used, -, rfl⟩ := hnext
    obtain ⟨hgrown, hitems⟩ := ih hrest
    refine ⟨Nat.le_trans (Nat.le_add_right _ _) hgrown, forall_mem_cons.mpr ⟨?_, hitems⟩⟩
    exact Nat.le_trans (Nat.le_add_left _ _) hgrown

theorem ValidatedComplete.historySound {policy : PolicyState} (h : ValidatedComplete vault policies policy)
    (hitem : item ∈ vault.items) : HistorySound item := by
  obtain ⟨bound, hbound⟩ := h.bound hitem
  obtain ⟨hlinked, hnumbered⟩ := verifyItemAncestry_linked hbound.ancestry
  have hformat := h.format
  simp only [VaultFileV1.validate, VaultFileV1.validateItems, eq_ok, decide_eq_false_iff_not, Nat.not_lt,
    gt_iff_lt] at hformat
  obtain ⟨-, -, -, -, -, ⟨-, -, scan, hscan, hcount⟩, -⟩ := hformat
  refine ⟨hlinked, hnumbered, Nat.le_trans ((scanEnvelope_proofs hscan).2 item hitem) hcount, ?_⟩
  refine foldlM_forall (Q := fun item : ItemEnvelopeV1 =>
    sha256 item.bodyCiphertext.asBytes = item.currentRevision.ciphertextDigest) (fun item before after hround => ?_)
    hscan item hitem
  simp only [VaultFileV1.scanEnvelope, VaultFileV1.validateItem, eq_ok, passed] at hround
  obtain ⟨-, -, used, ⟨-, -, -, -, -, -, -, -, -, -, -, ⟨-, hbody⟩, -⟩, -⟩ := hround
  exact hbody

-- The revision that was current before the plan is still among the signed ones, by its hash; and an envelope that adds
-- none has no lower descriptor.
structure KeepsCurrent (item later : ItemEnvelopeV1) : Prop where
  current : ∃ revision ∈ later.revisions, revision.recomputedHash = item.currentRevision.recomputedHash
  descriptor : later.revisions.length ≤ item.revisions.length → DescriptorNotLower item later

-- One hash stands for a whole history: the chain is followed back from the revision that carries it.
theorem historyKept_iff (hitem : HistorySound item) (hlater : HistorySound later) (hapart : HashesApart item later) :
    HistoryKept item later ↔ KeepsCurrent item later := by
  have hcur : item.currentRevision ∈ item.revisions := by simp [ItemEnvelopeV1.revisions]
  constructor
  · intro hkept
    exact ⟨⟨item.currentRevision, hkept.history.subset hcur, rfl⟩, fun hshort => (hkept.same hshort).2.2⟩
  · rintro ⟨⟨found, hfound, hhash⟩, hdesc⟩
    obtain ⟨-, -, hash, hcoded⟩ := linked_concat.mp hitem.linked
    obtain rfl : item.currentRevision = found := hapart.eq hcur hfound hcoded (hhash.trans hcoded)
    obtain ⟨before, after, hsplit⟩ := append_of_mem hfound
    have hsplit' : later.revisions = (before ++ [item.currentRevision]) ++ after := by simpa using hsplit
    -- The revision has one number, and with it one place.
    have hlen : item.priorRevisions.length = before.length := by
      have hplace := hitem.numbered item.priorRevisions.length item.currentRevision (by simp [ItemEnvelopeV1.revisions])
      have hplace' := hlater.numbered before.length item.currentRevision (by simp [hsplit])
      have hbound : before.length ≤ MAX_ITEM_REVISION_PROOFS := by
        have hlong := congrArg length hsplit
        have hshort := hlater.short
        simp only [ItemEnvelopeV1.revisions, length_append, length_cons, length_nil] at hlong
        omega
      have hnumbers := congrArg UInt64.toNat (hplace.symm.trans hplace')
      have hshort := hitem.short
      simp only [UInt64.toNat_ofNat', MAX_ITEM_REVISION_PROOFS] at hnumbers hbound hshort
      omega
    have hprior : item.priorRevisions = before := by
      have hlinked : Linked SignedItemRevisionV1.recomputedHash (·.previousItemRevisionHash) ZERO_DIGEST
          (before ++ [item.currentRevision]) := (hsplit' ▸ hlater.linked).left
      refine hitem.linked.eq_of_last hlinked hlen fun a ha b hb hsame => ?_
      obtain ⟨hash, hcoded⟩ := hitem.linked.coded (mem_append_left _ ha)
      refine hapart.eq (mem_append_left _ ha) ?_ hcoded (hsame ▸ hcoded)
      rw [hsplit]
      exact mem_append_left _ hb
    have hhistory : later.revisions = item.revisions ++ after := by
      rw [hsplit', ItemEnvelopeV1.revisions, hprior]
    refine ⟨⟨after, hhistory.symm⟩, fun hshort => ?_⟩
    obtain rfl : after = [] := by
      rw [hhistory, length_append] at hshort
      exact eq_nil_of_length_eq_zero (by omega)
    have hsame : later.currentRevision = item.currentRevision := by
      rw [append_nil] at hhistory
      exact (append_inj' hhistory rfl).2 |> singleton_inj.mp
    refine ⟨hsame, (hapart.bodies ?_).symm, hdesc hshort⟩
    rw [hitem.body, hlater.body, hsame]

end Ancestry

section Descent

theorem compareArtifacts_incoming {candidate : VaultFileV1} :
    compareArtifacts base candidate = .incomingStrictDescendant ↔ isStrictDescendant base candidate = true := by
  unfold compareArtifacts
  by_cases hsame : base = candidate
  · subst hsame
    simp [isStrictDescendant_irrefl]
  · rw [if_neg hsame]
    cases hdescends : isStrictDescendant base candidate with
    | true => simp
    | false => cases isStrictDescendant candidate base <;> simp

variable [Crypto] {codec : VaultCodec} {plan : VaultMutationPlan}

-- The target of a plan: the artifact with one more revision, and with the envelopes that the plan was given.
structure Extended (current : VaultFileV1) (envelopes : List ItemEnvelopeV1) (target : VaultFileV1) : Prop where
  source : ∃ policies policy, ValidatedComplete current policies policy
  valid : ∃ policies policy, ValidatedComplete target policies policy
  artifact : ∃ revision replacements, target = extendedArtifact current revision replacements ∧
    envelopes.foldlM collectReplacement ∅ = .ok replacements

theorem PlannedWith.extended (h : PlannedWith codec current envelopes plan) : Extended current envelopes plan.target := by
  obtain ⟨witnessPolicies, prepared, timestampMs, downgrade, kind, h⟩ := h.fromPrepared
  have hsound := fromPrepared_sound h
  obtain ⟨policy, hsource, -⟩ := hsound.source
  refine ⟨⟨_, policy, hsource⟩, ⟨_, _, hsound.target⟩, ?_⟩
  simp only [VaultMutationPlan.fromPrepared, bind_eq_ok] at h
  obtain ⟨currentPolicy, -, bytes, -, -, -, replacements, hreplacements, targetPolicy, -, -, -, -, -, h⟩ := h
  refine ⟨prepared.revision, replacements, ?_, hreplacements⟩
  split at h <;> simp only [eq_ok] at h
  · obtain ⟨-, -, flags, -, -, -, targetBytes, -, -, -, rfl⟩ := h
    rfl
  · obtain ⟨flags, -, -, -, targetBytes, -, -, -, rfl⟩ := h
    rfl

-- A given envelope stands in the target; an item without one stays as it was, or is deleted.
theorem Extended.items (h : Extended current envelopes target) :
    (∀ envelope ∈ envelopes, envelope ∈ target.items) ∧
      ∀ item ∈ current.items, (∀ envelope ∈ envelopes, envelope.itemId ≠ item.itemId) →
        item ∈ target.items ∨ Deleted current target item.itemId := by
  obtain ⟨policies, policy, hvalid⟩ := h.valid
  obtain ⟨revision, replacements, rfl, hcollected⟩ := h.artifact
  have hfound : ∀ entry ∈ replacements.toList, entry.2 ∈ envelopes ∧ entry.2.itemId = entry.1 := by
    intro entry hentry
    have hlookup := ExtTreeMap.mem_toList_iff_getElem?_eq_some.mp hentry
    simpa using (collectReplacement_getElem? hcollected entry.1 entry.2).mp hlookup
  have hapart : replacements.toList.Pairwise fun a b => a.2.itemId ≠ b.2.itemId := by
    refine (ExtTreeMap.distinct_keys_toList (t := replacements)).imp_of_mem fun ha hb hdiff heq => ?_
    rw [(hfound _ ha).2, (hfound _ hb).2] at heq
    exact hdiff (heq ▸ ReflCmp.compare_self)
  refine ⟨fun envelope henvelope => ?_, fun item hitem hnone => ?_⟩
  · have hlookup := (collectReplacement_getElem? hcollected envelope.itemId envelope).mpr (.inr ⟨henvelope, rfl⟩)
    exact mem_placed hapart (ExtTreeMap.mem_toList_iff_getElem?_eq_some.mpr hlookup)
  · by_cases hdeleted : item.itemId ∈ deletedItemIds revision.operations
    · right
      simp only [deletedItemIds, ExtTreeSet.mem_ofList, contains_iff_mem, mem_filterMap] at hdeleted
      obtain ⟨operation, hop, hdeletes⟩ := hdeleted
      cases operation <;> simp only [deletedItemId, Option.some.injEq, reduceCtorEq] at hdeletes
      rename_i itemId descriptorDigest revisionHash sequence
      subst hdeletes
      have hlast : revision ∈ (extendedArtifact current revision replacements).policy.revisions :=
        mem_append_right _ mem_cons_self
      refine ⟨(hvalid.deleted hlast hop).2, revision, ?_, _, _, _, hop⟩
      change revision ∈ (current.policy.revisions ++ [revision]).drop current.policy.revisions.length
      rw [drop_left]
      exact mem_cons_self
    · left
      have hkept : (deletedItemIds revision.operations).contains item.itemId = false :=
        Bool.eq_false_iff.mpr fun hcontained => hdeleted (ExtTreeSet.contains_iff_mem.mp hcontained)
      exact mem_placed_of_ne (mem_filter.mpr ⟨hitem, by rw [hkept]; rfl⟩) fun entry hentry =>
        hnone _ (hfound entry hentry).1

theorem Extended.descends_iff (h : Extended current envelopes target) :
    Descends current target ↔
      ∀ item ∈ current.items, ∀ later ∈ envelopes, later.itemId = item.itemId → HistoryKept item later := by
  obtain ⟨hplaced, hothers⟩ := h.items
  obtain ⟨policies, policy, hvalid⟩ := h.valid
  constructor
  · intro hdescends item hitem later hlater hid
    rcases hdescends.items item hitem with ⟨found, hfound, hfoundId, hkept⟩ | hdeleted
    · rwa [inj_on_of_nodup_map hvalid.nodup (hplaced later hlater) hfound (hid.trans hfoundId.symm)]
    · exact absurd hid (hdeleted.unlisted later (hplaced later hlater))
  · intro hkept
    obtain ⟨revision, replacements, rfl, -⟩ := h.artifact
    refine ⟨rfl, rfl, rfl, rfl, ?_, ⟨[revision], rfl⟩, fun item hitem => ?_⟩
    · change _ < (current.policy.revisions ++ [revision]).length
      simp
    · by_cases hgiven : ∃ later ∈ envelopes, later.itemId = item.itemId
      · obtain ⟨later, hlater, hid⟩ := hgiven
        exact .inl ⟨later, hplaced later hlater, hid, hkept item hitem later hlater hid⟩
      · refine (hothers item hitem fun later hlater hid => hgiven ⟨later, hlater, hid⟩).imp_left fun hstays => ?_
        exact ⟨item, hstays, rfl, prefix_refl _, fun _ => ⟨rfl, rfl, UInt64.le_refl _, UInt64.le_refl _⟩⟩

-- What a planner returns descends from the artifact exactly when every envelope that it was given for an item of the
-- artifact still has the current revision of the item in its history.
theorem plan_descends_iff (codec : VaultCodec) (current : VaultFileV1) (envelopes : List ItemEnvelopeV1)
    (plan : VaultMutationPlan) (hplan : PlannedWith codec current envelopes plan)
    (hapart : ∀ item ∈ current.items, ∀ later ∈ envelopes, later.itemId = item.itemId → HashesApart item later) :
    compareArtifacts current plan.target = .incomingStrictDescendant ↔
      ∀ item ∈ current.items, ∀ later ∈ envelopes, later.itemId = item.itemId → KeepsCurrent item later := by
  have hextended := hplan.extended
  obtain ⟨sourcePolicies, sourcePolicy, hsource⟩ := hextended.source
  obtain ⟨policies, policy, hvalid⟩ := hextended.valid
  rw [compareArtifacts_incoming, isStrictDescendant_iff hvalid.nodup, hextended.descends_iff]
  refine forall₂_congr fun item hitem => forall₂_congr fun later hlater => forall_congr' fun hid => ?_
  exact historyKept_iff (hsource.historySound hitem) (hvalid.historySound (hextended.items.1 later hlater))
    (hapart item hitem later hlater hid)

end Descent

end Jury.Mutation

namespace Jury.Mutation.Sample

open Lib Protocol Vault Protocol.Sample Policy Policy.Sample LocalState Access.Sample

def plainCodec : VaultCodec where
  encode vault := octets [UInt8.ofNat vault.policy.revisions.length]
  decode _ := .error .invalidJson

def writtenAgain (itemRevision : UInt64) (previousItemRevisionHash : Digest32) : SignedItemRevisionV1 :=
  let unsigned : SignedItemRevisionV1 := { body with
    itemRevision
    previousItemRevisionHash
    keyEpoch := 2
    policySequence := 2
    timestampMs := 1002
    revisionSealId := identifier .revisionSeal 41
    nonce := FixedBytes.replicate 12 41
    signature := NO_SIGNATURE }
  { unsigned with signature := sign (verificationKey 1) unsigned.signaturePreimage }

def envelopeOf (priorRevisions : List SignedItemRevisionV1) (currentRevision : SignedItemRevisionV1) : ItemEnvelopeV1 where
  itemId
  descriptor := { metadata 2 2 14 with ciphertextDigest := sha256 descriptorCiphertext.bytes }
  descriptorCiphertext
  priorRevisions
  currentRevision
  bodyCiphertext

def grown : ItemEnvelopeV1 := envelopeOf [body] (writtenAgain 2 (body.recomputedHash.getD ZERO_DIGEST))

def restarted : ItemEnvelopeV1 := envelopeOf [] (writtenAgain 1 ZERO_DIGEST)

def mutationWith (envelope : ItemEnvelopeV1) : Except PolicyErrorKind PreparedItemMutation := do
  let policy ← replayPolicyWithWitnessPolicies createdJournal []
  let prepared ← prepareWithSigner policy (signer 1) 1002 [
    .itemReaderSetChange itemId 1 2 [owner] [owner] envelope.descriptor
      (envelope.currentRevision.recomputedHash.getD ZERO_DIGEST),
    .itemSlotsReplace itemId 2
      [directSlot itemId 2 2 .descriptor .owner 1 14, directSlot itemId 2 2 .body .owner 1 41] none]
  return { policy := prepared, envelope }

def batchWith (envelope : ItemEnvelopeV1) : Except MutationErrorKind VaultMutationPlan := do
  let mutation ← (mutationWith envelope).mapError mapPolicyError
  VaultMutationPlan.prepareItemBatch plainCodec createdVault [] (signer 1) 1002 [] [mutation] .absent .item

theorem batchWith_planned (h : batchWith envelope = .ok plan) :
    PlannedWith plainCodec createdVault [envelope] plan := by
  simp only [batchWith, eq_ok] at h
  obtain ⟨mutation, hmutation, hplan⟩ := h
  have henvelope : mutation.envelope = envelope := by
    simp only [mutationWith, eq_ok] at hmutation
    obtain ⟨policy, -, prepared, -, rfl⟩ := hmutation
    rfl
  exact henvelope ▸ .itemBatch [] (signer 1) 1002 [] [mutation] .absent .item hplan

theorem hashes_apart_grown : HashesApart (envelopeOf [] body) grown := by
  have hdiff : body.recomputedHash ≠ grown.currentRevision.recomputedHash := by decide +kernel
  refine ⟨fun a ha b hb p q hp hq hsame => ?_, fun _ => rfl⟩
  obtain rfl : a = body := List.mem_singleton.mp ha
  rcases List.mem_cons.mp hb with rfl | hb
  · exact some_unique hp hq
  · obtain rfl := List.mem_singleton.mp hb
    refine absurd ?_ hdiff
    simp only [SignedItemRevisionV1.recomputedHash, hp, hq, Option.bind_eq_bind, Option.bind_some, Option.pure_def, hsame]

theorem plan_descends_iff_grown :
    ∃ plan, batchWith grown = .ok plan ∧ compareArtifacts createdVault plan.target = .incomingStrictDescendant := by
  obtain ⟨plan, hplan⟩ := exists_eq_ok_of_isOk (x := batchWith grown) (by decide +kernel)
  refine ⟨plan, hplan, (plan_descends_iff plainCodec createdVault [grown] plan (batchWith_planned hplan) ?_).mpr ?_⟩
  · intro item hitem later hlater _
    obtain rfl := List.mem_singleton.mp hitem
    obtain rfl := List.mem_singleton.mp hlater
    exact ⟨hashes_apart_grown.revisions, hashes_apart_grown.bodies⟩
  · intro item hitem later hlater _
    obtain rfl := List.mem_singleton.mp hitem
    obtain rfl := List.mem_singleton.mp hlater
    exact ⟨⟨body, List.mem_cons_self, rfl⟩, fun hshort => absurd hshort (by decide)⟩

-- A batch that starts the history of an item anew is planned, and its peers cannot import it.
theorem restarted_history_divergent :
    ∃ plan, batchWith restarted = .ok plan ∧ PlannedWith plainCodec createdVault [restarted] plan ∧
      plan.target.items = [restarted] ∧ body ∉ restarted.revisions ∧
      compareArtifacts createdVault plan.target = .divergent := by
  obtain ⟨plan, hplan, hrun⟩ := returns_iff.mp
    (by decide +kernel : Returns (batchWith restarted) (fun plan =>
      decide (plan.target.items = [restarted]) && decide (body ∉ restarted.revisions)
        && decide (compareArtifacts createdVault plan.target = .divergent)) = true)
  simp only [holds] at hrun
  exact ⟨plan, hplan, batchWith_planned hplan, hrun.1.1, hrun.1.2, hrun.2⟩

end Jury.Mutation.Sample
