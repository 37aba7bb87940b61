import Jury.Mutation.Artifact
import Jury.Policy.Replay.Active
import Jury.Policy.Replay.Table

-- Direct access to one part of an item's content: what a principal asks for, what is checked before its slot
-- is opened, and when every principal that the policy sends to a direct slot gets through.
namespace Jury.Access

open Lib Protocol Vault Policy LocalState Mutation List

inductive AccessProviderErrorKind where
  | invalidRequest
  | invalidAncestry
  | wrongPrincipal
  | unauthorized
  | stalePolicy
  | invalidSlot
  | directSlotUnavailable
  | entropyUnavailable
  | cancelled
  | providerFailure
  | consumerPanicked
deriving DecidableEq

structure RevisionAccessTarget where
  suite : UInt16
  vaultId : VaultId
  itemId : ItemId
  keyEpoch : UInt64
  contentRole : ContentRole
  revision : UInt64
  revisionSealId : RevisionSealId
  policySequence : UInt64
  policyRevisionHash : Digest32
  principalId : PrincipalId
  accessRole : AccessRole
  itemAccessMode : ItemAccessMode
deriving DecidableEq

structure RevisionAccessRequest where
  policy : PolicyState
  envelope : ItemEnvelopeV1
  target : RevisionAccessTarget
  capability : Capability

def contentOf (envelope : ItemEnvelopeV1) : ContentRole → UInt64 × RevisionSealId
  | .descriptor => (envelope.descriptor.revision, envelope.descriptor.revisionSealId)
  | .body => (envelope.currentRevision.itemRevision, envelope.currentRevision.revisionSealId)

def RevisionAccessTarget.of (policy : PolicyState) (envelope : ItemEnvelopeV1) (item : ItemPolicyState)
    (principalId : PrincipalId) (contentRole : ContentRole) (accessRole : AccessRole) (itemAccessMode : ItemAccessMode) :
    RevisionAccessTarget where
  suite := policy.suite
  vaultId := policy.vaultId
  itemId := envelope.itemId
  keyEpoch := item.keyEpoch
  contentRole
  revision := (contentOf envelope contentRole).1
  revisionSealId := (contentOf envelope contentRole).2
  policySequence := policy.sequence
  policyRevisionHash := policy.terminalRevisionHash
  principalId
  accessRole
  itemAccessMode

def RevisionAccessTarget.current (policy : PolicyState) (envelope : ItemEnvelopeV1) (principalId : PrincipalId)
    (contentRole : ContentRole) (capability : Capability) : Except AccessProviderErrorKind RevisionAccessTarget := do
  let item ← orReject policy.items[envelope.itemId]? .invalidRequest
  let explanation := policy.access envelope.itemId principalId capability
  rejectIf (!explanation.allowed) .unauthorized
  let accessRole ← orReject explanation.effectiveRole .unauthorized
  let itemAccessMode ← orReject item.accessMode .invalidRequest
  return .of policy envelope item principalId contentRole accessRole itemAccessMode

-- The slot records the role its revision secret was issued for; the policy alone authorizes, so that any role
-- will do here.
def isIssuedRole : AccessRole → Bool
  | .reader | .writer | .owner => true

def slotDiffers (target : RevisionAccessTarget) (slot : DirectSlotV1) : Bool :=
  slot.vaultId != target.vaultId
    || slot.itemId != target.itemId
    || slot.keyEpoch != target.keyEpoch
    || slot.revision != target.revision
    || slot.revisionSealId != target.revisionSealId
    || !isIssuedRole slot.accessRole
    || slot.itemAccessMode != target.itemAccessMode
    || slot.policySequence == 0
    || decide (slot.policySequence > target.policySequence)
    || slot.slotSchema != 1
    || slot.slotAlgorithm != 1
    || slot.suite != target.suite
    || slot.kem != 0x647a
    || slot.kdf != 1
    || (VaultSuite.fromId slot.suite).map (·.hpkeAead) != some slot.aead

def selectSlot (target : RevisionAccessTarget) (slots : List DirectSlotV1) :
    Except AccessProviderErrorKind DirectSlotV1 :=
  match slotsFor slots target.principalId target.contentRole with
  | [] => .error .directSlotUnavailable
  | slot :: others => do
    rejectIf (!others.isEmpty || slotDiffers target slot) .invalidSlot
    return slot

section Preflight

variable [Crypto]

def preflightDirect (principalId : PrincipalId) (request : RevisionAccessRequest) :
    Except AccessProviderErrorKind DirectSlotV1 := do
  let target := request.target
  let policy := request.policy
  let envelope := request.envelope
  rejectIf
    (target.suite != policy.suite
      || target.vaultId != policy.vaultId
      || target.itemId != envelope.itemId
      || target.principalId != principalId)
    (if target.principalId != principalId then .wrongPrincipal else .invalidRequest)
  rejectIf
    (target.policySequence != policy.sequence || target.policyRevisionHash != policy.terminalRevisionHash)
    .stalePolicy
  (verifyItemAncestry envelope policy.verificationKey).mapError fun _ => AccessProviderErrorKind.invalidAncestry
  let item ← orReject policy.items[target.itemId]? .invalidRequest
  let currentHash ← orReject envelope.currentRevision.recomputedHash .invalidAncestry
  rejectIf
    (item.keyEpoch != target.keyEpoch
      || item.descriptor != envelope.descriptor
      || item.currentItemRevisionHash != currentHash
      || item.accessMode != some target.itemAccessMode)
    .invalidAncestry
  let explanation := policy.access target.itemId target.principalId request.capability
  rejectIf
    (!explanation.allowed
      || explanation.effectiveRole != some target.accessRole
      || explanation.reason != .allowed)
    .unauthorized
  rejectIf (!(explanation.path == .direct || explanation.path == .mixed)) .directSlotUnavailable
  rejectIf ((target.revision, target.revisionSealId) != contentOf envelope target.contentRole) .invalidRequest
  selectSlot target item.directSlots

end Preflight

def epochOf (envelope : ItemEnvelopeV1) : ContentRole → UInt64
  | .descriptor => envelope.descriptor.keyEpoch
  | .body => envelope.currentRevision.keyEpoch

-- Every slot of an item was sealed for the content that the envelope currently has.
structure SlotsCurrent (envelope : ItemEnvelopeV1) (item : ItemPolicyState) : Prop where
  direct : ∀ slot ∈ item.directSlots, (slot.revision, slot.revisionSealId) = contentOf envelope slot.contentRole ∧
    slot.keyEpoch = epochOf envelope slot.contentRole
  witnessed : ∀ slot ∈ item.witnessedSlots, (slot.revision, slot.revisionSealId) = contentOf envelope slot.contentRole ∧
    slot.keyEpoch = epochOf envelope slot.contentRole

theorem access_direct {policy : PolicyState} {itemId : ItemId}
    (hallowed : (policy.access itemId principalId capability).allowed = true)
    (hpath : (policy.access itemId principalId capability).path = .direct ∨
      (policy.access itemId principalId capability).path = .mixed) :
    ∃ item role, policy.items[itemId]? = some item ∧
      (policy.access itemId principalId capability).effectiveRole = some role ∧
      (policy.access itemId principalId capability).reason = .allowed ∧
      ∃ slot ∈ item.directSlots, slot.recipientPrincipalId = principalId := by
  unfold PolicyState.access at hallowed hpath ⊢
  cases hitem : policy.items[itemId]? with
  | none => simp [hitem, denied] at hallowed
  | some item =>
    simp only [hitem] at hallowed hpath ⊢
    split at hallowed
    · simp [denied] at hallowed
    next hknown =>
      rw [if_neg hknown] at hpath ⊢
      cases hrole : policy.effectiveRole itemId principalId with
      | none => simp [hrole, denied] at hallowed
      | some role =>
        simp only [hrole] at hallowed hpath ⊢
        split at hallowed
        · simp [denied] at hallowed
        next hpermits =>
          rw [if_neg hpermits] at hpath ⊢
          cases hdir : item.directSlots.any fun slot => slot.recipientPrincipalId == principalId with
          | false => cases hwit : item.witnessedState.isSome <;> simp [hdir, hwit, denied] at hpath
          | true =>
            obtain ⟨slot, hslot, hrecip⟩ := any_eq_true.mp hdir
            refine ⟨item, role, rfl, ?_, ?_, slot, hslot, beq_iff_eq.mp hrecip⟩
            · cases item.witnessedState.isSome <;> simp
            · cases item.witnessedState.isSome <;> simp

section Vault

variable [Crypto]

def bodiesOf (vault : VaultFileV1) (itemId : ItemId) (hash : Digest32) : List (UInt64 × RevisionSealId) :=
  (vault.items.filter fun envelope => envelope.itemId == itemId).flatMap fun envelope =>
    (envelope.revisions.filter fun revision => revision.recomputedHash == some hash).map fun revision =>
      (revision.itemRevision, revision.revisionSealId)

variable {vault : VaultFileV1} {witnessPolicies : List WitnessPolicy} {policy : PolicyState} {itemId : ItemId}
  {item : ItemPolicyState} {envelope : ItemEnvelopeV1}

theorem mem_bodiesOf (hmem : envelope ∈ vault.items) (hbound : EnvelopeBound policy envelope item) :
    contentOf envelope .body ∈ bodiesOf vault envelope.itemId item.currentItemRevisionHash := by
  refine mem_flatMap.mpr ⟨envelope, mem_filter.mpr ⟨hmem, beq_self_eq_true _⟩, ?_⟩
  refine mem_map.mpr ⟨envelope.currentRevision, mem_filter.mpr ⟨?_, ?_⟩, rfl⟩
  · simp [ItemEnvelopeV1.revisions]
  · simp [hbound.current]

section Complete

variable (h : ValidatedComplete vault witnessPolicies policy)

include h

theorem table_checked (hitem : policy.items[itemId]? = some item) :
    (∃ sequence, validateAccessPaths item.directSlots item.witnessedState vault.header.vaultId
      vault.header.genesisFingerprint itemId item.keyEpoch sequence = .ok ()) ∧
      ∀ slot ∈ item.directSlots, slot.suite = vault.header.suite := by
  have hformat := VaultFileV1.validate_eq_ok h.format
  obtain ⟨catalog, -, hreplay⟩ := replayPolicy_eq_ok.mp h.replayed
  obtain ⟨revision, hrev, operation, hop, hwritten⟩ := replay_written hreplay itemId item hitem
  have hvalid := hformat.operations revision hrev operation hop
  have hsuites := hformat.slotSuites revision hrev operation hop
  cases operation
  case itemCreate =>
    obtain ⟨rfl, rfl, rfl, rfl⟩ : _ ∧ _ ∧ _ ∧ _ := by simpa [writtenTable] using hwritten
    simp only [validateOperation, bind_eq_ok] at hvalid
    obtain ⟨-, -, -, -, hpaths⟩ := hvalid
    exact ⟨⟨_, hpaths⟩, hsuites _ _ rfl⟩
  case itemSlotsReplace =>
    obtain ⟨rfl, rfl, rfl, rfl⟩ : _ ∧ _ ∧ _ ∧ _ := by simpa [writtenTable] using hwritten
    simp only [validateOperation, bind_eq_ok] at hvalid
    obtain ⟨-, -, hpaths⟩ := hvalid
    exact ⟨⟨_, hpaths⟩, hsuites _ _ rfl⟩
  all_goals cases hwritten

-- What the check at the end of the last revision says of a direct slot, in the words of the preflight.
theorem slot_issued (hitem : policy.items[itemId]? = some item) (hslot : slot ∈ item.directSlots) :
    item.accessMode = some slot.itemAccessMode ∧ slot.policySequence ≠ 0 ∧ slot.policySequence ≤ policy.sequence := by
  obtain ⟨catalog, -, hreplay⟩ := replayPolicy_eq_ok.mp h.replayed
  rcases replay_checked hreplay with hnone | ⟨checked, hcomp, -, terminal, hashes, rfl⟩
  · rw [hnone] at hitem
    simp at hitem
  · obtain ⟨mode, hmode, hdir, -⟩ := (item_of_complete hcomp hitem).slots
    have hchecked := hdir slot hslot
    simp only [validateItemDirectSlot, eq_ok, passed, beq_eq_false_iff_ne, UInt64.not_lt] at hchecked
    obtain ⟨-, -, ⟨⟨⟨-, hslotMode⟩, -⟩, hpositive⟩, hseq⟩ := hchecked
    exact ⟨hslotMode ▸ hmode, hpositive, hseq⟩

theorem slotsCurrent_of_matches (hmem : envelope ∈ vault.items) (hbound : EnvelopeBound policy envelope item)
    (hepoch : item.descriptor.keyEpoch = item.keyEpoch)
    (hmatches : itemMatches (bodiesOf vault) envelope.itemId item = true) : SlotsCurrent envelope item := by
  obtain ⟨catalog, -, hreplay⟩ := replayPolicy_eq_ok.mp h.replayed
  obtain ⟨hdirectEpoch, hwitnessedEpoch⟩ := replay_slotsCarryEpoch hreplay envelope.itemId item hbound.found
  have hepochs : ∀ role, epochOf envelope role = item.keyEpoch := by
    have hdesc : envelope.descriptor.keyEpoch = item.keyEpoch := by rw [hbound.descriptor, hepoch]
    intro role
    cases role with
    | descriptor => exact hdesc
    | body => exact ((VaultFileV1.validate_eq_ok h.format).epochs envelope hmem).symm.trans hdesc
  have hcontent : ∀ content ∈ sealedContent item.directSlots item.witnessedState,
      content.2 = contentOf envelope content.1 := by
    rintro ⟨role, sealed⟩ hsealed
    have hone := all_eq_true.mp hmatches _ hsealed
    cases role with
    | descriptor =>
      rw [contentOf, hbound.descriptor]
      exact beq_iff_eq.mp hone
    | body => exact beq_iff_eq.mp (all_eq_true.mp hone _ (mem_bodiesOf hmem hbound))
  constructor
  · intro slot hslot
    refine ⟨hcontent (slot.contentRole, slot.revision, slot.revisionSealId) ?_, ?_⟩
    · exact mem_append_left _ (mem_map.mpr ⟨slot, hslot, rfl⟩)
    · rw [hepochs, hdirectEpoch slot hslot]
  · intro slot hslot
    refine ⟨hcontent (slot.contentRole, slot.revision, slot.revisionSealId) ?_, ?_⟩
    · exact mem_append_right _ (mem_map.mpr ⟨slot, hslot, rfl⟩)
    · rw [hepochs, hwitnessedEpoch slot hslot]

theorem policy_scope : policy.vaultId = vault.header.vaultId ∧ policy.suite = vault.header.suite := by
  have hformat := VaultFileV1.validate_eq_ok h.format
  obtain ⟨catalog, -, hreplay⟩ := replayPolicy_eq_ok.mp h.replayed
  obtain ⟨candidate, hcand⟩ := h.candidate
  simp only [CheckpointCandidate.fromValidated, eq_ok, passed] at hcand
  obtain ⟨-, -, -, ⟨⟨⟨hvault, -⟩, -⟩, -⟩, -⟩ := hcand
  exact ⟨hvault.symm.trans hformat.vaultId.symm, (replay_suite hreplay).trans hformat.suite⟩

theorem selectSlot_current (hbound : EnvelopeBound policy envelope item) (hcur : SlotsCurrent envelope item)
    (contentRole : ContentRole) (accessRole : AccessRole) (hmode : item.accessMode = some mode)
    (hslot : ∃ slot ∈ item.directSlots, slot.recipientPrincipalId = principalId) :
    ∃ slot, selectSlot (.of policy envelope item principalId contentRole accessRole mode) item.directSlots = .ok slot := by
  obtain ⟨⟨sequence, hpaths⟩, hsuites⟩ := table_checked h hbound.found
  simp only [validateAccessPaths, bind_eq_ok] at hpaths
  obtain ⟨tableMode, -, _, hdir, -⟩ := hpaths
  obtain ⟨hsealed, hone⟩ := validateDirectSlots_scanned hdir
  obtain ⟨recipient, hrecip, rfl⟩ := hslot
  obtain ⟨slot, hfound⟩ := length_eq_one_iff.mp (hone recipient hrecip contentRole)
  have hmem : slot ∈ slotsFor item.directSlots recipient.recipientPrincipalId contentRole := by simp [hfound]
  simp only [slotsFor, mem_filter, holds] at hmem
  obtain ⟨hmem, -, hrole⟩ := hmem
  have hchecked := hsealed slot hmem
  obtain ⟨hvault, hsuite⟩ := policy_scope h
  obtain ⟨hslotMode, hpositive, hissued⟩ := slot_issued h hbound.found hmem
  have hmodes : slot.itemAccessMode = mode := some_unique hslotMode hmode
  have hcontent := (hcur.direct slot hmem).1
  have hissuedRole : isIssuedRole slot.accessRole = true := by cases slot.accessRole <;> rfl
  have hdiff : slotDiffers (.of policy envelope item recipient.recipientPrincipalId contentRole accessRole mode) slot =
      false := by
    simp only [slotDiffers, RevisionAccessTarget.of, passed, beq_eq_false_iff_ne, and_assoc]
    refine ⟨?_, hchecked.item, hchecked.epoch, ?_, ?_, hissuedRole, hmodes, hpositive,
      decide_eq_false (UInt64.not_lt.mpr hissued), hchecked.schema, hchecked.algorithm, ?_, hchecked.kem, hchecked.kdf, hchecked.aead⟩
    · rw [hvault, hchecked.vault]
    · rw [← hrole, ← hcontent]
    · rw [← hrole, ← hcontent]
    · rw [hsuite, hsuites slot hmem]
  refine ⟨slot, ?_⟩
  simp only [selectSlot, RevisionAccessTarget.of, hfound]
  rw [RevisionAccessTarget.of] at hdiff
  simp [hdiff]

theorem preflightDirect_current (hbound : EnvelopeBound policy envelope item) (hcur : SlotsCurrent envelope item)
    (hallowed : (policy.access envelope.itemId principalId capability).allowed = true)
    (hpath : (policy.access envelope.itemId principalId capability).path = .direct ∨
      (policy.access envelope.itemId principalId capability).path = .mixed) (contentRole : ContentRole) :
    ∃ target slot, RevisionAccessTarget.current policy envelope principalId contentRole capability = .ok target ∧
      preflightDirect principalId { policy, envelope, target, capability } = .ok slot := by
  obtain ⟨found, role, hfound, hrole, hreason, slot, hslot, hrecip⟩ := access_direct hallowed hpath
  obtain rfl : item = found := some_unique hbound.found hfound
  have hmode := (slot_issued h hbound.found hslot).1
  obtain ⟨selected, hselected⟩ := selectSlot_current h hbound hcur contentRole role hmode ⟨slot, hslot, hrecip⟩
  refine ⟨.of policy envelope item principalId contentRole role slot.itemAccessMode, selected, ?_, ?_⟩
  · simp only [RevisionAccessTarget.current, eq_ok]
    exact ⟨item, hbound.found, (), by simp [hallowed], role, hrole, _, hmode, rfl⟩
  · simp only [preflightDirect, eq_ok]
    refine ⟨(), ?_, (), ?_, (), hbound.ancestry, item, hbound.found, _, hbound.current, (), ?_, (), ?_, (), ?_, (), ?_,
      hselected⟩
    · simp [RevisionAccessTarget.of]
    · simp [RevisionAccessTarget.of]
    · simp [RevisionAccessTarget.of, hbound.descriptor, hmode]
    · simp [RevisionAccessTarget.of, hallowed, hrole, hreason]
    · rcases hpath with hpath | hpath <;> simp [RevisionAccessTarget.of, hpath]
    · simp [RevisionAccessTarget.of]

end Complete

-- Every item of an accepted vault has an envelope, its slots are those of the content in it, and a principal
-- that the policy sends to a direct slot gets through to the descriptor and to the body.
structure Openable (vault : VaultFileV1) (policy : PolicyState) : Prop where
  covered : ∀ itemId, itemId ∈ policy.items → ∃ envelope ∈ vault.items, envelope.itemId = itemId
  current : ∀ envelope ∈ vault.items, ∃ item, policy.items[envelope.itemId]? = some item ∧ SlotsCurrent envelope item
  opens : ∀ envelope ∈ vault.items, ∀ principalId capability contentRole,
    (policy.access envelope.itemId principalId capability).allowed = true →
    (policy.access envelope.itemId principalId capability).path = .direct ∨
      (policy.access envelope.itemId principalId capability).path = .mixed →
    ∃ target slot, RevisionAccessTarget.current policy envelope principalId contentRole capability = .ok target ∧
      preflightDirect principalId { policy, envelope, target, capability } = .ok slot

theorem whole_vault_openable (vault : VaultFileV1) (witnessPolicies : List WitnessPolicy) (current : Bool)
    (policy : PolicyState) (h : validateComplete vault witnessPolicies current = .ok policy)
    (hwhole : ∀ revision ∈ vault.policy.revisions, SealsWhole (bodiesOf vault) revision.operations) :
    Openable vault policy := by
  rw [validateComplete_eq_ok] at h
  obtain ⟨candidate, hcand⟩ := h.candidate
  obtain ⟨hbound, hcovered⟩ := fromValidated_envelopes hcand
  obtain ⟨catalog, -, hreplay⟩ := replayPolicy_eq_ok.mp h.replayed
  obtain ⟨hcarried, hmatched⟩ := replay_matched hreplay hwhole
  have hcur : ∀ envelope ∈ vault.items, ∃ item, EnvelopeBound policy envelope item ∧ SlotsCurrent envelope item := by
    intro envelope hmem
    obtain ⟨item, hitem⟩ := hbound envelope hmem
    exact ⟨item, hitem, slotsCurrent_of_matches h hmem hitem (hcarried _ item hitem.found) (hmatched _ item hitem.found)⟩
  refine ⟨hcovered, fun envelope hmem => ?_, fun envelope hmem principalId capability contentRole hallowed hpath => ?_⟩
  · obtain ⟨item, hitem, hslots⟩ := hcur envelope hmem
    exact ⟨item, hitem.found, hslots⟩
  · obtain ⟨item, hitem, hslots⟩ := hcur envelope hmem
    exact preflightDirect_current h hitem hslots hallowed hpath contentRole

end Vault

end Jury.Access

namespace Jury.Access.Sample

open Lib Protocol Vault Protocol.Sample Policy Policy.Sample Mutation

-- A vault with one item that its owner, principal 1, reads directly.
def itemId : ItemId := identifier .item 1

def bodyCiphertext : BoundedBytes 8388624 := ⟨(FixedBytes.replicate 4112 7).bytes, by decide +kernel⟩

def body : SignedItemRevisionV1 :=
  let unsigned : SignedItemRevisionV1 := {
    vaultId := identifier .vault 1
    itemId
    itemRevision := 1
    previousItemRevisionHash := ZERO_DIGEST
    keyEpoch := 1
    policySequence := 1
    authorPrincipalId := identifier .principal 1
    timestampMs := 1001
    revisionSealId := identifier .revisionSeal 21
    nonce := FixedBytes.replicate 12 21
    ciphertextLength := 4112
    ciphertextDigest := sha256 bodyCiphertext.asBytes
    plaintextSchema := 1
    bucketId := 1
    signature := NO_SIGNATURE }
  { unsigned with signature := sign (verificationKey 1) unsigned.signaturePreimage }

def descriptorCiphertext : DescriptorCiphertext272 := FixedBytes.replicate 272 9

def described (revision : UInt64) (byte : UInt8) : DescriptorMetadataV1 :=
  { metadata revision 1 byte with ciphertextDigest := sha256 descriptorCiphertext.bytes }

def creation : PolicyOperationV1 :=
  .itemCreate itemId .canonical 1 (described 1 11) (body.recomputedHash.getD ZERO_DIGEST)
    [directSlot itemId 1 1 .descriptor .owner 1 11, directSlot itemId 1 1 .body .owner 1 21] none

def createdJournal : PolicyJournalV1 := extend (foundedBy 1 1000) [] 1 1001 [creation]

def renamedJournal : PolicyJournalV1 := extend createdJournal [] 1 1002 [.itemRename itemId 1 (described 2 12)]

def vaultOf (journal : PolicyJournalV1) (descriptor : DescriptorMetadataV1) : VaultFileV1 where
  header := {
    magic := "jury-vault"
    version := 1
    vaultId := identifier .vault 1
    createdAtMs := 1000
    suite := 1
    policySchema := 1
    itemSchema := 1
    identitySchema := 1
    genesisFingerprint := journal.genesis.recomputedFingerprint.getD ZERO_DIGEST }
  policy := journal
  items := [{
    itemId
    descriptor
    descriptorCiphertext
    priorRevisions := []
    currentRevision := body
    bodyCiphertext }]
  suiteMigration := none

def createdVault : VaultFileV1 := vaultOf createdJournal (described 1 11)

def renamedVault : VaultFileV1 := vaultOf renamedJournal (described 2 12)

def owner : PrincipalId := identifier .principal 1

def refused (policy : PolicyState) (contentRole : ContentRole) (envelope : ItemEnvelopeV1) : Bool :=
  (policy.access envelope.itemId owner .read).allowed
    && (policy.access envelope.itemId owner .read).path == .direct
    && Returns (RevisionAccessTarget.current policy envelope owner contentRole .read) fun target =>
      match preflightDirect owner { policy, envelope, target, capability := .read } with
      | .error kind => kind == .invalidSlot
      | .ok _ => false

theorem created_vault_openable : ∃ policy, validateComplete createdVault [] true = .ok policy ∧
    (policy.access itemId owner .read).path = .direct ∧
    (∀ revision ∈ createdVault.policy.revisions, SealsWhole (bodiesOf createdVault) revision.operations) ∧
    Openable createdVault policy := by
  obtain ⟨policy, hpolicy, hpath⟩ := returns_iff.mp
    (by decide +kernel : Returns (validateComplete createdVault [] true)
      (fun policy => (policy.access itemId owner .read).path == .direct) = true)
  have hwhole : ∀ revision ∈ createdVault.policy.revisions,
      SealsWhole (bodiesOf createdVault) revision.operations := by
    unfold SealsWhole
    decide +kernel
  exact ⟨policy, hpolicy, beq_iff_eq.mp hpath, hwhole, whole_vault_openable createdVault [] true policy hpolicy hwhole⟩

theorem renamed_vault_not_openable : ∃ policy, validateComplete renamedVault [] true = .ok policy ∧
    (∀ envelope ∈ renamedVault.items, refused policy .descriptor envelope = true) ∧ ¬ Openable renamedVault policy := by
  obtain ⟨policy, hpolicy, hrefused⟩ := returns_iff.mp
    (by decide +kernel : Returns (validateComplete renamedVault [] true)
      (fun policy => renamedVault.items.all (refused policy .descriptor)) = true)
  rw [List.all_eq_true] at hrefused
  refine ⟨policy, hpolicy, hrefused, fun hopenable => ?_⟩
  obtain ⟨envelope, hmem⟩ : ∃ envelope, envelope ∈ renamedVault.items := ⟨_, List.mem_singleton_self _⟩
  have hclosed := hrefused envelope hmem
  simp only [refused, holds] at hclosed
  obtain ⟨⟨hallowed, hpath⟩, htarget⟩ := hclosed
  obtain ⟨target, slot, hcur, hslot⟩ := hopenable.opens envelope hmem owner .read .descriptor hallowed (.inl hpath)
  simp [hcur, Returns, hslot] at htarget

end Jury.Access.Sample
