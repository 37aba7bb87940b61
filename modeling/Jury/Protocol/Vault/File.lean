import Jury.Protocol.Vault.Rollover

-- The vault file as one artifact: its header, its journal, the envelopes of its items and the record of a
-- suite migration, and the format checks that relate them to one another.
namespace Jury.Protocol.Vault

open Lib Protocol

def MAX_ITEM_REVISION_PROOFS : Nat := 65536
def MAX_CURRENT_SLOTS : Nat := 16384

structure VaultHeaderV1 where
  magic : String
  version : UInt16
  vaultId : VaultId
  createdAtMs : UInt64
  suite : UInt16
  policySchema : UInt16
  itemSchema : UInt16
  identitySchema : UInt16
  genesisFingerprint : Digest32
deriving DecidableEq

structure SignedSuiteMigrationV1 where
  migrationFormat : UInt16
  migrationId : MigrationId
  oldVaultId : VaultId
  oldGenesisFingerprint : Digest32
  oldTerminalRevisionHash : Digest32
  oldSuite : UInt16
  newVaultId : VaultId
  newGenesisFingerprint : Digest32
  newSuite : UInt16
  migratedItemManifestDigest : Digest32
  signature : Signature64
deriving DecidableEq

structure VaultFileV1 where
  header : VaultHeaderV1
  policy : PolicyJournalV1
  items : List ItemEnvelopeV1
  suiteMigration : Option SignedSuiteMigrationV1
deriving DecidableEq

def ItemEnvelopeV1.revisions (envelope : ItemEnvelopeV1) : List SignedItemRevisionV1 :=
  envelope.priorRevisions ++ [envelope.currentRevision]

def validateHeaderDiscriminants (header : VaultHeaderV1) : Except FormatError Unit := do
  rejectIf (header.magic != "jury-vault") (.invalid "unknown magic")
  rejectIf
    (header.version != 1
      || (VaultSuite.fromId header.suite).isNone
      || header.policySchema != 1
      || header.itemSchema != 1
      || header.identitySchema != 1)
    (.invalid "unknown version or suite")

-- Buckets double in size; the largest is far from overflowing.
def bucketCiphertextLength (bucketId : UInt8) : Except FormatError UInt32 :=
  if 1 ≤ bucketId ∧ bucketId ≤ 12 then .ok ((4096 : UInt32) <<< (bucketId - 1).toUInt32 + 16)
  else .error (.invalid "unknown item bucket")

def validateItemRevision (revision : SignedItemRevisionV1) (vaultId : VaultId) (itemId : ItemId)
    (expectedRevision : UInt64) (previousHash : Digest32) (finalPolicySequence : UInt64) :
    Except FormatError Unit := do
  rejectIf
    (revision.vaultId != vaultId
      || revision.itemId != itemId
      || revision.itemRevision != expectedRevision
      || revision.previousItemRevisionHash != previousHash
      || revision.keyEpoch == 0
      || decide (revision.policySequence > finalPolicySequence)
      || revision.plaintextSchema != 1)
    (.invalid "item revision ancestry differs")
  let _ ← bucketCiphertextLength revision.bucketId

-- The seals and nonces that the envelopes seen so far have used; no two contents share one.
structure SealScan where
  seals : BTreeSet RevisionSealId
  nonces : BTreeSet Nonce12

def SealScan.insert (scan : SealScan) (sealId : RevisionSealId) (nonce : Nonce12) : Except FormatError SealScan := do
  rejectIf (scan.seals.contains sealId) (.invalid "revision seal is reused")
  rejectIf (scan.nonces.contains nonce) (.invalid "nonce is reused")
  return { seals := scan.seals.insert sealId, nonces := scan.nonces.insert nonce }

def PolicyOperationV1.slotTable : PolicyOperationV1 → Option (List DirectSlotV1 × Option WitnessedStateV1)
  | .itemCreate _ _ _ _ _ directSlots witnessedState => some (directSlots, witnessedState)
  | .itemSlotsReplace _ _ directSlots witnessedState => some (directSlots, witnessedState)
  | _ => none

-- What the slots of all operations so far have been sealed for, and the identifiers of the witnessed ones.
structure SlotInventory where
  sealScopes : BTreeMap RevisionSealId (ItemId × ContentRole × UInt64)
  witnessedSlotIds : BTreeSet SlotId

def SlotInventory.registerScope (inventory : SlotInventory) (sealId : RevisionSealId) (itemId : ItemId)
    (contentRole : ContentRole) (revision : UInt64) : Except FormatError SlotInventory :=
  match inventory.sealScopes[sealId]? with
  | some existing => do
    rejectIf (existing != (itemId, contentRole, revision)) (.invalid "slot seal scope differs")
    return inventory
  | none =>
    return { inventory with sealScopes := inventory.sealScopes.insert sealId (itemId, contentRole, revision) }

def registerDirectSlot (suite : UInt16) (inventory : SlotInventory) (slot : DirectSlotV1) :
    Except FormatError SlotInventory := do
  rejectIf (slot.suite != suite) (.invalid "direct slot suite differs from vault")
  inventory.registerScope slot.revisionSealId slot.itemId slot.contentRole slot.revision

def registerWitnessedSlot (suite : UInt16) (inventory : SlotInventory) (slot : WitnessedSlotV1) :
    Except FormatError SlotInventory := do
  rejectIf (slot.suite != suite) (.invalid "witnessed slot suite differs from vault")
  let inventory ← inventory.registerScope slot.revisionSealId slot.itemId slot.contentRole slot.revision
  rejectIf (inventory.witnessedSlotIds.contains slot.slotId) (.invalid "witnessed slot ID is reused")
  return { inventory with witnessedSlotIds := inventory.witnessedSlotIds.insert slot.slotId }

def registerOperation (suite : UInt16) (inventory : SlotInventory) (operation : PolicyOperationV1) :
    Except FormatError SlotInventory :=
  match operation.slotTable with
  | none => return inventory
  | some (directSlots, witnessedState) => do
    let witnessedSlots := (witnessedState.map (·.slots)).getD []
    rejectIf (decide (directSlots.length + witnessedSlots.length > MAX_CURRENT_SLOTS))
      (.capacityExhausted "current key slots")
    let inventory ← directSlots.foldlM (registerDirectSlot suite) inventory
    witnessedSlots.foldlM (registerWitnessedSlot suite) inventory

namespace VaultFileV1

def validateSlotInventory (vault : VaultFileV1) : Except FormatError Unit := do
  let _ ← (vault.policy.revisions.flatMap (·.operations)).foldlM (registerOperation vault.header.suite)
    { sealScopes := ∅, witnessedSlotIds := ∅ }

theorem validateSlotInventory_suites {vault : VaultFileV1} (h : vault.validateSlotInventory = .ok u) :
    ∀ revision ∈ vault.policy.revisions, ∀ operation ∈ revision.operations,
      ∀ directSlots witnessedState, operation.slotTable = some (directSlots, witnessedState) →
        ∀ slot ∈ directSlots, slot.suite = vault.header.suite := by
  simp only [validateSlotInventory, bind_eq_ok] at h
  obtain ⟨inventory, hinventory, -⟩ := h
  intro revision hrev operation hop directSlots witnessedState htable
  have hreg : ∀ operation ∈ vault.policy.revisions.flatMap (·.operations),
      operation.slotTable = some (directSlots, witnessedState) → ∀ slot ∈ directSlots, slot.suite = vault.header.suite := by
    refine foldlM_forall (fun operation before after hround htable => ?_) hinventory
    simp only [registerOperation, htable, bind_eq_ok] at hround
    obtain ⟨-, -, middle, hdir, -⟩ := hround
    refine foldlM_forall (fun slot before after hslot => ?_) hdir
    simp only [registerDirectSlot, eq_ok, bne_eq_false_iff_eq] at hslot
    obtain ⟨-, hsuite, -⟩ := hslot
    exact hsuite
  exact hreg operation (List.mem_flatMap.mpr ⟨revision, hrev, hop⟩) htable

def rolloverStatement (vault : VaultFileV1) : Option SignedRolloverV1 :=
  match vault.policy.genesis.sourceAttestation with
  | some (.rollover statement) => some statement
  | _ => none

def validateMigration (vault : VaultFileV1) : Except FormatError Unit := do
  let sourceSuite := vault.rolloverStatement.bind fun statement =>
    statement.bootstrapManifest.bind (·.sourceSuite)
  let required := sourceSuite.any fun suite => suite != vault.header.suite
  match vault.suiteMigration with
  -- A draft that has registered nobody yet has no items to migrate.
  | none => rejectIf (required && !vault.policy.revisions.isEmpty) (.invalid "suite migration record is missing")
  | some migration =>
    let statement ← orReject vault.rolloverStatement (.invalid "migration has no rollover bridge")
    rejectIf
      (!required
        || sourceSuite != some 1
        || vault.header.suite != 2
        || migration.oldSuite != 1
        || migration.newSuite != 2
        || migration.oldVaultId != statement.sourceVaultId
        || migration.oldGenesisFingerprint != statement.sourceGenesisFingerprint
        || migration.oldTerminalRevisionHash != statement.terminalSourceRevisionHash
        || migration.migratedItemManifestDigest != statement.bootstrapManifestDigest
        || migration.migrationFormat != 1
        || migration.newVaultId != vault.header.vaultId
        || migration.newGenesisFingerprint != vault.header.genesisFingerprint
        || migration.newSuite != vault.header.suite
        || migration.oldVaultId == migration.newVaultId
        || migration.oldGenesisFingerprint == migration.newGenesisFingerprint
        || migration.oldSuite == migration.newSuite)
      (.invalid "suite migration does not create one new lineage")

variable [Crypto]

def validateHeader (vault : VaultFileV1) : Except FormatError Unit := do
  validateHeaderDiscriminants vault.header
  rejectIf (vault.header.vaultId != vault.policy.genesis.vaultId) (.invalid "header and genesis vault differ")
  rejectIf (vault.header.createdAtMs != vault.policy.genesis.createdAtMs) (.invalid "header and genesis time differ")
  rejectIf (vault.policy.genesis.suite != vault.header.suite) (.invalid "genesis suite differs")
  let fingerprint ← orReject vault.policy.genesis.recomputedFingerprint .canonicalEncoding
  rejectIf (fingerprint != vault.header.genesisFingerprint) (.invalid "genesis fingerprint differs")

def validateManifestCommitment (vault : VaultFileV1) (statement : SignedRolloverV1)
    (manifest : BootstrapManifestV1) : Except FormatError Unit := do
  let differs : FormatError := .invalid "rollover manifest commitment differs"
  rejectIf
    (manifest.destinationVaultId != vault.header.vaultId
      || manifest.destinationSuite != vault.header.suite
      || manifest.createdAtMs != vault.header.createdAtMs
      || manifest.actingOwnerPrincipalId != statement.actingOwnerPrincipalId
      || manifest.actingOwnerPrincipalId != vault.policy.genesis.owner.principalId)
    differs
  let digest ← manifest.digest
  rejectIf (digest != statement.bootstrapManifestDigest) differs

def validateSourceAttestation (vault : VaultFileV1) : Except FormatError Unit :=
  match vault.policy.genesis.sourceAttestation with
  | none => return ()
  | some (.legacyMigration sourceFormat _ _ _) =>
    rejectIf (!(sourceFormat == 1 || sourceFormat == 2)) (.invalid "legacy source version differs")
  | some (.rollover statement) => do
    rejectIf
      (statement.rolloverFormat != 1
        || statement.destinationVaultId != vault.header.vaultId
        || statement.destinationSuite != vault.header.suite
        || statement.sourceVaultId == statement.destinationVaultId
        || statement.sourceGenesisFingerprint == vault.header.genesisFingerprint)
      (.invalid "rollover does not create one new lineage")
    match statement.bootstrapManifest with
    | none => return ()
    | some manifest => vault.validateManifestCommitment statement manifest

-- One revision of the journal, after those whose last hash is given; the hash of it is the next one's.
def validateRevision (vault : VaultFileV1) (previousHash : Digest32) (entry : SignedPolicyRevisionV1 × Nat) :
    Except FormatError Digest32 := do
  let (revision, index) := entry
  rejectIf
    (revision.vaultId != vault.header.vaultId
      || revision.sequence != UInt64.ofNat (index + 1)
      || revision.previousRevisionHash != previousHash)
    (.invalid "policy ancestry differs")
  rejectIf
    (revision.operations.isEmpty && !(index == 0 && vault.policy.genesis.permitsEmptyRolloverBootstrap))
    (.invalid "policy revision has no operation")
  revision.operations.forM fun operation =>
    validateOperation operation revision.sequence vault.header.vaultId vault.header.genesisFingerprint
  orReject revision.recomputedHash .canonicalEncoding

-- The genesis cannot list items or grants: the lists of the source hold elements of an empty type.
def validatePolicy (vault : VaultFileV1) : Except FormatError Unit := do
  let genesis := vault.policy.genesis
  rejectIf (genesis.policySequence != 0 || genesis.previousPolicyHash != ZERO_DIGEST)
    (.invalid "genesis sequence is not zero")
  rejectIf (genesis.owner.descriptorVersion != 1 || genesis.owner.principalKind != .human)
    (.invalid "genesis owner is not one v1 human")
  vault.validateSourceAttestation
  rejectIf (decide (vault.policy.revisions.length > MAX_POLICY_REVISIONS)) (.capacityExhausted "policy revisions")
  let _ ← vault.policy.revisions.zipIdx.foldlM vault.validateRevision vault.header.genesisFingerprint

def validateChainedRevision (vault : VaultFileV1) (item : ItemEnvelopeV1) (chain : SealScan × Digest32)
    (entry : SignedItemRevisionV1 × Nat) : Except FormatError (SealScan × Digest32) := do
  let (scan, previousHash) := chain
  let (revision, index) := entry
  validateItemRevision revision vault.header.vaultId item.itemId (UInt64.ofNat (index + 1)) previousHash
    (UInt64.ofNat vault.policy.revisions.length)
  let scan ← scan.insert revision.revisionSealId revision.nonce
  let hash ← orReject revision.recomputedHash .canonicalEncoding
  return (scan, hash)

def validateItem (vault : VaultFileV1) (item : ItemEnvelopeV1) (scan : SealScan) : Except FormatError SealScan := do
  validateDescriptorMetadata item.descriptor
  rejectIf (item.descriptor.keyEpoch != item.currentRevision.keyEpoch)
    (.invalid "descriptor and body key epochs differ")
  rejectIf (sha256 item.descriptorCiphertext.bytes != item.descriptor.ciphertextDigest)
    (.invalid "descriptor ciphertext digest differs")
  let scan ← scan.insert item.descriptor.revisionSealId item.descriptor.nonce
  let (scan, _) ← item.revisions.zipIdx.foldlM (vault.validateChainedRevision item) (scan, ZERO_DIGEST)
  let current := item.currentRevision
  let differs : FormatError := .invalid "body ciphertext metadata differs"
  rejectIf
    (current.ciphertextLength.toNat != item.bodyCiphertext.asBytes.length
      || sha256 item.bodyCiphertext.asBytes != current.ciphertextDigest)
    differs
  let length ← bucketCiphertextLength current.bucketId
  rejectIf (current.ciphertextLength != length) differs
  return scan

structure EnvelopeScan where
  priorItem : Option ItemId
  proofCount : Nat
  used : SealScan

def scanEnvelope (vault : VaultFileV1) (scan : EnvelopeScan) (item : ItemEnvelopeV1) :
    Except FormatError EnvelopeScan := do
  rejectIf (scan.priorItem.any fun prior => (compare prior item.itemId).isGE) (.invalid "items are not canonical")
  let used ← vault.validateItem item scan.used
  return { priorItem := some item.itemId, proofCount := scan.proofCount + item.priorRevisions.length, used }

def validateItems (vault : VaultFileV1) : Except FormatError Unit := do
  rejectIf (decide (vault.items.length > MAX_ITEMS)) (.capacityExhausted "items")
  let scan ← vault.items.foldlM vault.scanEnvelope
    { priorItem := none, proofCount := 0, used := { seals := ∅, nonces := ∅ } }
  rejectIf (decide (scan.proofCount > MAX_ITEM_REVISION_PROOFS)) (.capacityExhausted "item revision proofs")

def validate (vault : VaultFileV1) : Except FormatError Unit := do
  vault.validateHeader
  vault.validatePolicy
  vault.validateItems
  vault.validateMigration
  vault.validateSlotInventory

structure Validated (vault : VaultFileV1) : Prop where
  vaultId : vault.header.vaultId = vault.policy.genesis.vaultId
  suite : vault.policy.genesis.suite = vault.header.suite
  fingerprint : vault.policy.genesis.recomputedFingerprint = some vault.header.genesisFingerprint
  operations : ∀ revision ∈ vault.policy.revisions, ∀ operation ∈ revision.operations,
    validateOperation operation revision.sequence vault.header.vaultId vault.header.genesisFingerprint = .ok ()
  epochs : ∀ envelope ∈ vault.items, envelope.descriptor.keyEpoch = envelope.currentRevision.keyEpoch
  slotSuites : ∀ revision ∈ vault.policy.revisions, ∀ operation ∈ revision.operations,
    ∀ directSlots witnessedState, operation.slotTable = some (directSlots, witnessedState) →
      ∀ slot ∈ directSlots, slot.suite = vault.header.suite

variable {vault : VaultFileV1}

theorem validatePolicy_operations (h : vault.validatePolicy = .ok u) :
    ∀ revision ∈ vault.policy.revisions, ∀ operation ∈ revision.operations,
      validateOperation operation revision.sequence vault.header.vaultId vault.header.genesisFingerprint = .ok () := by
  simp only [validatePolicy, bind_eq_ok] at h
  obtain ⟨-, -, -, -, -, -, -, -, hash, hrevs, -⟩ := h
  have hall : ∀ entry ∈ vault.policy.revisions.zipIdx, ∀ operation ∈ entry.1.operations,
      validateOperation operation entry.1.sequence vault.header.vaultId vault.header.genesisFingerprint = .ok () := by
    refine foldlM_forall (fun entry before after hround => ?_) hrevs
    simp only [validateRevision, bind_eq_ok, forM_eq_ok] at hround
    obtain ⟨-, -, -, -, -, hoperations, -⟩ := hround
    exact hoperations
  intro revision hmem
  obtain ⟨index, hindex, rfl⟩ := List.mem_iff_getElem.mp hmem
  exact hall (vault.policy.revisions[index], index) (List.mk_mem_zipIdx_iff_getElem?.mpr (by simp [hindex]))

theorem validateItems_epochs (h : vault.validateItems = .ok u) :
    ∀ envelope ∈ vault.items, envelope.descriptor.keyEpoch = envelope.currentRevision.keyEpoch := by
  simp only [validateItems, bind_eq_ok] at h
  obtain ⟨-, -, scan, hscan, -⟩ := h
  refine foldlM_forall (fun envelope before after hround => ?_) hscan
  simp only [scanEnvelope, validateItem, eq_ok, bne_eq_false_iff_eq] at hround
  obtain ⟨-, -, used, ⟨-, -, -, hepoch, -⟩, -⟩ := hround
  exact hepoch

theorem validate_eq_ok (h : vault.validate = .ok u) : vault.Validated := by
  simp only [validate, bind_eq_ok] at h
  obtain ⟨_, hheader, _, hpolicy, _, hitems, -, -, hslots⟩ := h
  simp only [validateHeader, eq_ok, bne_eq_false_iff_eq] at hheader
  obtain ⟨-, -, -, hvault, -, -, -, hsuite, fingerprint, hfp, rfl⟩ := hheader
  exact ⟨hvault, hsuite, hfp, validatePolicy_operations hpolicy, validateItems_epochs hitems,
    validateSlotInventory_suites hslots⟩

end VaultFileV1

-- Pretty JSON as it is written, and as it is read back behind the scan for the marks of a merge conflict.
structure VaultCodec where
  encode : VaultFileV1 → Bytes
  decode : Bytes → Except FormatError VaultFileV1

namespace VaultFileV1

variable [Crypto]

def toJsonBytes (codec : VaultCodec) (vault : VaultFileV1) : Except FormatError Bytes := do
  vault.validate
  rejectIf (decide ((codec.encode vault).length > MAX_VAULT_BYTES)) .artifactTooLarge
  return codec.encode vault

def parse (codec : VaultCodec) (bytes : Bytes) : Except FormatError VaultFileV1 := do
  rejectIf (decide (bytes.length > MAX_VAULT_BYTES)) .artifactTooLarge
  let vault ← codec.decode bytes
  validateHeaderDiscriminants vault.header
  vault.validate
  let canonical ← vault.toJsonBytes codec
  rejectIf (canonical != bytes) .nonCanonicalJson
  return vault

theorem parse_toJsonBytes {codec : VaultCodec} (hcodec : codec.decode (codec.encode vault) = .ok vault)
    (h : vault.toJsonBytes codec = .ok bytes) : parse codec bytes = .ok vault := by
  have hwritten := h
  simp only [toJsonBytes, eq_ok] at hwritten
  obtain ⟨_, hvalid, -, hlen, rfl⟩ := hwritten
  have hheader : validateHeaderDiscriminants vault.header = .ok () := by
    simp only [validate, validateHeader, bind_eq_ok] at hvalid
    obtain ⟨-, ⟨_, hheader, -⟩, -⟩ := hvalid
    exact hheader
  simp only [parse, eq_ok, bne_eq_false_iff_eq]
  exact ⟨(), hlen, vault, hcodec, (), hheader, (), hvalid, _, h, (), rfl, rfl⟩

end VaultFileV1

end Jury.Protocol.Vault
