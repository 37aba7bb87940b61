import Jury.LocalState.Checkpoint
import Jury.Protocol.Witness.Json

-- The receipts of a principal: the latest transfer, backup, check of a backup and restore drill, in one
-- authenticated document. And how long the documents of the local state are as JSON.
namespace Jury.LocalState

open Lib Protocol Vault Witness

def MAX_CHECKPOINT_BYTES : Nat := 4 * 1024 * 1024
def MAX_RECEIPTS_BYTES : Nat := 256 * 1024

structure TransferReceipt where
  transferId : Digest32
  capturedPublicRevisionHash : Digest32
  timestampMs : UInt64
  outputDigest : Digest32
deriving DecidableEq

structure BackupReceiptCoverage where
  ownerDescriptorFingerprint : Digest32
  identityRoleMask : UInt8
  directItemIds : List ItemId
  witnessedItemIds : List ItemId
  unavailableWitnessedItemIds : List ItemId
  checkpointsCurrent : Bool
  externalWitnessRecoveryRequired : Bool
deriving DecidableEq

structure BackupReceipt where
  backupId : Digest32
  capturedPublicRevisionHash : Digest32
  timestampMs : UInt64
  payloadDigest : Digest32
  coverage : BackupReceiptCoverage
deriving DecidableEq

structure BackupVerificationReceipt where
  backupId : Digest32
  capturedPublicRevisionHash : Digest32
  timestampMs : UInt64
  payloadDigest : Digest32
deriving DecidableEq

structure RestoreDrillReceipt where
  backupId : Digest32
  capturedPublicRevisionHash : Digest32
  timestampMs : UInt64
  outputDigest : Digest32
deriving DecidableEq

inductive ReceiptUpdate where
  | transfer (receipt : TransferReceipt)
  | backup (receipt : BackupReceipt)
  | backupVerification (receipt : BackupVerificationReceipt)
  | restoreDrill (receipt : RestoreDrillReceipt)

structure LocalReceipts where
  version : UInt16
  scope : LocalStateScope
  latestTransfer : Option TransferReceipt
  latestBackup : Option BackupReceipt
  latestBackupVerification : Option BackupVerificationReceipt
  latestRestoreDrill : Option RestoreDrillReceipt
  mac : Digest32
deriving DecidableEq

structure ReceiptEntry where
  kind : UInt8
  operationId : Digest32
  capturedPublicRevisionHash : Digest32
  timestampMs : UInt64
  outputDigest : Digest32
  verificationState : UInt8

def validateCommon (operationId revisionHash : Digest32) (timestampMs : UInt64) (outputDigest : Digest32) :
    Except LocalStateErrorKind Unit :=
  rejectIf
    (timestampMs == 0 || operationId == ZERO_DIGEST || revisionHash == ZERO_DIGEST || outputDigest == ZERO_DIGEST)
    .invalidFormat

def validateTransfer (receipt : TransferReceipt) : Except LocalStateErrorKind Unit :=
  validateCommon receipt.transferId receipt.capturedPublicRevisionHash receipt.timestampMs receipt.outputDigest

def validateBackup (receipt : BackupReceipt) : Except LocalStateErrorKind Unit := do
  validateCommon receipt.backupId receipt.capturedPublicRevisionHash receipt.timestampMs receipt.payloadDigest
  let coverage := receipt.coverage
  rejectIf
    (coverage.ownerDescriptorFingerprint == ZERO_DIGEST
      || coverage.identityRoleMask &&& 1 == 0
      || coverage.identityRoleMask &&& ~~~7 != 0
      || !coverage.checkpointsCurrent
      || !strictlySortedUnique coverage.directItemIds
      || !strictlySortedUnique coverage.witnessedItemIds
      || !strictlySortedUnique coverage.unavailableWitnessedItemIds
      || coverage.externalWitnessRecoveryRequired == coverage.witnessedItemIds.isEmpty
      || coverage.unavailableWitnessedItemIds.any fun itemId => !coverage.witnessedItemIds.contains itemId)
    .invalidFormat

def validateBackupVerification (receipt : BackupVerificationReceipt) : Except LocalStateErrorKind Unit :=
  validateCommon receipt.backupId receipt.capturedPublicRevisionHash receipt.timestampMs receipt.payloadDigest

def validateRestoreDrill (receipt : RestoreDrillReceipt) : Except LocalStateErrorKind Unit :=
  validateCommon receipt.backupId receipt.capturedPublicRevisionHash receipt.timestampMs receipt.outputDigest

def ensureNewer (prior : Option UInt64) (next : UInt64) : Except LocalStateErrorKind Unit :=
  rejectIf (next == 0 || prior.any fun prior => decide (next < prior)) .invalidFormat

namespace LocalReceipts

def empty (scope : LocalStateScope) : LocalReceipts where
  version := 1
  scope
  latestTransfer := none
  latestBackup := none
  latestBackupVerification := none
  latestRestoreDrill := none
  mac := ZERO_DIGEST

def validateShape (receipts : LocalReceipts) : Except LocalStateErrorKind Unit := do
  rejectIf (receipts.version != 1) .invalidFormat
  receipts.latestTransfer.forM validateTransfer
  receipts.latestBackup.forM validateBackup
  receipts.latestBackupVerification.forM validateBackupVerification
  receipts.latestRestoreDrill.forM validateRestoreDrill

def update (receipts : LocalReceipts) : ReceiptUpdate → Except LocalStateErrorKind LocalReceipts
  | .transfer receipt => do
    ensureNewer (receipts.latestTransfer.map (·.timestampMs)) receipt.timestampMs
    validateTransfer receipt
    return { receipts with latestTransfer := some receipt }
  | .backup receipt => do
    ensureNewer (receipts.latestBackup.map (·.timestampMs)) receipt.timestampMs
    validateBackup receipt
    return { receipts with latestBackup := some receipt }
  | .backupVerification receipt => do
    ensureNewer (receipts.latestBackupVerification.map (·.timestampMs)) receipt.timestampMs
    validateBackupVerification receipt
    return { receipts with latestBackupVerification := some receipt }
  | .restoreDrill receipt => do
    ensureNewer (receipts.latestRestoreDrill.map (·.timestampMs)) receipt.timestampMs
    validateRestoreDrill receipt
    return { receipts with latestRestoreDrill := some receipt }

end LocalReceipts

theorem receipts_validateShape_eq_ok {receipts : LocalReceipts} :
    receipts.validateShape = .ok () ↔
      receipts.version = 1 ∧ (∀ receipt ∈ receipts.latestTransfer, validateTransfer receipt = .ok ()) ∧
        (∀ receipt ∈ receipts.latestBackup, validateBackup receipt = .ok ()) ∧
        (∀ receipt ∈ receipts.latestBackupVerification, validateBackupVerification receipt = .ok ()) ∧
        ∀ receipt ∈ receipts.latestRestoreDrill, validateRestoreDrill receipt = .ok () := by
  have hforM : ∀ {α : Type} (value : Option α) (f : α → Except LocalStateErrorKind Unit),
      value.forM f = .ok () ↔ ∀ a ∈ value, f a = .ok () := by
    intro α value f
    cases value <;> simp [Option.forM, pure, Except.pure]
  simp only [LocalReceipts.validateShape, eq_ok, bne_eq_false_iff_eq, hforM]
  constructor
  · rintro ⟨_, hversion, _, htransfer, _, hbackup, _, hverif, hdrill⟩
    exact ⟨hversion, htransfer, hbackup, hverif, hdrill⟩
  · rintro ⟨hversion, htransfer, hbackup, hverif, hdrill⟩
    exact ⟨(), hversion, (), htransfer, (), hbackup, (), hverif, hdrill⟩

theorem update_shape {receipts : LocalReceipts} {update : ReceiptUpdate} (h : receipts.validateShape = .ok ())
    (hout : receipts.update update = .ok out) : out.validateShape = .ok () ∧ out.scope = receipts.scope := by
  rw [receipts_validateShape_eq_ok] at h ⊢
  obtain ⟨hversion, htransfer, hbackup, hverif, hdrill⟩ := h
  cases update <;>
    simp only [LocalReceipts.update, eq_ok] at hout <;>
    obtain ⟨-, -, _, hvalid, rfl⟩ := hout <;>
    refine ⟨⟨hversion, ?_⟩, rfl⟩ <;>
    simp_all

def itemIdsBytes (itemIds : List ItemId) : Bytes :=
  u32be (UInt32.ofNat itemIds.length) ++ concat (itemIds.map (·.asBytes.bytes))

namespace ReceiptEntry

def ofTransfer (receipt : TransferReceipt) : ReceiptEntry where
  kind := 1
  operationId := receipt.transferId
  capturedPublicRevisionHash := receipt.capturedPublicRevisionHash
  timestampMs := receipt.timestampMs
  outputDigest := receipt.outputDigest
  verificationState := 1

def ofBackupVerification (receipt : BackupVerificationReceipt) : ReceiptEntry where
  kind := 3
  operationId := receipt.backupId
  capturedPublicRevisionHash := receipt.capturedPublicRevisionHash
  timestampMs := receipt.timestampMs
  outputDigest := receipt.payloadDigest
  verificationState := 2

def ofRestoreDrill (receipt : RestoreDrillReceipt) : ReceiptEntry where
  kind := 4
  operationId := receipt.backupId
  capturedPublicRevisionHash := receipt.capturedPublicRevisionHash
  timestampMs := receipt.timestampMs
  outputDigest := receipt.outputDigest
  verificationState := 3

def bytes (entry : ReceiptEntry) : Bytes :=
  octets [entry.kind] ++
  (entry.operationId.bytes ++
  (entry.capturedPublicRevisionHash.bytes ++
  (u64be entry.timestampMs ++
  (entry.outputDigest.bytes ++
  octets [entry.verificationState]))))

-- Kind, time and operation one after the other compare as strings as they do as a tuple.
def sortKey (entry : ReceiptEntry) : Bytes :=
  octets [entry.kind] ++ (u64be entry.timestampMs ++ entry.operationId.bytes)

end ReceiptEntry

section Authentication

variable [Crypto]

def boolByte (flag : Bool) : UInt8 := if flag then 1 else 0

def backupCoverageDigest (payloadDigest : Digest32) (coverage : BackupReceiptCoverage) : Digest32 :=
  sha256 (jce "jury-v1/receipt/backup-coverage" ++
    (payloadDigest.bytes ++
    (coverage.ownerDescriptorFingerprint.bytes ++
    (octets [coverage.identityRoleMask] ++
    (octets [boolByte coverage.checkpointsCurrent] ++
    (octets [boolByte coverage.externalWitnessRecoveryRequired] ++
    (itemIdsBytes coverage.directItemIds ++
    (itemIdsBytes coverage.witnessedItemIds ++
    itemIdsBytes coverage.unavailableWitnessedItemIds))))))))

def ReceiptEntry.ofBackup (receipt : BackupReceipt) : ReceiptEntry where
  kind := 2
  operationId := receipt.backupId
  capturedPublicRevisionHash := receipt.capturedPublicRevisionHash
  timestampMs := receipt.timestampMs
  outputDigest := backupCoverageDigest receipt.payloadDigest receipt.coverage
  verificationState := 1

def LocalReceipts.entries (receipts : LocalReceipts) : List ReceiptEntry :=
  [receipts.latestTransfer.map .ofTransfer, receipts.latestBackup.map .ofBackup,
    receipts.latestBackupVerification.map .ofBackupVerification,
    receipts.latestRestoreDrill.map .ofRestoreDrill].reduceOption

def LocalReceipts.macPreimage (receipts : LocalReceipts) : Bytes :=
  let entries := sortByKey receipts.entries ReceiptEntry.sortKey
  jce "jury-v1/receipt/file-mac" ++
  (u16be receipts.version ++
  (receipts.scope.principalId.asBytes.bytes ++
  (receipts.scope.vaultId.asBytes.bytes ++
  (receipts.scope.genesisFingerprint.bytes ++
  (u32be (UInt32.ofNat entries.length) ++
  concat (entries.map (·.bytes)))))))

end Authentication

-- A line of the log is written without spaces. Quotes, backslashes and control characters are escaped.
def charJsonSize (char : Char) : Nat :=
  if char = '"' || char = '\\' then 2
  else if char.val < 32 then
    if [8, 9, 10, 12, 13].contains char.val then 2 else 6
  else char.utf8Size

def textJsonSize (text : String) : Nat := (text.toList.map charJsonSize).sum + 2

def boolJsonSize (flag : Bool) : Nat := if flag then 4 else 5

def AuditAction.nameLength : AuditAction → Nat
  | vaultCreateOrImport => 22
  | identityAction => 15
  | policyMutation => 15
  | itemMutation => 13
  | itemRead => 9
  | transfer => 8
  | backup => 6
  | restore => 7
  | executeOrInject => 17
  | witnessRequest => 15
  | verification => 12
  | privacyCover => 13

def AuditFailureStage.nameLength : AuditFailureStage → Nat
  | publicSyntax => 13
  | authorization => 13
  | privateAuthentication => 22
  | execution => 9
  | mutation => 8
  | durableCommit => 14

def AuditOutcome.jsonSize : AuditOutcome → Nat
  | success => sequenceJsonSize [fieldJsonSize 6 (nameJsonSize 7)]
  | denied => sequenceJsonSize [fieldJsonSize 6 (nameJsonSize 6)]
  | cancelled => sequenceJsonSize [fieldJsonSize 6 (nameJsonSize 9)]
  | failed stage => sequenceJsonSize [fieldJsonSize 6 (nameJsonSize 6), fieldJsonSize 5 (nameJsonSize stage.nameLength)]

def AuditItemScope.jsonSize (item : AuditItemScope) : Nat :=
  sequenceJsonSize [
    fieldJsonSize 7 identifierJsonSize,  -- item_id
    fieldJsonSize 19 (optionJsonSize (item.permittedItemName.map textJsonSize))]  -- permitted_item_name

def digestJsonSize (_ : Digest32) : Nat := fixedJsonSize 32

def WitnessAuditLink.jsonSize (link : WitnessAuditLink) : Nat :=
  sequenceJsonSize [
    fieldJsonSize 14 (digestJsonSize link.requestDigest),  -- request_digest
    fieldJsonSize 15 (optionJsonSize (link.decisionDigest.map digestJsonSize)),  -- decision_digest
    fieldJsonSize 14 (optionJsonSize (link.receiptDigest.map digestJsonSize)),  -- receipt_digest
    fieldJsonSize 20 (digestJsonSize link.policyRevisionHash),  -- policy_revision_hash
    fieldJsonSize 16 identifierJsonSize]  -- revision_seal_id

def AuditEvent.jsonSize (event : AuditEvent) : Nat :=
  sequenceJsonSize [
    fieldJsonSize 7 (u16JsonSize event.version),  -- version
    fieldJsonSize 8 (u64JsonSize event.sequence),  -- sequence
    fieldJsonSize 12 (digestJsonSize event.operationId),  -- operation_id
    fieldJsonSize 12 identifierJsonSize,  -- principal_id
    fieldJsonSize 8 identifierJsonSize,  -- vault_id
    fieldJsonSize 19 (digestJsonSize event.genesisFingerprint),  -- genesis_fingerprint
    fieldJsonSize 15 (u64JsonSize event.policySequence),  -- policy_sequence
    fieldJsonSize 6 (nameJsonSize event.action.nameLength),  -- action
    fieldJsonSize 4 (optionJsonSize (event.item.map (·.jsonSize))),  -- item
    fieldJsonSize 7 event.outcome.jsonSize,  -- outcome
    fieldJsonSize 7 (optionJsonSize (event.witness.map (·.jsonSize))),  -- witness
    fieldJsonSize 12 (digestJsonSize event.previousMac),  -- previous_mac
    fieldJsonSize 3 (digestJsonSize event.mac)]  -- mac

-- The other two documents are laid out: every field and element stands on a line of its own, two blanks deeper
-- than what it belongs to, with a colon and a blank behind a field's name.
def prettyFieldSize (depth nameLength size : Nat) : Nat := 1 + 2 * (depth + 1) + nameLength + 4 + size

def prettyObjectSize (depth : Nat) (fields : List Nat) : Nat := 3 + 2 * depth + fields.sum + (fields.length - 1)

def prettyListSize (depth : Nat) (elements : List Nat) : Nat :=
  if elements.isEmpty then 2
  else 3 + 2 * depth + (elements.map fun size => 1 + 2 * (depth + 1) + size).sum + (elements.length - 1)

def scopePrettySize : Nat :=
  prettyObjectSize 1 [
    prettyFieldSize 1 8 identifierJsonSize,  -- vault_id
    prettyFieldSize 1 19 (fixedJsonSize 32),  -- genesis_fingerprint
    prettyFieldSize 1 12 identifierJsonSize]  -- principal_id

def itemIdsPrettySize (itemIds : List ItemId) : Nat := prettyListSize 2 (itemIds.map fun _ => identifierJsonSize)

def LocalCheckpoint.jsonSize (checkpoint : LocalCheckpoint) : Nat :=
  prettyObjectSize 0 [
    prettyFieldSize 0 7 (u16JsonSize checkpoint.version),  -- version
    prettyFieldSize 0 5 scopePrettySize,  -- scope
    prettyFieldSize 0 29 (digestJsonSize checkpoint.acceptedPublicRevisionHash),  -- accepted_public_revision_hash
    prettyFieldSize 0 16 (digestJsonSize checkpoint.latestAuditMac),  -- latest_audit_mac
    prettyFieldSize 0 20 (digestJsonSize checkpoint.auditGenesisDigest),  -- audit_genesis_digest
    prettyFieldSize 0 13 (u64JsonSize checkpoint.updatedAtMs),  -- updated_at_ms
    prettyFieldSize 0 3 (digestJsonSize checkpoint.mac)]  -- mac

def TransferReceipt.jsonSize (receipt : TransferReceipt) : Nat :=
  prettyObjectSize 1 [
    prettyFieldSize 1 11 (digestJsonSize receipt.transferId),  -- transfer_id
    prettyFieldSize 1 29 (digestJsonSize receipt.capturedPublicRevisionHash),  -- captured_public_revision_hash
    prettyFieldSize 1 12 (u64JsonSize receipt.timestampMs),  -- timestamp_ms
    prettyFieldSize 1 13 (digestJsonSize receipt.outputDigest)]  -- output_digest

def BackupReceipt.jsonSize (receipt : BackupReceipt) : Nat :=
  prettyObjectSize 1 [
    prettyFieldSize 1 9 (digestJsonSize receipt.backupId),  -- backup_id
    prettyFieldSize 1 29 (digestJsonSize receipt.capturedPublicRevisionHash),  -- captured_public_revision_hash
    prettyFieldSize 1 12 (u64JsonSize receipt.timestampMs),  -- timestamp_ms
    prettyFieldSize 1 14 (digestJsonSize receipt.payloadDigest),  -- payload_digest
    prettyFieldSize 1 28 (digestJsonSize receipt.coverage.ownerDescriptorFingerprint),  -- owner_descriptor_fingerprint
    prettyFieldSize 1 18 (u8JsonSize receipt.coverage.identityRoleMask),  -- identity_role_mask
    prettyFieldSize 1 15 (itemIdsPrettySize receipt.coverage.directItemIds),  -- direct_item_ids
    prettyFieldSize 1 18 (itemIdsPrettySize receipt.coverage.witnessedItemIds),  -- witnessed_item_ids
    -- unavailable_witnessed_item_ids
    prettyFieldSize 1 30 (itemIdsPrettySize receipt.coverage.unavailableWitnessedItemIds),
    prettyFieldSize 1 19 (boolJsonSize receipt.coverage.checkpointsCurrent),  -- checkpoints_current
    -- external_witness_recovery_required
    prettyFieldSize 1 34 (boolJsonSize receipt.coverage.externalWitnessRecoveryRequired)]

def BackupVerificationReceipt.jsonSize (receipt : BackupVerificationReceipt) : Nat :=
  prettyObjectSize 1 [
    prettyFieldSize 1 9 (digestJsonSize receipt.backupId),  -- backup_id
    prettyFieldSize 1 29 (digestJsonSize receipt.capturedPublicRevisionHash),  -- captured_public_revision_hash
    prettyFieldSize 1 12 (u64JsonSize receipt.timestampMs),  -- timestamp_ms
    prettyFieldSize 1 14 (digestJsonSize receipt.payloadDigest)]  -- payload_digest

def RestoreDrillReceipt.jsonSize (receipt : RestoreDrillReceipt) : Nat :=
  prettyObjectSize 1 [
    prettyFieldSize 1 9 (digestJsonSize receipt.backupId),  -- backup_id
    prettyFieldSize 1 29 (digestJsonSize receipt.capturedPublicRevisionHash),  -- captured_public_revision_hash
    prettyFieldSize 1 12 (u64JsonSize receipt.timestampMs),  -- timestamp_ms
    prettyFieldSize 1 13 (digestJsonSize receipt.outputDigest)]  -- output_digest

def LocalReceipts.jsonSize (receipts : LocalReceipts) : Nat :=
  prettyObjectSize 0 [
    prettyFieldSize 0 7 (u16JsonSize receipts.version),  -- version
    prettyFieldSize 0 5 scopePrettySize,  -- scope
    prettyFieldSize 0 15 (optionJsonSize (receipts.latestTransfer.map (·.jsonSize))),  -- latest_transfer
    prettyFieldSize 0 13 (optionJsonSize (receipts.latestBackup.map (·.jsonSize))),  -- latest_backup
    -- latest_backup_verification
    prettyFieldSize 0 26 (optionJsonSize (receipts.latestBackupVerification.map (·.jsonSize))),
    prettyFieldSize 0 20 (optionJsonSize (receipts.latestRestoreDrill.map (·.jsonSize))),  -- latest_restore_drill
    prettyFieldSize 0 3 (digestJsonSize receipts.mac)]  -- mac

def documentSize (jsonSize : Nat) : Nat := jsonSize + 1

theorem decimalSize_le (value fuel : Nat) : decimalSize value fuel ≤ fuel + 1 := by
  induction fuel generalizing value with
  | zero => exact Nat.le_refl _
  | succ fuel ih =>
    unfold decimalSize
    split
    · omega
    · have := ih (value / 10)
      omega

theorem u16JsonSize_le (value : UInt16) : u16JsonSize value ≤ 21 := decimalSize_le _ _

theorem u64JsonSize_le (value : UInt64) : u64JsonSize value ≤ 21 := decimalSize_le _ _

theorem u8JsonSize_le (value : UInt8) : u8JsonSize value ≤ 21 := decimalSize_le _ _

theorem LocalCheckpoint.documentSize_le (checkpoint : LocalCheckpoint) :
    documentSize checkpoint.jsonSize ≤ MAX_CHECKPOINT_BYTES := by
  have hversion := u16JsonSize_le checkpoint.version
  have hupdated := u64JsonSize_le checkpoint.updatedAtMs
  simp only [documentSize, jsonSize, prettyObjectSize, prettyFieldSize, scopePrettySize, digestJsonSize, fixedJsonSize,
    identifierJsonSize, List.sum_cons, List.sum_nil, List.length_cons, List.length_nil, MAX_CHECKPOINT_BYTES]
  omega

theorem itemIdsPrettySize_le (itemIds : List ItemId) : itemIdsPrettySize itemIds ≤ 7 + 74 * itemIds.length := by
  have hsum : ∀ ids : List ItemId,
      ((ids.map fun _ => identifierJsonSize).map fun size => 1 + 2 * (2 + 1) + size).sum = 73 * ids.length := by
    intro ids
    induction ids with
    | nil => rfl
    | cons id ids ih =>
      rw [List.map_cons, List.map_cons, List.sum_cons, ih, List.length_cons, identifierJsonSize]
      omega
  unfold itemIdsPrettySize prettyListSize
  split
  · omega
  · rw [hsum, List.length_map]
    omega

def BackupReceiptCoverage.itemCount (coverage : BackupReceiptCoverage) : Nat :=
  coverage.directItemIds.length + coverage.witnessedItemIds.length + coverage.unavailableWitnessedItemIds.length

theorem BackupReceipt.jsonSize_le (receipt : BackupReceipt) :
    receipt.jsonSize ≤ 2048 + 74 * receipt.coverage.itemCount := by
  have htime := u64JsonSize_le receipt.timestampMs
  have hmask := u8JsonSize_le receipt.coverage.identityRoleMask
  have hdir := itemIdsPrettySize_le receipt.coverage.directItemIds
  have hwit := itemIdsPrettySize_le receipt.coverage.witnessedItemIds
  have hunavailable := itemIdsPrettySize_le receipt.coverage.unavailableWitnessedItemIds
  have hbool : ∀ flag, boolJsonSize flag ≤ 5 := by decide
  have hcur := hbool receipt.coverage.checkpointsCurrent
  have hexternal := hbool receipt.coverage.externalWitnessRecoveryRequired
  simp only [jsonSize, prettyObjectSize, prettyFieldSize, digestJsonSize, fixedJsonSize, List.sum_cons, List.sum_nil,
    List.length_cons, List.length_nil, BackupReceiptCoverage.itemCount]
  omega

-- Receipts fit as long as the last backup names no more items than a vault can have in each of its three lists.
theorem LocalReceipts.documentSize_le (receipts : LocalReceipts)
    (h : ∀ backup, receipts.latestBackup = some backup → backup.coverage.itemCount ≤ 3 * MAX_ITEMS) :
    documentSize receipts.jsonSize ≤ MAX_RECEIPTS_BYTES := by
  have hversion := u16JsonSize_le receipts.version
  have htransfer : optionJsonSize (receipts.latestTransfer.map (·.jsonSize)) ≤ 1024 := by
    cases receipts.latestTransfer with
    | none => decide
    | some receipt =>
      have htime := u64JsonSize_le receipt.timestampMs
      simp only [Option.map_some, optionJsonSize, TransferReceipt.jsonSize, prettyObjectSize, prettyFieldSize,
        digestJsonSize, fixedJsonSize, List.sum_cons, List.sum_nil, List.length_cons, List.length_nil]
      omega
  have hbackup : optionJsonSize (receipts.latestBackup.map (·.jsonSize)) ≤ 2048 + 74 * 3072 := by
    cases hlatest : receipts.latestBackup with
    | none => decide
    | some receipt =>
      have hsize := receipt.jsonSize_le
      have hcount := h receipt hlatest
      simp only [MAX_ITEMS] at hcount
      simp only [Option.map_some, optionJsonSize]
      omega
  have hverif : optionJsonSize (receipts.latestBackupVerification.map (·.jsonSize)) ≤ 1024 := by
    cases receipts.latestBackupVerification with
    | none => decide
    | some receipt =>
      have htime := u64JsonSize_le receipt.timestampMs
      simp only [Option.map_some, optionJsonSize, BackupVerificationReceipt.jsonSize, prettyObjectSize, prettyFieldSize,
        digestJsonSize, fixedJsonSize, List.sum_cons, List.sum_nil, List.length_cons, List.length_nil]
      omega
  have hdrill : optionJsonSize (receipts.latestRestoreDrill.map (·.jsonSize)) ≤ 1024 := by
    cases receipts.latestRestoreDrill with
    | none => decide
    | some receipt =>
      have htime := u64JsonSize_le receipt.timestampMs
      simp only [Option.map_some, optionJsonSize, RestoreDrillReceipt.jsonSize, prettyObjectSize, prettyFieldSize,
        digestJsonSize, fixedJsonSize, List.sum_cons, List.sum_nil, List.length_cons, List.length_nil]
      omega
  simp only [documentSize, jsonSize, prettyObjectSize, prettyFieldSize, scopePrettySize, digestJsonSize, fixedJsonSize,
    identifierJsonSize, List.sum_cons, List.sum_nil, List.length_cons, List.length_nil, MAX_RECEIPTS_BYTES]
  omega

end Jury.LocalState
