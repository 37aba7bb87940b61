import Jury.Lib.Run
import Jury.LocalState.Chain
import Jury.LocalState.Receipts

-- The local state of a principal over its whole life: it is initialized once, operations change it in place, and
-- its three files are written and read back. An operation that stops leaves the state where it stopped.
namespace Jury.LocalState

open Lib Protocol Witness

-- The keys with the one for receipts, for logs whose lines are as long as their JSON.
structure PrincipalKeys extends PrincipalLocalState where
  receiptsMac : Bytes → Digest32
  lengths : eventLength = AuditEvent.jsonSize

structure VerifiedState extends VerifiedLocalState where
  receipts : LocalReceipts
deriving DecidableEq

structure LocalStateFiles where
  audit : List AuditEvent
  checkpoint : LocalCheckpoint
  receipts : LocalReceipts
deriving DecidableEq

abbrev LocalStateM := EStateM LocalStateErrorKind VerifiedState

def parseDocument (document : α) (jsonSize maximumBytes : Nat) : Except LocalStateErrorKind α := do
  rejectIf (decide (documentSize jsonSize > maximumBytes)) .invalidFormat
  return document

def serializeDocument (document : α) (jsonSize maximumBytes : Nat) : Except LocalStateErrorKind α := do
  rejectIf (decide (documentSize jsonSize > maximumBytes)) .capacityExhausted
  return document

def CheckpointCandidate.currentSequence (candidate : CheckpointCandidate) : UInt64 :=
  UInt64.ofNat (candidate.policyHistory.length - 1)

section Initial

variable [Crypto]

def LocalCheckpoint.genesisDigest (checkpoint : LocalCheckpoint) : Digest32 :=
  sha256 (jce "jury-v1/checkpoint/genesis-digest" ++
    (u16be checkpoint.version ++
    (checkpoint.scope.principalId.asBytes.bytes ++
    (checkpoint.scope.vaultId.asBytes.bytes ++
    (checkpoint.scope.genesisFingerprint.bytes ++
    (checkpoint.acceptedPublicRevisionHash.bytes ++
    u64be checkpoint.updatedAtMs))))))

def LocalCheckpoint.initial (candidate : CheckpointCandidate) (scope : LocalStateScope) (timestampMs : UInt64) :
    Except LocalStateErrorKind LocalCheckpoint := do
  let acceptedPublicRevisionHash ← candidate.currentPolicy
  let checkpoint : LocalCheckpoint := {
    version := 1
    scope
    acceptedPublicRevisionHash
    latestAuditMac := ZERO_DIGEST
    auditGenesisDigest := ZERO_DIGEST
    updatedAtMs := timestampMs
    mac := ZERO_DIGEST }
  return { checkpoint with auditGenesisDigest := checkpoint.genesisDigest }

end Initial

def AuditLog.creation (principal : PrincipalLocalState) (policySequence : UInt64) (auditGenesisDigest : Digest32) :
    AuditEvent :=
  let event : AuditEvent := {
    version := 1
    sequence := 1
    operationId := auditGenesisDigest
    principalId := principal.scope.principalId
    vaultId := principal.scope.vaultId
    genesisFingerprint := principal.scope.genesisFingerprint
    policySequence
    action := .vaultCreateOrImport
    item := none
    outcome := .success
    witness := none
    previousMac := ZERO_DIGEST
    mac := ZERO_DIGEST }
  { event with mac := principal.auditMac event.macPreimage }

def AuditLog.initialLog (principal : PrincipalLocalState) (policySequence : UInt64) (auditGenesisDigest : Digest32) :
    Except LocalStateErrorKind AuditLog := do
  rejectIf (auditGenesisDigest == ZERO_DIGEST) .invalidFormat
  return ⟨[AuditLog.creation principal policySequence auditGenesisDigest], by simp⟩

theorem creation_jsonSize_le (principal : PrincipalLocalState) (policySequence : UInt64) (digest : Digest32) :
    (AuditLog.creation principal policySequence digest).jsonSize + 1 ≤ MAX_AUDIT_EVENT_BYTES := by
  have hseq := u64JsonSize_le policySequence
  have hone : u64JsonSize 1 = 1 := by decide
  have hversion : u16JsonSize 1 = 1 := by decide
  simp only [AuditLog.creation, AuditEvent.jsonSize, AuditAction.nameLength, AuditOutcome.jsonSize, digestJsonSize,
    fixedJsonSize, identifierJsonSize, fieldJsonSize, nameJsonSize,
    sequenceJsonSize, optionJsonSize, Option.map_none, List.sum_cons, List.sum_nil, List.length_cons,
    List.length_nil, hone, hversion, MAX_AUDIT_EVENT_BYTES]
  omega

variable [Crypto]

namespace LocalReceipts

def withMac (keys : PrincipalKeys) (receipts : LocalReceipts) : LocalReceipts :=
  { receipts with mac := keys.receiptsMac receipts.macPreimage }

def authenticate (keys : PrincipalKeys) (receipts : LocalReceipts) : Except LocalStateErrorKind LocalReceipts := do
  receipts.validateShape
  return receipts.withMac keys

def parse (keys : PrincipalKeys) (document : LocalReceipts) : Except LocalStateErrorKind LocalReceipts := do
  let receipts ← parseDocument document document.jsonSize MAX_RECEIPTS_BYTES
  receipts.validateShape
  rejectIf (receipts.scope != keys.scope) .scopeMismatch
  rejectIf (receipts.mac != keys.receiptsMac receipts.macPreimage) .authenticationFailed
  return receipts

end LocalReceipts

namespace PrincipalKeys

def ensureStateScope (keys : PrincipalKeys) (state : VerifiedState) : Except LocalStateErrorKind Unit :=
  rejectIf
    (state.checkpoint.scope != keys.scope
      || state.receipts.scope != keys.scope
      || !state.audit.matchesScope keys.scope)
    .scopeMismatch

-- The source calls it by a word that Lean keeps for itself.
def initialState (keys : PrincipalKeys) (candidate : CheckpointCandidate) (timestampMs : UInt64) :
    Except LocalStateErrorKind VerifiedState := do
  candidate.validateScope keys.scope
  let checkpoint ← LocalCheckpoint.initial candidate keys.scope timestampMs
  let audit ← AuditLog.initialLog keys.toPrincipalLocalState candidate.currentSequence checkpoint.auditGenesisDigest
  let checkpoint ← LocalCheckpoint.authenticate keys.toPrincipalLocalState
    { checkpoint with latestAuditMac := audit.latestMac }
  let receipts ← (LocalReceipts.empty keys.scope).authenticate keys
  return { audit, checkpoint, receipts, auditEventsAfterCheckpoint := 0 }

def verifyFiles (keys : PrincipalKeys) (auditFile : Option (List AuditEvent)) (checkpointFile : Option LocalCheckpoint)
    (receiptsFile : Option LocalReceipts) : Except LocalStateErrorKind VerifiedState :=
  match auditFile, checkpointFile, receiptsFile with
  | some events, some checkpoint, some receipts => do
    let audit ← AuditLog.parse keys.toPrincipalLocalState events
    let checkpoint ← parseDocument checkpoint checkpoint.jsonSize MAX_CHECKPOINT_BYTES
    let checkpoint ← checkpoint.parse keys.toPrincipalLocalState
    let receipts ← receipts.parse keys
    rejectIf (audit.auditGenesisDigest != checkpoint.auditGenesisDigest) .auditTampered
    let checkpointIndex ← orReject (audit.macIndex checkpoint.latestAuditMac) .auditTampered
    return { audit, checkpoint, receipts, auditEventsAfterCheckpoint := audit.events.length - (checkpointIndex + 1) }
  | _, _, _ => .error .incompleteState

-- The event stays in the log when the checkpoint cannot be brought up to it.
def appendEvent (keys : PrincipalKeys) (draft : AuditEventDraft) : LocalStateM Unit := do
  let state ← get
  check (keys.ensureStateScope state)
  let audit ← check (state.audit.append keys.toPrincipalLocalState draft)
  set { state with audit }
  let checkpoint ← check (state.checkpoint.recordAudit audit.latestMac draft.timestampMs)
  set { state with audit, checkpoint }
  let checkpoint ← check (checkpoint.authenticate keys.toPrincipalLocalState)
  set { state with audit, checkpoint, auditEventsAfterCheckpoint := 0 }

def acceptAuditTail (keys : PrincipalKeys) (timestampMs : UInt64) : LocalStateM Unit := do
  let state ← get
  check (keys.ensureStateScope state)
  if state.auditEventsAfterCheckpoint = 0 then return ()
  else
    let checkpoint ← check (state.checkpoint.recordAudit state.audit.latestMac timestampMs)
    set { state with checkpoint }
    let checkpoint ← check (checkpoint.authenticate keys.toPrincipalLocalState)
    set { state with checkpoint, auditEventsAfterCheckpoint := 0 }

def acceptCandidate (keys : PrincipalKeys) (candidate : CheckpointCandidate) (timestampMs : UInt64) :
    LocalStateM CheckpointRelation := do
  let state ← get
  check (keys.ensureStateScope state)
  check (candidate.validateScope keys.scope)
  let relation ← check (candidate.relationTo state.checkpoint)
  match relation with
  | .equal => return relation
  | .strictDescendant =>
    let checkpoint ← check (state.checkpoint.advance candidate timestampMs)
    set { state with checkpoint }
    let checkpoint ← check (checkpoint.authenticate keys.toPrincipalLocalState)
    set { state with checkpoint }
    return relation
  | .divergent => throw .checkpointDiverged

-- What a receipt has to agree with: the accepted public state, or the backup it is about.
def validateUpdate (state : VerifiedState) : ReceiptUpdate → Except LocalStateErrorKind Unit
  | .transfer receipt =>
    rejectIf (receipt.capturedPublicRevisionHash != state.checkpoint.acceptedPublicRevisionHash) .invalidFormat
  | .backup receipt =>
    rejectIf (receipt.capturedPublicRevisionHash != state.checkpoint.acceptedPublicRevisionHash) .invalidFormat
  | .backupVerification receipt => do
    let backup ← orReject state.receipts.latestBackup .invalidFormat
    rejectIf
      (receipt.backupId != backup.backupId
        || receipt.capturedPublicRevisionHash != backup.capturedPublicRevisionHash
        || receipt.payloadDigest != backup.payloadDigest)
      .invalidFormat
  | .restoreDrill receipt => do
    let backup ← orReject state.receipts.latestBackup .invalidFormat
    rejectIf
      (receipt.backupId != backup.backupId
        || receipt.capturedPublicRevisionHash != backup.capturedPublicRevisionHash)
      .invalidFormat

def recordReceipt (keys : PrincipalKeys) (update : ReceiptUpdate) : LocalStateM Unit := do
  let state ← get
  check (keys.ensureStateScope state)
  check (validateUpdate state update)
  let receipts ← check (state.receipts.update update)
  set { state with receipts }
  let receipts ← check (receipts.authenticate keys)
  set { state with receipts }

def serialize (keys : PrincipalKeys) (state : VerifiedState) : Except LocalStateErrorKind LocalStateFiles := do
  keys.ensureStateScope state
  let checkpoint ← serializeDocument state.checkpoint state.checkpoint.jsonSize MAX_CHECKPOINT_BYTES
  let receipts ← serializeDocument state.receipts state.receipts.jsonSize MAX_RECEIPTS_BYTES
  return { audit := state.audit.events, checkpoint, receipts }

end PrincipalKeys

-- The calls that change a state, and the machine they drive.
inductive LocalCall where
  | appendEvent (draft : AuditEventDraft)
  | acceptAuditTail (timestampMs : UInt64)
  | acceptCandidate (candidate : CheckpointCandidate) (timestampMs : UInt64)
  | recordReceipt (update : ReceiptUpdate)

def PrincipalKeys.left (keys : PrincipalKeys) (state : VerifiedState) : LocalCall → VerifiedState
  | .appendEvent draft => finalState (keys.appendEvent draft state)
  | .acceptAuditTail timestampMs => finalState (keys.acceptAuditTail timestampMs state)
  | .acceptCandidate candidate timestampMs => finalState (keys.acceptCandidate candidate timestampMs state)
  | .recordReceipt update => finalState (keys.recordReceipt update state)

def PrincipalKeys.calls (keys : PrincipalKeys) : Machine VerifiedState LocalCall Unit where
  step state call := ((), keys.left state call)

-- What the code does not see to: an event that the log takes is one that the checkpoint can record, and receipts
-- that are taken can be written.
def CallKeeps (keys : PrincipalKeys) (state : VerifiedState) : LocalCall → Prop
  | .appendEvent draft => ∀ audit, state.audit.append keys.toPrincipalLocalState draft = .ok audit →
      state.checkpoint.updatedAtMs ≤ draft.timestampMs ∧ audit.latestMac ≠ ZERO_DIGEST
  | .recordReceipt update => ∀ receipts, PrincipalKeys.validateUpdate state update = .ok () →
      state.receipts.update update = .ok receipts → documentSize receipts.jsonSize ≤ MAX_RECEIPTS_BYTES
  | _ => True

structure ReceiptsSound (keys : PrincipalKeys) (receipts : LocalReceipts) : Prop where
  shape : receipts.validateShape = .ok ()
  scope : receipts.scope = keys.scope
  mac : receipts.mac = keys.receiptsMac receipts.macPreimage

structure StateSound (keys : PrincipalKeys) (state : VerifiedState) : Prop where
  files : FilesSound keys.toPrincipalLocalState state.audit state.checkpoint
  receipts : ReceiptsSound keys state.receipts
  fits : documentSize state.receipts.jsonSize ≤ MAX_RECEIPTS_BYTES
  counted : state.auditEventsAfterCheckpoint = state.audit.eventsAfter state.checkpoint.latestAuditMac

section Verified

variable {keys : PrincipalKeys}

theorem receipts_parse_eq_ok {document receipts : LocalReceipts} :
    document.parse keys = .ok receipts ↔
      receipts = document ∧ ReceiptsSound keys document ∧ documentSize document.jsonSize ≤ MAX_RECEIPTS_BYTES := by
  simp only [LocalReceipts.parse, parseDocument, eq_ok, passed, Nat.not_lt, gt_iff_lt]
  constructor
  · rintro ⟨_, ⟨-, hfits, rfl⟩, _, hshape, -, hscope, -, hmac, rfl⟩
    exact ⟨rfl, ⟨hshape, hscope, hmac⟩, hfits⟩
  · rintro ⟨rfl, hsound, hfits⟩
    exact ⟨_, ⟨(), hfits, rfl⟩, (), hsound.shape, (), hsound.scope, (), hsound.mac, rfl⟩

theorem PrincipalKeys.verifyFiles_eq_ok {receipts : LocalReceipts} :
    keys.verifyFiles (some events) (some checkpoint) (some receipts) = .ok state ↔
      ∃ audit, audit.events = events ∧ FilesSound keys.toPrincipalLocalState audit checkpoint ∧
        ReceiptsSound keys receipts ∧ documentSize receipts.jsonSize ≤ MAX_RECEIPTS_BYTES ∧
        state = ⟨⟨audit, checkpoint, audit.eventsAfter checkpoint.latestAuditMac⟩, receipts⟩ := by
  simp only [PrincipalKeys.verifyFiles, parseDocument, LocalCheckpoint.parse, eq_ok, passed, Nat.not_lt, gt_iff_lt,
    receipts_parse_eq_ok]
  constructor
  · rintro ⟨audit, haudit, _, ⟨-, -, rfl⟩, _, ⟨_, hshape, -, hscope, -, hmac, rfl⟩, _, ⟨rfl, hrcpts, hfits⟩, -,
      hgen, index, hindex, rfl⟩
    obtain rfl := parse_events haudit
    refine ⟨audit, rfl, ⟨haudit, hshape, hscope, hmac, hgen, macIndex_recorded.mp ⟨index, hindex⟩⟩, hrcpts, hfits, ?_⟩
    simp only [AuditLog.eventsAfter, hindex]
  · rintro ⟨audit, rfl, h, hrcpts, hfits, rfl⟩
    obtain ⟨index, hindex⟩ := macIndex_recorded.mpr h.recorded
    refine ⟨audit, h.parsed, checkpoint, ⟨(), checkpoint.documentSize_le, rfl⟩, checkpoint,
      ⟨(), h.shape, (), h.scope, (), h.mac, rfl⟩, receipts, ⟨rfl, hrcpts, hfits⟩, (), h.genesis, index, hindex, ?_⟩
    simp only [AuditLog.eventsAfter, hindex]

theorem StateSound.ensureStateScope (h : StateSound keys state) : keys.ensureStateScope state = .ok () := by
  simp [PrincipalKeys.ensureStateScope, h.files.scope, h.receipts.scope, parse_matchesScope h.files.parsed]

end Verified

end Jury.LocalState
