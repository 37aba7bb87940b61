import Jury.LocalState.Candidate

-- The audit log of one principal: a chain of authenticated events that only grows. A log file is read here
-- as the list of the events on its lines.
namespace Jury.LocalState

open Lib Protocol

def MAX_AUDIT_BYTES : Nat := 256 * 1024 * 1024
def MAX_AUDIT_EVENT_BYTES : Nat := 4 * 1024
def MAX_AUDIT_EVENTS : Nat := 524288
def MAX_PERMITTED_ITEM_NAME_BYTES : Nat := 256

inductive AuditAction where
  | vaultCreateOrImport
  | identityAction
  | policyMutation
  | itemMutation
  | itemRead
  | transfer
  | backup
  | restore
  | executeOrInject
  | witnessRequest
  | verification
  | privacyCover
deriving DecidableEq

def AuditAction.tag : AuditAction → UInt8
  | vaultCreateOrImport => 1
  | identityAction => 2
  | policyMutation => 3
  | itemMutation => 4
  | itemRead => 5
  | transfer => 6
  | backup => 7
  | restore => 8
  | executeOrInject => 9
  | witnessRequest => 10
  | verification => 11
  | privacyCover => 12

inductive AuditFailureStage where
  | publicSyntax
  | authorization
  | privateAuthentication
  | execution
  | mutation
  | durableCommit
deriving DecidableEq

def AuditFailureStage.tag : AuditFailureStage → UInt8
  | publicSyntax => 1
  | authorization => 2
  | privateAuthentication => 3
  | mutation => 4
  | durableCommit => 5
  | execution => 6

inductive AuditOutcome where
  | success
  | denied
  | cancelled
  | failed (stage : AuditFailureStage)
deriving DecidableEq

def AuditOutcome.tags : AuditOutcome → List UInt8
  | success => [1, 0]
  | denied => [2, 0]
  | cancelled => [3, 0]
  | failed stage => [4, stage.tag]

structure AuditItemScope where
  itemId : ItemId
  permittedItemName : Option String
deriving DecidableEq

structure WitnessAuditLink where
  requestDigest : Digest32
  decisionDigest : Option Digest32
  receiptDigest : Option Digest32
  policyRevisionHash : Digest32
  revisionSealId : RevisionSealId
deriving DecidableEq

structure AuditEventDraft where
  timestampMs : UInt64
  operationId : Digest32
  policySequence : UInt64
  action : AuditAction
  outcome : AuditOutcome
  item : Option AuditItemScope
  witness : Option WitnessAuditLink
deriving DecidableEq

structure AuditEvent where
  version : UInt16
  sequence : UInt64
  operationId : Digest32
  principalId : PrincipalId
  vaultId : VaultId
  genesisFingerprint : Digest32
  policySequence : UInt64
  action : AuditAction
  item : Option AuditItemScope
  outcome : AuditOutcome
  witness : Option WitnessAuditLink
  previousMac : Digest32
  mac : Digest32
deriving DecidableEq

structure LocalStateScope where
  vaultId : VaultId
  genesisFingerprint : Digest32
  principalId : PrincipalId
deriving DecidableEq

-- The keyed state of one principal in one vault. The three keys are derived from the identity and only used
-- to authenticate, so that they are the functions here that they are used as; how long a line of the log is
-- and which receipts are accepted is decided by code that a commit does not change.
structure PrincipalLocalState where
  scope : LocalStateScope
  auditMac : Bytes → Digest32
  checkpointMac : Bytes → Digest32
  eventLength : AuditEvent → Nat
  parseReceipts : Bytes → Except LocalStateErrorKind Unit

-- A log is never empty: it starts with the event that created or imported the vault.
structure AuditLog where
  events : List AuditEvent
  nonempty : events ≠ []
deriving DecidableEq

def digestBytes : Option Digest32 → Bytes
  | none => octets [0]
  | some digest => octets [1] ++ digest.bytes

namespace AuditEvent

def matchesScope (event : AuditEvent) (scope : LocalStateScope) : Bool :=
  event.vaultId == scope.vaultId
    && event.genesisFingerprint == scope.genesisFingerprint
    && event.principalId == scope.principalId

def itemBytes : Option AuditItemScope → Bytes
  | none => octets [0]
  | some item => octets [1] ++ item.itemId.asBytes.bytes

def nameBytes (name : Option String) : Bytes :=
  match name with
  | none => octets [0]
  | some name => octets [1] ++ (u32be (UInt32.ofNat (utf8 name).length) ++ utf8 name)

def macPreimage (event : AuditEvent) : Bytes :=
  jce "jury-v1/audit/event-mac" ++
  (u16be event.version ++
  (event.principalId.asBytes.bytes ++
  (event.vaultId.asBytes.bytes ++
  (event.genesisFingerprint.bytes ++
  (u64be event.policySequence ++
  (event.operationId.bytes ++
  (octets [event.action.tag] ++
  (itemBytes event.item ++
  (nameBytes (event.item.bind (·.permittedItemName)) ++
  (octets event.outcome.tags ++
  event.previousMac.bytes))))))))))

end AuditEvent

section Shape

variable [Crypto]

def WitnessAuditLink.operationId (link : WitnessAuditLink) : Digest32 :=
  sha256 (jce "jury-v1/audit/witness-link" ++
    (link.requestDigest.bytes ++
    (digestBytes link.decisionDigest ++
    (digestBytes link.receiptDigest ++
    (link.policyRevisionHash.bytes ++
    link.revisionSealId.asBytes.bytes)))))

namespace AuditEvent

def validateAction (event : AuditEvent) : Except LocalStateErrorKind Unit :=
  match event.action with
  | .vaultCreateOrImport =>
    rejectIf
      (event.sequence != 1
        || event.outcome != .success
        || event.item.isSome
        || event.witness.isSome
        || event.previousMac != ZERO_DIGEST)
      .invalidFormat
  | .itemRead => rejectIf (event.item.isNone || event.witness.isSome) .invalidFormat
  | .witnessRequest => validateWitnessed event
  | .verification => if event.item.isNone && event.witness.isNone then return () else validateWitnessed event
  | _ => rejectIf event.witness.isSome .invalidFormat
where
  validateWitnessed (event : AuditEvent) : Except LocalStateErrorKind Unit :=
    rejectIf
      (event.witness.isNone
        || event.item.isNone
        || (event.item.bind (·.permittedItemName)).isSome)
      .invalidFormat

def validateShape (event : AuditEvent) : Except LocalStateErrorKind Unit := do
  rejectIf (event.version != 1 || event.sequence == 0 || event.operationId == ZERO_DIGEST) .invalidFormat
  rejectIf
    ((event.item.bind (·.permittedItemName)).any fun name =>
      name.isEmpty || decide ((utf8 name).length > MAX_PERMITTED_ITEM_NAME_BYTES))
    .invalidFormat
  event.validateAction
  rejectIf
    (event.witness.any fun link =>
      link.requestDigest == ZERO_DIGEST
        || link.policyRevisionHash == ZERO_DIGEST
        || link.decisionDigest.any (· == ZERO_DIGEST)
        || link.receiptDigest.any (· == ZERO_DIGEST)
        || event.operationId != link.operationId)
    .invalidFormat

end AuditEvent

end Shape

namespace AuditLog

def latestMac (log : AuditLog) : Digest32 := (log.events.getLast log.nonempty).mac

def auditGenesisDigest (log : AuditLog) : Digest32 := (log.events.head log.nonempty).operationId

def macIndex (log : AuditLog) (mac : Digest32) : Option Nat := log.events.findIdx? fun event => event.mac == mac

def containsOperation (log : AuditLog) (operationId : Digest32) : Bool :=
  log.events.any fun event => event.operationId == operationId

def matchesScope (log : AuditLog) (scope : LocalStateScope) : Bool := (log.events.head log.nonempty).matchesScope scope

def encodedLength (principal : PrincipalLocalState) (events : List AuditEvent) : Nat :=
  (events.map fun event => principal.eventLength event + 1).sum

variable [Crypto]

def parseEvent (principal : PrincipalLocalState) (previousMac : Digest32) (entry : AuditEvent × Nat) :
    Except LocalStateErrorKind Digest32 := do
  let (event, index) := entry
  rejectIf
    (decide (principal.eventLength event + 1 > MAX_AUDIT_EVENT_BYTES) || decide (index ≥ MAX_AUDIT_EVENTS))
    .auditTampered
  rejectIf
    (event.sequence != UInt64.ofNat (index + 1)
      || event.previousMac != previousMac
      || !event.matchesScope principal.scope
      || !event.validateShape.isOk)
    .auditTampered
  rejectIf (event.mac != principal.auditMac event.macPreimage) .auditTampered
  return event.mac

def parse (principal : PrincipalLocalState) (events : List AuditEvent) : Except LocalStateErrorKind AuditLog :=
  if h : events = [] then .error .invalidFormat
  else do
    rejectIf (decide (encodedLength principal events > MAX_AUDIT_BYTES)) .invalidFormat
    let _ ← events.zipIdx.foldlM (parseEvent principal) ZERO_DIGEST
    rejectIf ((events.head h).action != .vaultCreateOrImport || (events.head h).outcome != .success) .auditTampered
    return ⟨events, h⟩

def eventOf (principal : PrincipalLocalState) (log : AuditLog) (draft : AuditEventDraft) : AuditEvent :=
  let event : AuditEvent := {
    version := 1
    sequence := UInt64.ofNat (log.events.length + 1)
    operationId := draft.operationId
    principalId := principal.scope.principalId
    vaultId := principal.scope.vaultId
    genesisFingerprint := principal.scope.genesisFingerprint
    policySequence := draft.policySequence
    action := draft.action
    item := draft.item
    outcome := draft.outcome
    witness := draft.witness
    previousMac := log.latestMac
    mac := ZERO_DIGEST }
  { event with mac := principal.auditMac event.macPreimage }

def append (principal : PrincipalLocalState) (log : AuditLog) (draft : AuditEventDraft) :
    Except LocalStateErrorKind AuditLog := do
  rejectIf
    (decide (log.events.length ≥ MAX_AUDIT_EVENTS)
      || draft.timestampMs == 0
      || draft.operationId == ZERO_DIGEST
      || draft.action == .vaultCreateOrImport)
    .invalidFormat
  let event := eventOf principal log draft
  event.validateShape
  rejectIf (decide (principal.eventLength event + 1 > MAX_AUDIT_EVENT_BYTES)) .capacityExhausted
  rejectIf (decide (encodedLength principal (log.events ++ [event]) > MAX_AUDIT_BYTES)) .capacityExhausted
  return ⟨log.events ++ [event], by simp⟩

end AuditLog

theorem AuditLog.ext_events {a b : AuditLog} (h : a.events = b.events) : a = b := by
  cases a
  cases b
  cases h
  rfl

section Append

variable [Crypto] {log : AuditLog} {events : List AuditEvent}

open AuditLog

theorem parseEvents_latest (h : events.zipIdx.foldlM (parseEvent principal) ZERO_DIGEST = .ok mac)
    (hne : events ≠ []) : mac = (events.getLast hne).mac := by
  induction events using List.reverseRecOn generalizing mac with
  | nil => exact absurd rfl hne
  | append_singleton events last _ =>
    rw [List.zipIdx_append] at h
    obtain ⟨before, -, hlast⟩ := foldlM_append_eq_ok.mp h
    obtain ⟨reached, hreach, hend⟩ := foldlM_cons_eq_ok.mp hlast
    obtain rfl := Except.ok.inj hend
    simp only [parseEvent, eq_ok] at hreach
    obtain ⟨-, -, -, -, -, -, rfl⟩ := hreach
    simp

theorem parse_events (h : parse principal events = .ok log) : log.events = events := by
  unfold parse at h
  split at h
  · cases h
  · simp only [eq_ok] at h
    obtain ⟨-, -, -, -, -, -, rfl⟩ := h
    rfl

theorem append_eq_ok (h : log.append principal draft = .ok out) :
    out.events = log.events ++ [log.eventOf principal draft] := by
  simp only [append, eq_ok] at h
  obtain ⟨-, -, -, -, -, -, -, -, rfl⟩ := h
  rfl

-- What is written behind a log that reads back reads back with it.
theorem parse_append (hlog : parse principal log.events = .ok log) (h : log.append principal draft = .ok out) :
    parse principal out.events = .ok out := by
  have hevents := append_eq_ok h
  simp only [append, eq_ok, passed, not_le, not_lt] at h
  obtain ⟨-, ⟨⟨⟨hcount, -⟩, -⟩, -⟩, _, hshape, -, hline, -, htotal, -⟩ := h
  simp only [parse, dif_neg log.nonempty, eq_ok] at hlog
  obtain ⟨-, -, mac, hscan, -, hfirst, -⟩ := hlog
  have hmac : mac = log.latestMac := parseEvents_latest hscan log.nonempty
  have hevent : parseEvent principal mac (log.eventOf principal draft, log.events.length) =
      .ok (log.eventOf principal draft).mac := by
    simp only [parseEvent, eq_ok, passed, not_le, not_lt]
    refine ⟨(), ⟨hline, hcount⟩, (), ⟨⟨⟨rfl, hmac.symm⟩, ?_⟩, ?_⟩, (), rfl, trivial⟩
    · simp [eventOf, AuditEvent.matchesScope]
    · rw [hshape]
      rfl
  have hzip : out.events.zipIdx = log.events.zipIdx ++ [(log.eventOf principal draft, log.events.length)] := by
    rw [hevents, List.zipIdx_append]
    simp
  simp only [parse, dif_neg out.nonempty, eq_ok, hzip]
  refine ⟨(), ?_, (log.eventOf principal draft).mac, ?_, (), ?_, trivial⟩
  · simpa [hevents] using htotal
  · exact foldlM_append_eq_ok.mpr ⟨mac, hscan, foldlM_cons_eq_ok.mpr ⟨_, hevent, rfl⟩⟩
  · have hhead : out.events.head out.nonempty = log.events.head log.nonempty := by
      simp only [hevents, List.head_append_of_ne_nil log.nonempty]
    rw [hhead]
    exact hfirst

end Append

end Jury.LocalState
