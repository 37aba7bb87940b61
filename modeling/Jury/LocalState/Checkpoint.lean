import Jury.LocalState.Audit

-- The rollback checkpoint of a principal and the operations on verified local state: events are recorded, and
-- the public state that has been accepted is only ever replaced by one that descends from it.
namespace Jury.LocalState

open Lib Protocol List

inductive CheckpointRelation where
  | equal
  | strictDescendant
  | divergent
deriving DecidableEq

structure LocalCheckpoint where
  version : UInt16
  scope : LocalStateScope
  acceptedPublicRevisionHash : Digest32
  latestAuditMac : Digest32
  auditGenesisDigest : Digest32
  updatedAtMs : UInt64
  mac : Digest32
deriving DecidableEq

namespace LocalCheckpoint

def macPreimage (checkpoint : LocalCheckpoint) : Bytes :=
  jce "jury-v1/checkpoint/file-mac" ++
  (u16be checkpoint.version ++
  (checkpoint.scope.principalId.asBytes.bytes ++
  (checkpoint.scope.vaultId.asBytes.bytes ++
  (checkpoint.scope.genesisFingerprint.bytes ++
  (checkpoint.acceptedPublicRevisionHash.bytes ++
  (checkpoint.latestAuditMac.bytes ++
  (checkpoint.auditGenesisDigest.bytes ++
  u64be checkpoint.updatedAtMs)))))))

def validateShape (checkpoint : LocalCheckpoint) : Except LocalStateErrorKind Unit :=
  rejectIf
    (checkpoint.version != 1
      || checkpoint.updatedAtMs == 0
      || checkpoint.acceptedPublicRevisionHash == ZERO_DIGEST
      || checkpoint.latestAuditMac == ZERO_DIGEST
      || checkpoint.auditGenesisDigest == ZERO_DIGEST)
    .invalidFormat

def parse (principal : PrincipalLocalState) (checkpoint : LocalCheckpoint) :
    Except LocalStateErrorKind LocalCheckpoint := do
  checkpoint.validateShape
  rejectIf (checkpoint.scope != principal.scope) .scopeMismatch
  rejectIf (checkpoint.mac != principal.checkpointMac checkpoint.macPreimage) .authenticationFailed
  return checkpoint

def withMac (principal : PrincipalLocalState) (checkpoint : LocalCheckpoint) : LocalCheckpoint :=
  { checkpoint with mac := principal.checkpointMac checkpoint.macPreimage }

def authenticate (principal : PrincipalLocalState) (checkpoint : LocalCheckpoint) :
    Except LocalStateErrorKind LocalCheckpoint := do
  checkpoint.validateShape
  return checkpoint.withMac principal

def recordAudit (checkpoint : LocalCheckpoint) (latestAuditMac : Digest32) (timestampMs : UInt64) :
    Except LocalStateErrorKind LocalCheckpoint := do
  rejectIf (decide (timestampMs < checkpoint.updatedAtMs) || latestAuditMac == ZERO_DIGEST) .invalidFormat
  return { checkpoint with latestAuditMac, updatedAtMs := timestampMs }

end LocalCheckpoint

namespace CheckpointCandidate

-- Sequences count up from zero by construction, so that only the hashes are left to look at.
def validateScope (candidate : CheckpointCandidate) (scope : LocalStateScope) : Except LocalStateErrorKind Unit :=
  rejectIf
    (candidate.vaultId != scope.vaultId
      || candidate.genesisFingerprint != scope.genesisFingerprint
      || !candidate.principals.contains scope.principalId
      || candidate.policyHistory.isEmpty
      || candidate.policyHistory.any (· == ZERO_DIGEST))
    .scopeMismatch

def currentPolicy (candidate : CheckpointCandidate) : Except LocalStateErrorKind Digest32 :=
  orReject candidate.policyHistory.getLast? .invalidFormat

def relationTo (candidate : CheckpointCandidate) (checkpoint : LocalCheckpoint) :
    Except LocalStateErrorKind CheckpointRelation :=
  if candidate.vaultId != checkpoint.scope.vaultId
      || candidate.genesisFingerprint != checkpoint.scope.genesisFingerprint then .ok .divergent
  else do
    let currentHash ← orReject candidate.policyHistory.getLast? .invalidFormat
    if currentHash = checkpoint.acceptedPublicRevisionHash then return .equal
    else
      let retained := candidate.policyHistory.findIdx? (· == checkpoint.acceptedPublicRevisionHash)
      return if retained.any fun sequence => decide (sequence < candidate.policyHistory.length - 1)
        then .strictDescendant else .divergent

end CheckpointCandidate

def LocalCheckpoint.advance (checkpoint : LocalCheckpoint) (candidate : CheckpointCandidate) (timestampMs : UInt64) :
    Except LocalStateErrorKind LocalCheckpoint := do
  rejectIf (decide (timestampMs < checkpoint.updatedAtMs)) .invalidFormat
  let acceptedPublicRevisionHash ← candidate.currentPolicy
  return { checkpoint with acceptedPublicRevisionHash, updatedAtMs := timestampMs }

-- Receipts are left out of the verified state: no mutation touches them.
structure VerifiedLocalState where
  audit : AuditLog
  checkpoint : LocalCheckpoint
  auditEventsAfterCheckpoint : Nat
deriving DecidableEq

namespace PrincipalLocalState

def ensureStateScope (principal : PrincipalLocalState) (state : VerifiedLocalState) : Except LocalStateErrorKind Unit :=
  rejectIf (state.checkpoint.scope != principal.scope || !state.audit.matchesScope principal.scope) .scopeMismatch

def acceptAuditTail (principal : PrincipalLocalState) (state : VerifiedLocalState) (timestampMs : UInt64) :
    Except LocalStateErrorKind VerifiedLocalState := do
  principal.ensureStateScope state
  if state.auditEventsAfterCheckpoint = 0 then return state
  else
    let checkpoint ← state.checkpoint.recordAudit state.audit.latestMac timestampMs
    let checkpoint ← checkpoint.authenticate principal
    return { state with checkpoint, auditEventsAfterCheckpoint := 0 }

def acceptCandidate (principal : PrincipalLocalState) (state : VerifiedLocalState) (candidate : CheckpointCandidate)
    (timestampMs : UInt64) : Except LocalStateErrorKind (CheckpointRelation × VerifiedLocalState) := do
  principal.ensureStateScope state
  candidate.validateScope principal.scope
  let relation ← candidate.relationTo state.checkpoint
  match relation with
  | .equal => return (relation, state)
  | .strictDescendant =>
    let checkpoint ← state.checkpoint.advance candidate timestampMs
    let checkpoint ← checkpoint.authenticate principal
    return (relation, { state with checkpoint })
  | .divergent => .error .checkpointDiverged

variable [Crypto]

def verifyFiles (principal : PrincipalLocalState) (auditFile : Option (List AuditEvent))
    (checkpointFile : Option LocalCheckpoint) (receiptsFile : Option Bytes) :
    Except LocalStateErrorKind VerifiedLocalState :=
  match auditFile, checkpointFile, receiptsFile with
  | some events, some checkpoint, some receipts => do
    let audit ← AuditLog.parse principal events
    let checkpoint ← checkpoint.parse principal
    principal.parseReceipts receipts
    rejectIf (audit.auditGenesisDigest != checkpoint.auditGenesisDigest) .auditTampered
    let checkpointIndex ← orReject (audit.macIndex checkpoint.latestAuditMac) .auditTampered
    return { audit, checkpoint, auditEventsAfterCheckpoint := audit.events.length - (checkpointIndex + 1) }
  | _, _, _ => .error .incompleteState

def appendEvent (principal : PrincipalLocalState) (state : VerifiedLocalState) (draft : AuditEventDraft) :
    Except LocalStateErrorKind VerifiedLocalState := do
  principal.ensureStateScope state
  let audit ← state.audit.append principal draft
  let checkpoint ← state.checkpoint.recordAudit audit.latestMac draft.timestampMs
  let checkpoint ← checkpoint.authenticate principal
  return { audit, checkpoint, auditEventsAfterCheckpoint := 0 }

end PrincipalLocalState

def AuditLog.eventsAfter (audit : AuditLog) (mac : Digest32) : Nat :=
  match audit.macIndex mac with
  | some index => audit.events.length - (index + 1)
  | none => 0

theorem macIndex_recorded {audit : AuditLog} {mac : Digest32} :
    (∃ index, audit.macIndex mac = some index) ↔ ∃ event ∈ audit.events, event.mac = mac := by
  rw [← Option.isSome_iff_exists, AuditLog.macIndex, findIdx?_isSome, any_eq_true]
  exact exists_congr fun event => and_congr_right fun _ => beq_iff_eq

section Sound

variable [Crypto] {principal : PrincipalLocalState} {out : VerifiedLocalState} {timestamp : UInt64}

structure FilesSound (principal : PrincipalLocalState) (audit : AuditLog) (checkpoint : LocalCheckpoint) : Prop where
  parsed : AuditLog.parse principal audit.events = .ok audit
  shape : checkpoint.validateShape = .ok ()
  scope : checkpoint.scope = principal.scope
  mac : checkpoint.mac = principal.checkpointMac checkpoint.macPreimage
  genesis : audit.auditGenesisDigest = checkpoint.auditGenesisDigest
  recorded : ∃ event ∈ audit.events, event.mac = checkpoint.latestAuditMac

theorem verifyFiles_eq_ok :
    principal.verifyFiles (some events) (some checkpoint) (some receipts) = .ok state ↔
      ∃ audit, audit.events = events ∧ FilesSound principal audit checkpoint ∧
        principal.parseReceipts receipts = .ok () ∧
        state = ⟨audit, checkpoint, audit.eventsAfter checkpoint.latestAuditMac⟩ := by
  simp only [PrincipalLocalState.verifyFiles, LocalCheckpoint.parse, eq_ok, bne_eq_false_iff_eq]
  constructor
  · rintro ⟨audit, haudit, _, ⟨_, hshape, -, hscope, -, hmac, rfl⟩, _, hrcpts, -, hgen, index, hindex, rfl⟩
    obtain rfl := parse_events haudit
    refine ⟨audit, rfl, ⟨haudit, hshape, hscope, hmac, hgen, macIndex_recorded.mp ⟨index, hindex⟩⟩, hrcpts, ?_⟩
    simp only [AuditLog.eventsAfter, hindex]
  · rintro ⟨audit, rfl, h, hrcpts, rfl⟩
    obtain ⟨index, hindex⟩ := macIndex_recorded.mpr h.recorded
    refine ⟨audit, h.parsed, checkpoint, ⟨(), h.shape, (), h.scope, (), h.mac, rfl⟩, (), hrcpts, (), h.genesis,
      index, hindex, ?_⟩
    simp only [AuditLog.eventsAfter, hindex]

theorem parse_matchesScope {audit : AuditLog} (h : AuditLog.parse principal audit.events = .ok audit) :
    audit.matchesScope principal.scope = true := by
  simp only [AuditLog.parse, dif_neg audit.nonempty, bind_eq_ok] at h
  obtain ⟨-, -, mac, hscan, -⟩ := h
  have hall := foldlM_forall (Q := fun entry => entry.1.matchesScope principal.scope = true)
    (fun entry before after hround => ?_) hscan
  · refine hall (audit.events.head audit.nonempty, 0) (mem_zipIdx_iff_getElem?.mpr ?_)
    rw [← head?_eq_getElem?, head?_eq_some_head audit.nonempty]
  · simp only [AuditLog.parseEvent, eq_ok, passed] at hround
    obtain ⟨-, -, -, ⟨⟨-, hscope⟩, -⟩, -⟩ := hround
    exact hscope

theorem FilesSound.ensureStateScope (h : FilesSound principal audit checkpoint) :
    principal.ensureStateScope ⟨audit, checkpoint, behind⟩ = .ok () := by
  simp [PrincipalLocalState.ensureStateScope, h.scope, parse_matchesScope h.parsed]

end Sound

variable {candidate : CheckpointCandidate} {checkpoint : LocalCheckpoint}

theorem validateScope_eq_ok {scope : LocalStateScope} : candidate.validateScope scope = .ok u ↔
      candidate.vaultId = scope.vaultId ∧ candidate.genesisFingerprint = scope.genesisFingerprint ∧
        candidate.principals.contains scope.principalId = true ∧ candidate.policyHistory ≠ [] ∧
        ZERO_DIGEST ∉ candidate.policyHistory := by
  simp only [CheckpointCandidate.validateScope, rejectIf_eq_ok, passed, isEmpty_eq_false_iff, any_eq_false,
    beq_iff_eq, and_assoc]
  refine and_congr_right fun _ => and_congr_right fun _ => and_congr_right fun _ => and_congr_right fun _ => ?_
  exact ⟨fun h hzero => h _ hzero rfl, fun h hash hmem heq => h (heq ▸ hmem)⟩

-- A candidate of the same vault is compared by the place that the accepted hash has in its history.
theorem relationTo_eq (hvault : candidate.vaultId = checkpoint.scope.vaultId)
    (hgen : candidate.genesisFingerprint = checkpoint.scope.genesisFingerprint)
    (hlast : candidate.policyHistory.getLast? = some last) : candidate.relationTo checkpoint = .ok
      (if last = checkpoint.acceptedPublicRevisionHash then .equal
        else if checkpoint.acceptedPublicRevisionHash ∈ candidate.policyHistory then .strictDescendant
        else .divergent) := by
  simp only [CheckpointCandidate.relationTo, hvault, hgen, bne_self_eq_false, Bool.or_self, Bool.false_eq_true,
    if_false, eq_ok]
  refine ⟨last, hlast, ?_⟩
  by_cases hequal : last = checkpoint.acceptedPublicRevisionHash
  · simp only [hequal, if_true]
    rfl
  · simp only [hequal, if_false]
    by_cases hmem : checkpoint.acceptedPublicRevisionHash ∈ candidate.policyHistory
    · have hfound : (candidate.policyHistory.findIdx? (· == checkpoint.acceptedPublicRevisionHash)).isSome = true := by
        rw [findIdx?_isSome, any_eq_true]
        exact ⟨_, hmem, beq_self_eq_true _⟩
      obtain ⟨index, hindex⟩ := Option.isSome_iff_exists.mp hfound
      obtain ⟨hlt, hmatch, -⟩ := findIdx?_eq_some_iff_getElem.mp hindex
      have hinner : index < candidate.policyHistory.length - 1 := by
        rcases Nat.lt_or_ge index (candidate.policyHistory.length - 1) with h | h
        · exact h
        · have heq : index = candidate.policyHistory.length - 1 := by omega
          rw [getLast?_eq_getElem?, ← heq, getElem?_eq_getElem hlt, Option.some.injEq] at hlast
          exact absurd (hlast.symm.trans (beq_iff_eq.mp hmatch)) hequal
      simp only [hindex, Option.any_some, decide_eq_true hinner, if_true, hmem]
      rfl
    · have hnone : candidate.policyHistory.findIdx? (· == checkpoint.acceptedPublicRevisionHash) = none := by
        rw [findIdx?_eq_none_iff]
        intro hash hhash
        exact beq_eq_false_iff_ne.mpr fun heq => hmem (heq ▸ hhash)
      simp only [hnone, Option.any_none, Bool.false_eq_true, if_false, hmem]
      rfl

theorem validateShape_eq_ok : checkpoint.validateShape = .ok u ↔
      checkpoint.version = 1 ∧ checkpoint.updatedAtMs ≠ 0 ∧ checkpoint.acceptedPublicRevisionHash ≠ ZERO_DIGEST ∧
        checkpoint.latestAuditMac ≠ ZERO_DIGEST ∧ checkpoint.auditGenesisDigest ≠ ZERO_DIGEST := by
  simp only [LocalCheckpoint.validateShape, rejectIf_eq_ok, passed, beq_eq_false_iff_ne, and_assoc]

theorem recordAudit_eq (checkpoint : LocalCheckpoint) (mac : Digest32) (timestamp : UInt64) :
    checkpoint.recordAudit mac timestamp =
      if checkpoint.updatedAtMs ≤ timestamp ∧ mac ≠ ZERO_DIGEST then
        .ok { checkpoint with latestAuditMac := mac, updatedAtMs := timestamp }
      else .error .invalidFormat := by
  unfold LocalCheckpoint.recordAudit rejectIf
  by_cases htime : checkpoint.updatedAtMs ≤ timestamp
  · by_cases hmac : mac = ZERO_DIGEST
    · simp [hmac, bind, Except.bind]
    · simp [htime, hmac, bind, Except.bind, pure, Except.pure, UInt64.not_lt.mpr htime]
  · simp [htime, bind, Except.bind, UInt64.not_le.mp htime]

namespace LocalCheckpoint

def accepting (principal : PrincipalLocalState) (checkpoint : LocalCheckpoint) (hash : Digest32) (timestampMs : UInt64) :
    LocalCheckpoint :=
  withMac principal { checkpoint with acceptedPublicRevisionHash := hash, updatedAtMs := timestampMs }

def recording (principal : PrincipalLocalState) (checkpoint : LocalCheckpoint) (mac : Digest32) (timestampMs : UInt64) :
    LocalCheckpoint :=
  withMac principal { checkpoint with latestAuditMac := mac, updatedAtMs := timestampMs }

end LocalCheckpoint

section Shape

variable (principal : PrincipalLocalState) {checkpoint : LocalCheckpoint} {timestamp : UInt64} {hash : Digest32}
  (h : checkpoint.validateShape = .ok ()) (hts : checkpoint.updatedAtMs ≤ timestamp) (hhash : hash ≠ ZERO_DIGEST)

include h hts hhash

theorem recording_shape : (checkpoint.recording principal hash timestamp).validateShape = .ok () := by
  obtain ⟨hversion, hpos, hacc, -, hgen⟩ := validateShape_eq_ok.mp h
  exact validateShape_eq_ok.mpr ⟨hversion, fun hzero => hpos (UInt64.le_zero_iff.mp (hzero ▸ hts)), hacc, hhash, hgen⟩

theorem accepting_shape : (checkpoint.accepting principal hash timestamp).validateShape = .ok () := by
  obtain ⟨hversion, hpos, -, hlatest, hgen⟩ := validateShape_eq_ok.mp h
  exact validateShape_eq_ok.mpr
    ⟨hversion, fun hzero => hpos (UInt64.le_zero_iff.mp (hzero ▸ hts)), hhash, hlatest, hgen⟩

theorem authenticate_recording :
    LocalCheckpoint.authenticate principal { checkpoint with latestAuditMac := hash, updatedAtMs := timestamp } =
      .ok (checkpoint.recording principal hash timestamp) := by
  simp only [LocalCheckpoint.authenticate, eq_ok]
  exact ⟨(), recording_shape principal h hts hhash, rfl⟩

theorem authenticate_accepting :
    LocalCheckpoint.authenticate principal
        { checkpoint with acceptedPublicRevisionHash := hash, updatedAtMs := timestamp } =
      .ok (checkpoint.accepting principal hash timestamp) := by
  simp only [LocalCheckpoint.authenticate, eq_ok]
  exact ⟨(), accepting_shape principal h hts hhash, rfl⟩

end Shape

section Steps

variable [Crypto] {principal : PrincipalLocalState} {audit : AuditLog} {checkpoint : LocalCheckpoint}
  {timestamp : UInt64}

section Files

variable (h : FilesSound principal audit checkpoint)

include h

theorem FilesSound.accepting {hash : Digest32} (hhash : hash ≠ ZERO_DIGEST) (hts : checkpoint.updatedAtMs ≤ timestamp) :
    FilesSound principal audit (checkpoint.accepting principal hash timestamp) :=
  ⟨h.parsed, accepting_shape principal h.shape hts hhash, h.scope, rfl, h.genesis, h.recorded⟩

theorem FilesSound.recording (hmac : audit.latestMac ≠ ZERO_DIGEST) (hts : checkpoint.updatedAtMs ≤ timestamp) :
    FilesSound principal audit (checkpoint.recording principal audit.latestMac timestamp) :=
  ⟨h.parsed, recording_shape principal h.shape hts hmac, h.scope, rfl, h.genesis, _, getLast_mem audit.nonempty, rfl⟩

theorem FilesSound.append (happend : audit.append principal draft = .ok longer) :
    FilesSound principal longer checkpoint := by
  have hevents := append_eq_ok happend
  refine ⟨parse_append h.parsed happend, h.shape, h.scope, h.mac, ?_, ?_⟩
  · rw [← h.genesis]
    simp only [AuditLog.auditGenesisDigest, hevents, head_append_of_ne_nil audit.nonempty]
  · obtain ⟨event, hevent, hmac⟩ := h.recorded
    exact ⟨event, hevents ▸ mem_append_left _ hevent, hmac⟩

theorem eventsAfter_append (happend : audit.append principal draft = .ok longer) :
    longer.eventsAfter checkpoint.latestAuditMac = audit.eventsAfter checkpoint.latestAuditMac + 1 := by
  obtain ⟨index, hindex⟩ := macIndex_recorded.mpr h.recorded
  have hlt := (findIdx?_eq_some_iff_getElem.mp hindex).1
  have hlonger : longer.macIndex checkpoint.latestAuditMac = some index := by
    rw [AuditLog.macIndex] at hindex
    rw [AuditLog.macIndex, append_eq_ok happend, findIdx?_append, hindex]
    rfl
  simp only [AuditLog.eventsAfter, hlonger, hindex, append_eq_ok happend, length_append, length_singleton]
  omega

theorem FilesSound.latestMac_ne_zero (hnone : audit.eventsAfter checkpoint.latestAuditMac = 0) :
    audit.latestMac ≠ ZERO_DIGEST := by
  obtain ⟨index, hindex⟩ := macIndex_recorded.mpr h.recorded
  obtain ⟨hlt, hmac, -⟩ := findIdx?_eq_some_iff_getElem.mp hindex
  simp only [AuditLog.eventsAfter, hindex] at hnone
  have hlast : index = audit.events.length - 1 := by omega
  have hlatest : audit.latestMac = checkpoint.latestAuditMac := by
    subst hlast
    rw [AuditLog.latestMac, getLast_eq_getElem]
    exact beq_iff_eq.mp hmac
  rw [hlatest]
  exact (validateShape_eq_ok.mp h.shape).2.2.2.1

theorem acceptCandidate_eq_ok :
    principal.acceptCandidate ⟨audit, checkpoint, behind⟩ candidate timestamp = .ok (relation, out) ↔
      candidate.validateScope principal.scope = .ok () ∧
        ∃ last, candidate.policyHistory.getLast? = some last ∧
          ((checkpoint.acceptedPublicRevisionHash = last ∧ relation = .equal ∧ out = ⟨audit, checkpoint, behind⟩) ∨
            (checkpoint.acceptedPublicRevisionHash ≠ last ∧
              checkpoint.acceptedPublicRevisionHash ∈ candidate.policyHistory ∧
              checkpoint.updatedAtMs ≤ timestamp ∧ relation = .strictDescendant ∧
              out = ⟨audit, checkpoint.accepting principal last timestamp, behind⟩)) := by
  simp only [PrincipalLocalState.acceptCandidate, h.ensureStateScope, bind_eq_ok]
  constructor
  · rintro ⟨-, -, _, hscope, found, hfound, hout⟩
    obtain ⟨hvault, hgen, -, hne, hzero⟩ := validateScope_eq_ok.mp hscope
    have hlast := getLast?_eq_some_getLast hne
    rw [relationTo_eq (hvault.trans (by rw [h.scope])) (hgen.trans (by rw [h.scope])) hlast, Except.ok.injEq] at hfound
    refine ⟨hscope, _, hlast, ?_⟩
    split at hfound
    case isTrue heq =>
      subst hfound
      obtain ⟨rfl, rfl⟩ := Prod.mk.inj (Except.ok.inj hout)
      exact .inl ⟨heq.symm, rfl, rfl⟩
    case isFalse hdiff =>
      split at hfound
      case isTrue hmem =>
        subst hfound
        simp only [LocalCheckpoint.advance, CheckpointCandidate.currentPolicy, LocalCheckpoint.authenticate, hlast,
          eq_ok, decide_eq_false_iff_not, UInt64.not_lt, Option.some.injEq] at hout
        obtain ⟨_, ⟨-, hts, _, rfl, rfl⟩, _, ⟨-, -, rfl⟩, heq⟩ := hout
        obtain ⟨rfl, rfl⟩ := Prod.mk.inj heq
        exact .inr ⟨Ne.symm hdiff, hmem, hts, rfl, rfl⟩
      case isFalse =>
        subst hfound
        cases hout
  · rintro ⟨hscope, last, hlast, hcase⟩
    obtain ⟨hvault, hgen, -, hne, hzero⟩ := validateScope_eq_ok.mp hscope
    refine ⟨(), trivial, (), hscope, _, relationTo_eq (hvault.trans (by rw [h.scope])) (hgen.trans (by rw [h.scope])) hlast, ?_⟩
    rcases hcase with ⟨heq, rfl, rfl⟩ | ⟨hdiff, hmem, hts, rfl, rfl⟩
    · rw [if_pos heq.symm]
      rfl
    · rw [if_neg (Ne.symm hdiff), if_pos hmem]
      have hnonzero : last ≠ ZERO_DIGEST := fun heq => hzero (heq ▸ mem_of_getLast? hlast)
      simp only [LocalCheckpoint.advance, CheckpointCandidate.currentPolicy, LocalCheckpoint.authenticate, eq_ok,
        decide_eq_false_iff_not, UInt64.not_lt]
      exact ⟨_, ⟨(), hts, last, hlast, rfl⟩, _, ⟨(), (h.accepting hnonzero hts).shape, rfl⟩, rfl⟩

-- What accepting a candidate makes of the checkpoint does not depend on the log that goes with it.
theorem acceptCandidate_checkpoint
    (hout : principal.acceptCandidate ⟨audit, checkpoint, behind⟩ candidate timestamp = .ok (relation, out)) :
    ∃ accepted, out = ⟨audit, accepted, behind⟩ ∧
      (∀ other count, FilesSound principal other checkpoint →
        principal.acceptCandidate ⟨other, checkpoint, count⟩ candidate timestamp =
          .ok (relation, ⟨other, accepted, count⟩) ∧ FilesSound principal other accepted) ∧
      checkpoint.acceptedPublicRevisionHash ∈ candidate.policyHistory ∧
      candidate.policyHistory.getLast? = some accepted.acceptedPublicRevisionHash ∧
      accepted.latestAuditMac = checkpoint.latestAuditMac ∧
      (accepted = checkpoint ∨ (accepted.updatedAtMs = timestamp ∧ checkpoint.updatedAtMs ≤ timestamp)) := by
  obtain ⟨hscope, last, hlast, hcase⟩ := (acceptCandidate_eq_ok h).mp hout
  obtain ⟨-, -, -, -, hzero⟩ := validateScope_eq_ok.mp hscope
  rcases hcase with ⟨rfl, rfl, rfl⟩ | ⟨hdiff, hmem, hts, rfl, rfl⟩
  · refine ⟨checkpoint, rfl, fun other count hother => ⟨?_, hother⟩, mem_of_getLast? hlast, hlast, rfl, .inl rfl⟩
    exact (acceptCandidate_eq_ok hother).mpr ⟨hscope, _, hlast, .inl ⟨rfl, rfl, rfl⟩⟩
  · refine ⟨_, rfl, fun other count hother => ⟨?_, ?_⟩, hmem, hlast, rfl, .inr ⟨rfl, hts⟩⟩
    · exact (acceptCandidate_eq_ok hother).mpr ⟨hscope, _, hlast, .inr ⟨hdiff, hmem, hts, rfl, rfl⟩⟩
    · exact hother.accepting (fun heq => hzero (heq ▸ mem_of_getLast? hlast)) hts

theorem acceptAuditTail_eq_ok :
    principal.acceptAuditTail ⟨audit, checkpoint, behind⟩ timestamp = .ok out ↔
      (behind = 0 ∧ out = ⟨audit, checkpoint, behind⟩) ∨
        (behind ≠ 0 ∧ checkpoint.updatedAtMs ≤ timestamp ∧ audit.latestMac ≠ ZERO_DIGEST ∧
          out = ⟨audit, checkpoint.recording principal audit.latestMac timestamp, 0⟩) := by
  simp only [PrincipalLocalState.acceptAuditTail, h.ensureStateScope, bind_eq_ok, exists_const, true_and]
  by_cases hbehind : behind = 0
  · simp only [hbehind, if_true, pure_eq_ok, ne_eq, not_true_eq_false, false_and, or_false, true_and]
    exact eq_comm
  · simp only [hbehind, if_false, LocalCheckpoint.recordAudit, LocalCheckpoint.authenticate, eq_ok, passed,
      UInt64.not_lt, beq_eq_false_iff_ne, false_and, false_or]
    constructor
    · rintro ⟨_, ⟨-, ⟨hts, hmac⟩, rfl⟩, _, ⟨-, -, rfl⟩, rfl⟩
      exact ⟨hbehind, hts, hmac, rfl⟩
    · rintro ⟨-, hts, hmac, rfl⟩
      exact ⟨_, ⟨(), ⟨hts, hmac⟩, rfl⟩, _, ⟨(), (h.recording hmac hts).shape, rfl⟩, rfl⟩

end Files

theorem appendEvent_eq_ok (hout : principal.appendEvent ⟨audit, checkpoint, behind⟩ draft = .ok out) :
    ∃ longer, audit.append principal draft = .ok longer ∧ checkpoint.updatedAtMs ≤ draft.timestampMs ∧
      longer.latestMac ≠ ZERO_DIGEST ∧
      out = ⟨longer, checkpoint.recording principal longer.latestMac draft.timestampMs, 0⟩ := by
  simp only [PrincipalLocalState.appendEvent, LocalCheckpoint.recordAudit, LocalCheckpoint.authenticate, eq_ok, passed,
    UInt64.not_lt, beq_eq_false_iff_ne] at hout
  obtain ⟨-, -, longer, happend, _, ⟨-, ⟨hts, hmac⟩, rfl⟩, _, ⟨-, -, rfl⟩, rfl⟩ := hout
  exact ⟨longer, happend, hts, hmac, rfl⟩

end Steps

end Jury.LocalState
