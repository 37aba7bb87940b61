import Jury.LocalState.Files

-- What the calls on a local state can do, said once for every way they end, and what a call that fails leaves behind.
namespace Jury.LocalState

open Lib Protocol PrincipalKeys AuditLog

theorem check_ok_bind {f : α → EStateM ε σ β} : (check (.ok a) >>= f) s = f a s := rfl

theorem check_error_bind {f : α → EStateM ε σ β} : (check (.error e) >>= f) s = .error e s := rfl

variable [Crypto]

def PrincipalKeys.perform (keys : PrincipalKeys) : LocalCall → LocalStateM (Option CheckpointRelation)
  | .appendEvent draft => do
    keys.appendEvent draft
    return none
  | .acceptAuditTail timestampMs => do
    keys.acceptAuditTail timestampMs
    return none
  | .acceptCandidate candidate timestampMs => do
    return some (← keys.acceptCandidate candidate timestampMs)
  | .recordReceipt update => do
    keys.recordReceipt update
    return none

-- Enough for every step behind the first change of a call to go through.
structure Standing (keys : PrincipalKeys) (state : VerifiedState) : Prop where
  scope : keys.ensureStateScope state = .ok ()
  checkpoint : state.checkpoint.validateShape = .ok ()
  receipts : state.receipts.validateShape = .ok ()

inductive CallEnds (keys : PrincipalKeys) (state : VerifiedState) :
    LocalCall → EStateM.Result LocalStateErrorKind VerifiedState (Option CheckpointRelation) → Prop where
  | refused {call : LocalCall} {kind : LocalStateErrorKind} (hkeeps : CallKeeps keys state call) :
    CallEnds keys state call (.error kind state)
  | unrecorded {draft : AuditEventDraft} {audit : AuditLog}
    (happend : state.audit.append keys.toPrincipalLocalState draft = .ok audit)
    (hfails : ¬ (state.checkpoint.updatedAtMs ≤ draft.timestampMs ∧ audit.latestMac ≠ ZERO_DIGEST)) :
    CallEnds keys state (.appendEvent draft) (.error .invalidFormat { state with audit })
  | recorded {draft : AuditEventDraft} {audit : AuditLog}
    (happend : state.audit.append keys.toPrincipalLocalState draft = .ok audit)
    (htime : state.checkpoint.updatedAtMs ≤ draft.timestampMs) (hmac : audit.latestMac ≠ ZERO_DIGEST) :
    CallEnds keys state (.appendEvent draft) (.ok none { state with
      audit
      checkpoint := state.checkpoint.recording keys.toPrincipalLocalState audit.latestMac draft.timestampMs
      auditEventsAfterCheckpoint := 0 })
  | nothingBehind {timestamp : UInt64} : CallEnds keys state (.acceptAuditTail timestamp) (.ok none state)
  | caughtUp {timestamp : UInt64} (htime : state.checkpoint.updatedAtMs ≤ timestamp)
    (hmac : state.audit.latestMac ≠ ZERO_DIGEST) :
    CallEnds keys state (.acceptAuditTail timestamp) (.ok none { state with
      checkpoint := state.checkpoint.recording keys.toPrincipalLocalState state.audit.latestMac timestamp
      auditEventsAfterCheckpoint := 0 })
  | same {candidate : CheckpointCandidate} {timestamp : UInt64} (hscope : candidate.validateScope keys.scope = .ok ())
    (hlast : candidate.policyHistory.getLast? = some state.checkpoint.acceptedPublicRevisionHash) :
    CallEnds keys state (.acceptCandidate candidate timestamp) (.ok (some .equal) state)
  | advanced {candidate : CheckpointCandidate} {timestamp : UInt64} {last : Digest32}
    (hscope : candidate.validateScope keys.scope = .ok ()) (hlast : candidate.policyHistory.getLast? = some last)
    (hdiff : last ≠ state.checkpoint.acceptedPublicRevisionHash)
    (hmem : state.checkpoint.acceptedPublicRevisionHash ∈ candidate.policyHistory)
    (htime : state.checkpoint.updatedAtMs ≤ timestamp) :
    CallEnds keys state (.acceptCandidate candidate timestamp) (.ok (some .strictDescendant) { state with
      checkpoint := state.checkpoint.accepting keys.toPrincipalLocalState last timestamp })
  | receipt {update : ReceiptUpdate} {receipts : LocalReceipts}
    (hvalid : PrincipalKeys.validateUpdate state update = .ok ())
    (hupdate : state.receipts.update update = .ok receipts) :
    CallEnds keys state (.recordReceipt update) (.ok none { state with receipts := receipts.withMac keys })

section Ends

variable {keys : PrincipalKeys}

omit [Crypto] in
theorem Standing.last_related (h : Standing keys state) {candidate : CheckpointCandidate}
    (hscope : candidate.validateScope keys.scope = .ok ()) (hlast : candidate.policyHistory.getLast? = some last) :
    last ≠ ZERO_DIGEST ∧ candidate.relationTo state.checkpoint = .ok
      (if last = state.checkpoint.acceptedPublicRevisionHash then .equal
        else if state.checkpoint.acceptedPublicRevisionHash ∈ candidate.policyHistory then .strictDescendant
        else .divergent) := by
  obtain ⟨hvault, hgen, -, -, hzero⟩ := validateScope_eq_ok.mp hscope
  have hstate := h.scope
  simp only [ensureStateScope, rejectIf_eq_ok, passed] at hstate
  have hsame := hstate.1.1
  refine ⟨fun heq => hzero (heq ▸ List.mem_of_getLast? hlast), ?_⟩
  exact relationTo_eq (by rw [hvault, hsame]) (by rw [hgen, hsame]) hlast

theorem Standing.perform_ends (h : Standing keys state) (call : LocalCall) :
    CallEnds keys state call (keys.perform call state) := by
  have hscope := h.scope
  cases call with
  | appendEvent draft =>
    simp only [perform, appendEvent, bind_assoc, get_bind, hscope, check_ok_bind]
    cases happend : state.audit.append keys.toPrincipalLocalState draft with
    | error kind =>
      refine .refused fun audit hok => ?_
      rw [happend] at hok
      cases hok
    | ok audit =>
      simp only [check_ok_bind, set_bind, recordAudit_eq]
      by_cases hboth : state.checkpoint.updatedAtMs ≤ draft.timestampMs ∧ audit.latestMac ≠ ZERO_DIGEST
      · simp only [if_pos hboth, check_ok_bind, set_bind, authenticate_recording _ h.checkpoint hboth.1 hboth.2]
        exact .recorded happend hboth.1 hboth.2
      · rw [if_neg hboth]
        exact .unrecorded happend hboth
  | acceptAuditTail timestamp =>
    simp only [perform, acceptAuditTail, bind_assoc, get_bind, hscope, check_ok_bind]
    split
    · exact .nothingBehind
    · simp only [recordAudit_eq]
      by_cases hboth : state.checkpoint.updatedAtMs ≤ timestamp ∧ state.audit.latestMac ≠ ZERO_DIGEST
      · simp only [if_pos hboth, check_ok_bind, set_bind, bind_assoc,
          authenticate_recording _ h.checkpoint hboth.1 hboth.2]
        exact .caughtUp hboth.1 hboth.2
      · rw [if_neg hboth]
        exact .refused trivial
  | acceptCandidate candidate timestamp =>
    simp only [perform, acceptCandidate, bind_assoc, get_bind, hscope, check_ok_bind]
    cases hvalid : candidate.validateScope keys.scope with
    | error kind => exact .refused trivial
    | ok _ =>
      obtain ⟨-, -, -, hne, -⟩ := validateScope_eq_ok.mp hvalid
      obtain ⟨hnonzero, hrelation⟩ := h.last_related hvalid (List.getLast?_eq_some_getLast hne)
      simp only [check_ok_bind, hrelation]
      have hlast := List.getLast?_eq_some_getLast hne
      generalize candidate.policyHistory.getLast hne = last at hlast hnonzero ⊢
      by_cases hequal : last = state.checkpoint.acceptedPublicRevisionHash
      · simp only [if_pos hequal]
        exact .same hvalid (hequal ▸ hlast)
      by_cases hmem : state.checkpoint.acceptedPublicRevisionHash ∈ candidate.policyHistory
      · simp only [if_neg hequal, if_pos hmem]
        by_cases htime : state.checkpoint.updatedAtMs ≤ timestamp
        · have hadvance : state.checkpoint.advance candidate timestamp =
              .ok { state.checkpoint with acceptedPublicRevisionHash := last, updatedAtMs := timestamp } := by
            simp only [LocalCheckpoint.advance, CheckpointCandidate.currentPolicy, eq_ok, decide_eq_false_iff_not,
              UInt64.not_lt]
            exact ⟨(), htime, last, hlast, rfl⟩
          simp only [hadvance, check_ok_bind, set_bind, bind_assoc,
            authenticate_accepting _ h.checkpoint htime hnonzero]
          exact .advanced hvalid hlast hequal hmem htime
        · have hadvance : state.checkpoint.advance candidate timestamp = .error .invalidFormat := by
            simp [LocalCheckpoint.advance, rejectIf, UInt64.not_le.mp htime, bind, Except.bind]
          rw [hadvance]
          exact .refused trivial
      · simp only [if_neg hequal, if_neg hmem]
        exact .refused trivial
  | recordReceipt update =>
    simp only [perform, recordReceipt, bind_assoc, get_bind, hscope, check_ok_bind]
    cases hvalid : validateUpdate state update with
    | error kind =>
      refine .refused fun receipts hok => ?_
      rw [hvalid] at hok
      cases hok
    | ok _ =>
      simp only [check_ok_bind]
      cases hupdate : state.receipts.update update with
      | error kind =>
        refine .refused fun receipts _ hok => ?_
        rw [hupdate] at hok
        cases hok
      | ok receipts =>
        have hauthentic : receipts.authenticate keys = .ok (receipts.withMac keys) := by
          simp only [LocalReceipts.authenticate, eq_ok]
          exact ⟨(), (update_shape h.receipts hupdate).1, trivial⟩
        simp only [check_ok_bind, set_bind, hauthentic]
        exact .receipt hvalid hupdate

theorem left_eq : keys.left state call = finalState (keys.perform call state) := by
  cases call <;>
    simp only [left, perform, bind, EStateM.bind] <;>
    split <;>
    simp_all only [finalState_ok, finalState_error, finalState_pure]

theorem StateSound.standing (h : StateSound keys state) : Standing keys state :=
  ⟨h.ensureStateScope, h.files.shape, h.receipts.shape⟩

theorem Standing.left (h : Standing keys state) (call : LocalCall) : Standing keys (keys.left state call) := by
  have hends := h.perform_ends call
  have hscope := h.scope
  simp only [ensureStateScope, rejectIf_eq_ok, passed] at hscope
  obtain ⟨⟨hckpt, hrcpts⟩, haudit⟩ := hscope
  have hgrown : ∀ {draft : AuditEventDraft} {audit : AuditLog},
      state.audit.append keys.toPrincipalLocalState draft = .ok audit → audit.matchesScope keys.scope = true := by
    intro draft audit happend
    rw [matchesScope]
    simp only [append_eq_ok happend, List.head_append_of_ne_nil state.audit.nonempty]
    exact haudit
  rw [left_eq]
  generalize keys.perform call state = result at hends
  cases hends with
  | refused | nothingBehind | same => exact h
  | unrecorded happend =>
    refine ⟨?_, h.checkpoint, h.receipts⟩
    simp [ensureStateScope, hckpt, hrcpts, hgrown happend]
  | recorded happend htime hmac =>
    refine ⟨?_, recording_shape _ h.checkpoint htime hmac, h.receipts⟩
    simp [ensureStateScope, LocalCheckpoint.recording, LocalCheckpoint.withMac, hckpt, hrcpts,
      hgrown happend]
  | caughtUp htime hmac => exact ⟨h.scope, recording_shape _ h.checkpoint htime hmac, h.receipts⟩
  | advanced hscope hlast hdiff hmem htime =>
    exact ⟨h.scope, accepting_shape _ h.checkpoint htime (h.last_related hscope hlast).1, h.receipts⟩
  | receipt hvalid hupdate =>
    obtain ⟨hshape, hsame⟩ := update_shape h.receipts hupdate
    refine ⟨?_, h.checkpoint, hshape⟩
    simpa [ensureStateScope, LocalReceipts.withMac, hsame] using h.scope

theorem Standing.final (h : Standing keys state) (calls : List LocalCall) :
    Standing keys (keys.calls.final state calls) :=
  Machine.final_preserves h fun _ call _ hstanding => hstanding.left call

end Ends

section Initial

variable {keys : PrincipalKeys} {candidate : CheckpointCandidate}

theorem creation_parsed {digest : Digest32} (hdigest : digest ≠ ZERO_DIGEST) {log : AuditLog}
    (hlog : log.events = [creation keys.toPrincipalLocalState policySequence digest]) :
    parse keys.toPrincipalLocalState log.events = .ok log := by
  have hsize := creation_jsonSize_le keys.toPrincipalLocalState policySequence digest
  have hshape : (creation keys.toPrincipalLocalState policySequence digest).validateShape = .ok () := by
    simp [AuditEvent.validateShape, AuditEvent.validateAction, creation, rejectIf, hdigest]
  obtain ⟨events, hne⟩ := log
  obtain rfl : events = _ := hlog
  simp only [parse, dif_neg hne, eq_ok, decide_eq_false_iff_not, Nat.not_lt, gt_iff_lt, List.zipIdx_singleton,
    foldlM_cons_eq_ok, List.foldlM_nil, parseEvent]
  refine ⟨(), ?_, _, ⟨_, ⟨(), ?_, (), ?_, (), ?_, rfl⟩, rfl⟩, (), ?_, trivial⟩
  · simp only [encodedLength, keys.lengths, List.map_cons, List.map_nil, List.sum_cons, List.sum_nil]
    simp only [MAX_AUDIT_EVENT_BYTES, MAX_AUDIT_BYTES] at hsize ⊢
    omega
  · simp only [keys.lengths, passed, Nat.not_lt, ge_iff_le]
    exact ⟨hsize, by decide⟩
  · rw [hshape]
    simp [creation, AuditEvent.matchesScope]
    rfl
  · simp [creation, AuditEvent.macPreimage]
  · simp [creation]

theorem initialState_sound (h : keys.initialState candidate timestamp = .ok state) : StateSound keys state := by
  simp only [initialState, initialLog, eq_ok] at h
  obtain ⟨_, hvalid, initial, hinitial, audit, ⟨-, hdigest, rfl⟩, checkpoint, hckpt, receipts, hrcpts, rfl⟩ := h
  simp only [LocalCheckpoint.initial, eq_ok] at hinitial
  obtain ⟨hash, hhash, rfl⟩ := hinitial
  simp only [LocalCheckpoint.authenticate, eq_ok] at hckpt
  obtain ⟨_, hshape, rfl⟩ := hckpt
  simp only [LocalReceipts.authenticate, eq_ok] at hrcpts
  obtain ⟨_, hreceiptsShape, rfl⟩ := hrcpts
  refine ⟨⟨creation_parsed (beq_eq_false_iff_ne.mp hdigest) rfl, hshape, rfl, rfl, rfl, _, List.mem_singleton_self _, rfl⟩,
    ⟨hreceiptsShape, rfl, rfl⟩, ?_, ?_⟩
  · refine LocalReceipts.documentSize_le _ fun backup hbackup => ?_
    cases hbackup
  · simp [eventsAfter, macIndex, latestMac, LocalCheckpoint.withMac]

end Initial

inductive PrincipalKeys.Opened (keys : PrincipalKeys) (state : VerifiedState) : Prop where
  | new {candidate : CheckpointCandidate} {timestampMs : UInt64}
    (h : keys.initialState candidate timestampMs = .ok state)
  | read {events : List AuditEvent} {checkpoint : LocalCheckpoint} {receipts : LocalReceipts}
    (h : keys.verifyFiles (some events) (some checkpoint) (some receipts) = .ok state)

theorem PrincipalKeys.Opened.sound {keys : PrincipalKeys} (h : keys.Opened state) : StateSound keys state := by
  cases h with
  | new h => exact initialState_sound h
  | read h =>
    obtain ⟨audit, rfl, hfiles, hrcpts, hfits, rfl⟩ := verifyFiles_eq_ok.mp h
    exact ⟨hfiles, hrcpts, hfits, rfl⟩

-- The log has taken the event when the checkpoint refuses its time or its code, and no failed call but this one
-- changes anything.
theorem failed_call_keeps_state_iff (keys : PrincipalKeys) (start : VerifiedState) (hstart : keys.Opened start)
    (calls : List LocalCall) (call : LocalCall) :
    (∀ kind after, keys.perform call (keys.calls.final start calls) = .error kind after →
      after = keys.calls.final start calls ∧
        keys.serialize after = keys.serialize (keys.calls.final start calls)) ↔
      ∀ draft, call = .appendEvent draft → CallKeeps keys (keys.calls.final start calls) (.appendEvent draft) := by
  have hends := (hstart.sound.standing.final calls).perform_ends call
  generalize keys.calls.final start calls = state at hends ⊢
  generalize keys.perform call state = result at hends ⊢
  cases hends with
  | refused hkeeps =>
    refine iff_of_true (fun kind after hresult => ?_) fun draft hcall => hcall ▸ hkeeps
    cases hresult
    exact ⟨rfl, rfl⟩
  | unrecorded happend hfails =>
    refine iff_of_false (fun hsame => ?_) fun hkeeps => hfails (hkeeps _ rfl _ happend)
    have hlen := congrArg (fun state => state.audit.events.length) (hsame _ _ rfl).1
    simp [append_eq_ok happend] at hlen
  | recorded happend htime hmac =>
    refine iff_of_true (fun kind after hresult => nomatch hresult) fun draft hcall audit hother => ?_
    cases hcall
    obtain rfl := ok_unique happend hother
    exact ⟨htime, hmac⟩
  | _ => exact iff_of_true (fun kind after hresult => nomatch hresult) fun draft hcall => nomatch hcall

end Jury.LocalState

namespace Jury.LocalState.Sample

open Lib Protocol Protocol.Sample

def keys : PrincipalKeys where
  scope := {
    vaultId := identifier .vault 1
    genesisFingerprint := digest (octets [1])
    principalId := identifier .principal 2 }
  auditMac := digest
  checkpointMac := digest
  eventLength := AuditEvent.jsonSize
  parseReceipts := fun _ => .ok ()
  receiptsMac := digest
  lengths := rfl

def candidate : CheckpointCandidate where
  vaultId := identifier .vault 1
  genesisFingerprint := digest (octets [1])
  principals := .ofList [identifier .principal 2]
  policyHistory := [digest (octets [1])]

def draft (timestampMs : UInt64) : AuditEventDraft where
  timestampMs
  operationId := digest (octets [3])
  policySequence := 0
  action := .verification
  outcome := .success
  item := none
  witness := none

def callAt (timestampMs : UInt64) : LocalCall := .appendEvent (draft timestampMs)

theorem later_event_keeps_state : ∃ start, keys.initialState candidate 1000 = .ok start ∧
    ∀ kind after, keys.perform (callAt 1001) (keys.calls.final start [callAt 999]) = .error kind after →
      after = keys.calls.final start [callAt 999] ∧
        keys.serialize after = keys.serialize (keys.calls.final start [callAt 999]) := by
  obtain ⟨start, hstart, hrun⟩ := returns_iff.mp
    (by decide +kernel : Returns (keys.initialState candidate 1000) (fun start =>
      decide ((keys.calls.final start [callAt 999]).checkpoint.updatedAtMs ≤ 1001)
        && Returns ((keys.calls.final start [callAt 999]).audit.append keys.toPrincipalLocalState (draft 1001))
          (fun audit => decide (audit.latestMac ≠ ZERO_DIGEST))) = true)
  simp only [holds, returns_iff] at hrun
  obtain ⟨htime, audit, haudit, hmac⟩ := hrun
  refine ⟨start, hstart, (failed_call_keeps_state_iff keys start (.new hstart) [callAt 999] (callAt 1001)).mpr ?_⟩
  intro other hcall audit' hother
  cases hcall
  cases haudit.symm.trans hother
  exact ⟨htime, hmac⟩

-- The event is behind the checkpoint's time: the call fails, and the files written afterwards have it.
theorem failed_event_is_written : ∃ start, keys.initialState candidate 1000 = .ok start ∧
    ∃ after before written, keys.perform (callAt 999) start = .error .invalidFormat after ∧ after ≠ start ∧
      keys.serialize start = .ok before ∧ keys.serialize after = .ok written ∧
      before.audit.length = 1 ∧ written.audit.length = 2 := by
  obtain ⟨start, hstart, hrun⟩ := returns_iff.mp
    (by decide +kernel : Returns (keys.initialState candidate 1000) (fun start =>
      match keys.perform (callAt 999) start with
      | .ok _ _ => false
      | .error kind after => decide (kind = .invalidFormat) && decide (after ≠ start)
        && Returns (keys.serialize start) (fun before => Returns (keys.serialize after) (fun written =>
          decide (before.audit.length = 1 ∧ written.audit.length = 2)))) = true)
  split at hrun
  · cases hrun
  · rename_i kind after hafter
    simp only [holds, returns_iff] at hrun
    obtain ⟨⟨rfl, hdiff⟩, before, hbefore, written, hwritten, hlengths⟩ := hrun
    exact ⟨start, hstart, after, before, written, hafter, hdiff, hbefore, hwritten, hlengths⟩

end Jury.LocalState.Sample
