import Jury.Engine.Approvals
import Jury.Engine.Coherence
import Jury.Policy.Replay.Catalog

-- What an approval rests on: a valid request at the time of the call that made it, and a quorum of
-- approvers or an automatic rule.
namespace Jury.Engine

open Lib Protocol Witness Policy

variable [Crypto]

-- One approver's part: of the decisions considered there is one of this approver, it approves, and it is
-- on record.
structure Approves (request : WitnessRequestV1) (manifest : ActionManifestV1) (validated : ValidatedRequest)
    (nowMs : UInt64) (considered accepted : List ApprovalDecisionV1) (approverId : PrincipalId) : Prop where
  eligible : approverId ∈ validated.rule.eligibleApproverIds
  decided : ∃ approval ∈ accepted, SoleDecision {decision | decision ∈ considered} approverId approval ∧
    approval.decision = .approve ∧ CurrentApproval approval nowMs ∧
    ∃ descriptor, BoundApproval approval request manifest validated.rule validated.policy descriptor

def QuorumReached (request : WitnessRequestV1) (manifest : ActionManifestV1) (validated : ValidatedRequest)
    (nowMs : UInt64) (considered accepted : List ApprovalDecisionV1) : Prop :=
  ∃ approvers : Finset PrincipalId, validated.rule.approvalThreshold.toNat ≤ approvers.card ∧
    ∀ approverId ∈ approvers, Approves request manifest validated nowMs considered accepted approverId

structure Released (event : EngineEvent) (policy : ReplayedPolicy) (request : WitnessRequestV1)
    (manifest : ActionManifestV1) (approvals : List ApprovalDecisionV1) (validated : ValidatedRequest)
    (response : WitnessResponseV1) : Prop where
  called : event.input.operation = .decide policy request manifest approvals
  approval : IsApproval request manifest (nextGeneration event.before.store.logical)
    event.input.context.wallTimeMs response
  valid : ValidRequest event.input.context.identity policy.state event.before.store.logical request manifest
    event.input.context.wallTimeMs validated
  counted : ∃ known entry, event.before.store.logical.replay[requestKey request]? = some known ∧
    known.request = request ∧ known.state = .reserved ∧
    event.after.store.logical.replay[requestKey request]? = some entry ∧ entry.response = some response ∧
    (QuorumReached request manifest validated event.input.context.wallTimeMs
        (consideredApprovals known.approvals approvals event.input.context.wallTimeMs) entry.approvals ∨
      validated.rule.approvalThreshold = 0 ∧ Automatic manifest validated.rule)

def ReleasedIn (events : List EngineEvent) (request : WitnessRequestV1) (response : WitnessResponseV1) : Prop :=
  ∃ event ∈ events, ∃ policy manifest approvals validated,
    Released event policy request manifest approvals validated response

section Count

variable {request : WitnessRequestV1} {manifest : ActionManifestV1}

theorem Merged.quorum (h : Merged recorded submitted request manifest validated nowMs accepted)
    (heligible : validated.rule.eligibleApproverIds.Nodup)
    (hthr : validated.rule.approvalThreshold.toNat ≤ (tallyApprovals accepted validated.rule).approved) :
    QuorumReached request manifest validated nowMs (consideredApprovals recorded submitted nowMs) accepted := by
  classical
  obtain ⟨distinct, hnorm⟩ := h.normalized
  rw [hnorm.tally validated.rule] at hthr
  refine ⟨(validated.rule.eligibleApproverIds.filter fun approverId =>
    decide (Approving {decision | decision ∈ consideredApprovals recorded submitted nowMs} approverId)).toFinset,
    ?_, fun approverId happr => ?_⟩
  · rw [List.toFinset_card_of_nodup (heligible.filter _), ← List.countP_eq_length_filter]
    exact hthr
  · simp only [List.mem_toFinset, List.mem_filter, decide_eq_true_eq] at happr
    obtain ⟨hmember, approval, hsole, happrove⟩ := happr
    exact ⟨hmember, approval, hnorm.mem_of_sole hsole, hsole, happrove, h.current hsole.1, h.bound approval hsole.1⟩

end Count

section Runs

variable {world : World} {call : Call} {request : WitnessRequestV1}

theorem ReleasedIn.append (h : ReleasedIn events request response) (later : List EngineEvent) :
    ReleasedIn (events ++ later) request response := by
  obtain ⟨event, hevent, hreleased⟩ := h
  exact ⟨event, List.mem_append_left _ hevent, hreleased⟩

variable {entry : WitnessReplayEntry} {key : ReplayKey}

theorem serve_releases (hcoh : CoherentRecords world.store.logical)
    (hstored : (world.serve call).2.store.logical.replay[key]? = some entry) (hresp : entry.response = some response)
    (happrove : response.decision.decision = .approve) : world.store.logical.replay[key]? = some entry ∨
      ∃ policy manifest approvals validated,
        Released (engine.event world call) policy entry.request manifest approvals validated response := by
  rcases serve_logical world call with hkept | hstepped
  · rw [hkept] at hstored
    exact .inl hstored
  cases hstepped with
  | @intro planned hclock hstep hadv =>
    have hreplay := (advanceGeneration_eq_ok hadv).2.2.2.1
    have hafter := hstored
    rw [hreplay] at hstored
    have hentry := hstep.entries key
    rw [hstored] at hentry
    generalize hold : world.store.logical.replay[key]? = old at hentry
    cases hentry with
    | kept => exact .inl rfl
    | reserved => cases hresp
    | conflicted _ _ _ _ hdenial | stale _ _ _ hdenial | cancelled _ _ _ _ _ hdenial | tombstoned _ _ _ hdenial =>
      obtain rfl := Option.some.inj hresp
      cases hdenial.decision.symm.trans happrove
    | @decided policy called manifest approvals known _ progress hop hkey hdeciding hplanned =>
      cases hplanned with
      | expired _ _ _ hdenial | denied _ _ hdenial =>
        obtain rfl := Option.some.inj hresp
        cases hdenial.decision.symm.trans happrove
      | recorded hcounted =>
        rw [show known.response = none from hcounted.unanswered] at hresp
        cases hresp
      | @approved _ validated accepted hcounted hthr happ =>
        obtain rfl := Option.some.inj hresp
        obtain rfl := hdeciding.same
        subst hkey
        have hvalid := validateRequest_eq_ok hcounted.valid
        have hmerged := mergeApprovals_eq_ok hcounted.merged
        obtain ⟨_, hgranted⟩ := hvalid.granted
        refine .inr ⟨policy, manifest, approvals, validated, hop, happ, hvalid, known, _, hold, rfl,
          (hcoh _ _ hold).reserved.mpr hcounted.unanswered, hafter, rfl, ?_⟩
        by_cases hzero : validated.rule.approvalThreshold = 0
        · exact .inr ⟨hzero, hvalid.automatic hzero⟩
        · exact .inl (hmerged.quorum (policy.eligible_nodup hgranted.applies) hthr)

theorem final_releasedIn (witnessId : PrincipalId) (calls : List Call)
    (hstored : (engine.final (World.initial witnessId) calls).store.logical.replay[key]? = some entry)
    (hresp : entry.response = some response) (happrove : response.decision.decision = .approve) :
    ReleasedIn (engine.trace (World.initial witnessId) calls) entry.request response := by
  induction calls using List.reverseRecOn generalizing key entry with
  | nil => cases hstored
  | append_singleton calls call ih =>
    rw [Machine.trace_append]
    rw [Machine.final_append] at hstored
    have hcoh := final_coherentRecords witnessId calls
    rcases serve_releases hcoh hstored hresp happrove with hbefore | hreleased
    · exact (ih hbefore hresp).append _
    · exact ⟨_, List.mem_append_right _ List.mem_cons_self, hreleased⟩

-- In every run, an approval that a call returns has been released for the call's request: by this very
-- call, on the conditions at its own clock reading, or by an earlier one whose response was on record.
theorem approve_released (witnessId : PrincipalId) (calls : List Call) (call : Call) (response : WitnessResponseV1)
    (hreturned : responseOf (engine.event (engine.final (World.initial witnessId) calls) call) = some response)
    (happrove : response.decision.decision = .approve) :
    ∃ request, call.operation.request? = some request ∧
      ((∃ policy manifest approvals validated,
          Released (engine.event (engine.final (World.initial witnessId) calls) call) policy request manifest
            approvals validated response) ∨
        ∃ entry, (engine.final (World.initial witnessId) calls).store.logical.replay[requestKey request]? =
            some entry ∧ entry.request = request ∧ entry.response = some response ∧
          ReleasedIn (engine.trace (World.initial witnessId) calls) request response) := by
  obtain ⟨reply, hreply, hresp⟩ := responseOf_eq_some.mp hreturned
  obtain ⟨-, hdelivers⟩ := serve_delivers (Prod.ext hreply rfl :
    (engine.final (World.initial witnessId) calls).serve call = (.ok reply, _))
  obtain ⟨request, entry, hcalled, hstored, hanswered, hsame | ⟨-, -, -, hdeny, -⟩⟩ := hdelivers response hresp
  · subst hsame
    refine ⟨_, hcalled, ?_⟩
    rcases serve_releases (final_coherentRecords witnessId calls) hstored hanswered happrove with
      hbefore | hreleased
    · exact .inr ⟨entry, hbefore, rfl, hanswered, final_releasedIn witnessId calls hbefore hanswered happrove⟩
    · exact .inl hreleased
  · cases hdeny.symm.trans happrove

end Runs

end Jury.Engine

namespace Jury.Engine.Sample

open Protocol.Sample

def beforeApproval : World := engine.final home (repeated.take 2)

def afterApproval : World := engine.final home (repeated.take 3)

def approvingCall : Call :=
  deciding 10003 (manifest 1 10000 20000) [approval 3 1 (manifest 1 10000 20000) .approve 15000]

def lateCall : Call := deciding 30000 (manifest 1 10000 20000) []

end Jury.Engine.Sample

namespace Jury.Engine

open Protocol.Sample Engine.Sample

theorem approve_released_first :
    ∃ response request, responseOf (engine.event beforeApproval approvingCall) = some response ∧
      response.decision.decision = .approve ∧ approvingCall.operation.request? = some request ∧
      ((∃ policy manifest approvals validated,
          Released (engine.event beforeApproval approvingCall) policy request manifest approvals validated response) ∨
        ∃ entry, beforeApproval.store.logical.replay[requestKey request]? = some entry ∧ entry.request = request ∧
          entry.response = some response ∧ ReleasedIn (engine.trace home (repeated.take 2)) request response) := by
  have hdecided : (responseOf (engine.event beforeApproval approvingCall)).map (·.decision.decision) =
      some .approve := by decide +kernel
  have hbefore : beforeApproval = engine.final home (repeated.take 2) := rfl
  have hhome : home = World.initial home.witnessId := rfl
  rw [hbefore, hhome] at hdecided ⊢
  generalize approvingCall = call at hdecided ⊢
  generalize repeated.take 2 = calls at hdecided ⊢
  obtain ⟨response, hresp, happrove⟩ := Option.map_eq_some_iff.mp hdecided
  obtain ⟨request, hcalled, hreleased⟩ := approve_released home.witnessId calls call response hresp happrove
  exact ⟨response, request, hresp, happrove, hcalled, hreleased⟩

-- A decide call can return an approval for a request that is no longer valid at its clock reading.
theorem approval_returned_after_expiry :
    (responseOf (engine.event afterApproval lateCall)).map (·.decision.decision) = some .approve ∧
      lateCall.operation.request? = some (request 1 (manifest 1 10000 20000)) ∧
      ¬ InValidity (request 1 (manifest 1 10000 20000)) lateCall.context.wallTimeMs := by
  refine ⟨by decide +kernel, rfl, fun hvalid => ?_⟩
  have hunexp : (30000 : Nat) < 20000 := hvalid.unexpired
  omega

end Jury.Engine
