import Jury.Engine.Release
import Jury.Engine.Stability

-- Counting along a run. What a record keeps of the decisions submitted for a request is all that is still
-- current, as long as the clock of its decide calls does not go back and no approver has sent more than
-- two different decisions that are current together.
namespace Jury.Engine

open Lib Protocol Witness Policy List

def Reply.outcome? : Reply → Option Outcome
  | .progress .pending => some .pending
  | .progress (.stable response) =>
    some (if response.decision.decision = .approve then .approved else .denied response.decision.reason)
  | _ => none

theorem length_le_two_of_nodup {l : List ApprovalDecisionV1} (hnodup : l.Nodup)
    (h : ∀ a ∈ l, ∀ b ∈ l, ∀ c ∈ l, a = b ∨ b = c ∨ a = c) : l.length ≤ 2 := by
  match l with
  | [] => exact Nat.zero_le _
  | [_] => exact Nat.le_succ _
  | [_, _] => exact le_rfl
  | a :: b :: c :: rest =>
    simp only [nodup_cons, mem_cons, not_or] at hnodup
    rcases h a (by simp) b (by simp) c (by simp) with heq | heq | heq
    · exact absurd heq hnodup.1.1
    · exact absurd heq hnodup.2.1.1
    · exact absurd heq hnodup.1.2.1

variable [Crypto]

def Operation.approvals : Operation → List ApprovalDecisionV1
  | .decide _ _ _ approvals => approvals
  | _ => []

def Accepted (event : EngineEvent) : Prop :=
  (∃ reply, event.output = .ok reply) ∨ event.after.store.logical ≠ event.before.store.logical

def Decides (request : WitnessRequestV1) (event : EngineEvent) : Prop :=
  Accepted event ∧ ∃ policy manifest approvals, event.input.operation = .decide policy request manifest approvals

def SubmittedIn (events : List EngineEvent) (request : WitnessRequestV1) : Set ApprovalDecisionV1 :=
  {decision | ∃ event ∈ events, Accepted event ∧ ∃ policy manifest approvals,
    event.input.operation = .decide policy request manifest approvals ∧ decision ∈ approvals}

def CurrentIn (events : List EngineEvent) (request : WitnessRequestV1) (nowMs : UInt64) : Set ApprovalDecisionV1 :=
  {decision | decision ∈ SubmittedIn events request ∧ CurrentApproval decision nowMs}

-- The clock readings of the accepted decide calls for a request never go back.
def ClockOrdered (request : WitnessRequestV1) (events : List EngineEvent) : Prop :=
  events.Pairwise fun first second => Decides request first → Decides request second →
    first.input.context.wallTimeMs ≤ second.input.context.wallTimeMs

-- At no accepted decide call for a request has an approver more than two different current decisions.
def AtMostTwo (request : WitnessRequestV1) (events : List EngineEvent) : Prop :=
  ∀ before event after, events = before ++ event :: after → Decides request event →
    ∀ first ∈ CurrentIn (before ++ [event]) request event.input.context.wallTimeMs,
    ∀ second ∈ CurrentIn (before ++ [event]) request event.input.context.wallTimeMs,
    ∀ third ∈ CurrentIn (before ++ [event]) request event.input.context.wallTimeMs,
      first.approverId = second.approverId → second.approverId = third.approverId →
        first = second ∨ second = third ∨ first = third

section Events

variable {request : WitnessRequestV1} {policy : ReplayedPolicy} {manifest : ActionManifestV1}

theorem ClockOrdered.init (h : ClockOrdered request (events ++ [event])) : ClockOrdered request events :=
  (pairwise_append.mp h).1

theorem ClockOrdered.last (h : ClockOrdered request (events ++ [event])) (hlast : Decides request event)
    {other : EngineEvent} (hother : other ∈ events) (hdecides : Decides request other) :
    other.input.context.wallTimeMs ≤ event.input.context.wallTimeMs :=
  (pairwise_append.mp h).2.2 other hother event (by simp) hdecides hlast

theorem AtMostTwo.init (h : AtMostTwo request (events ++ [event])) : AtMostTwo request events := by
  intro before middle after heq
  exact h before middle (after ++ [event]) (by simp [heq])

theorem submittedIn_append_decide (hacc : Accepted event)
    (hop : event.input.operation = .decide policy request manifest approvals) :
    decision ∈ SubmittedIn (events ++ [event]) request ↔ decision ∈ SubmittedIn events request ∨ decision ∈ approvals := by
  constructor
  · rintro ⟨other, hother, hacc, _, _, _, hother', hdec⟩
    rcases mem_append.mp hother with hother | hother
    · exact .inl ⟨other, hother, hacc, _, _, _, hother', hdec⟩
    · obtain rfl := mem_singleton.mp hother
      rw [hop] at hother'
      cases hother'
      exact .inr hdec
  · rintro (⟨other, hother, hrest⟩ | hdec)
    · exact ⟨other, mem_append_left _ hother, hrest⟩
    · exact ⟨event, by simp, hacc, policy, manifest, approvals, hop, hdec⟩

theorem submittedIn_append_other (hother : ¬ Decides request event) :
    SubmittedIn (events ++ [event]) request = SubmittedIn events request := by
  ext decision
  constructor
  · rintro ⟨found, hfound, hacc, _, _, _, hop, hdec⟩
    rcases mem_append.mp hfound with hfound | hfound
    · exact ⟨found, hfound, hacc, _, _, _, hop, hdec⟩
    · obtain rfl := mem_singleton.mp hfound
      exact absurd ⟨hacc, _, _, _, hop⟩ hother
  · rintro ⟨found, hfound, hrest⟩
    exact ⟨found, mem_append_left _ hfound, hrest⟩

theorem exists_call_of_submitted (h : decision ∈ SubmittedIn (engine.trace state calls) request) :
    ∃ call ∈ calls, decision ∈ call.operation.approvals := by
  obtain ⟨event, hevent, -, _, _, _, hop, hdec⟩ := h
  obtain ⟨earlier, input, later, rfl, rfl⟩ := (Machine.mem_trace engine).mp hevent
  refine ⟨input, by simp, ?_⟩
  have hcall : input.operation = _ := hop
  rw [hcall]
  exact hdec

theorem submittedIn_eq_empty (h : ∀ event ∈ events, ¬ Decides request event) : SubmittedIn events request = ∅ := by
  ext decision
  refine iff_of_false ?_ (Set.notMem_empty _)
  rintro ⟨event, hevent, hacc, _, _, _, hop, -⟩
  exact h event hevent ⟨hacc, _, _, _, hop⟩

end Events

section Serve

variable {call : Call} {policy : ReplayedPolicy} {request : WitnessRequestV1} {manifest : ActionManifestV1}

structure Decided (world : World) (call : Call) (policy : ReplayedPolicy) (request : WitnessRequestV1)
    (manifest : ActionManifestV1) (approvals : List ApprovalDecisionV1) (known : WitnessReplayEntry)
    (entry : Option WitnessReplayEntry) (progress : WitnessProgress) : Prop where
  deciding : Deciding world.store.logical known request manifest
  planned : DecidePlanned call.context policy request manifest approvals world.store.logical known entry progress
  stored : (world.serve call).2.store.logical.replay[requestKey request]? = some (entry.getD known)
  reply : ∀ reply, (world.serve call).1 = .ok reply → reply = .progress progress

theorem Prepared.decided (hop : call.operation = .decide policy request manifest approvals)
    (h : Prepared call.context (call.operation.planner call.context) world ready plan) :
    ∃ known entry progress, Deciding world.store.logical known request manifest ∧
      DecidePlanned call.context policy request manifest approvals world.store.logical known entry progress ∧
      plan = (decidePlanOf world.store.logical (requestKey request) entry progress).map .progress := by
  obtain ⟨inner, rest, hplan, rfl⟩ := Drawing.value_map_eq_ok.mp (hop ▸ h.planned)
  obtain ⟨known, entry, progress, hdeciding, hdecide, rfl⟩ := decidePlan_ok hplan
  rw [h.publishing.logical_eq] at hdeciding hdecide ⊢
  exact ⟨known, entry, progress, hdeciding, hdecide, rfl⟩

theorem accepted_decided (hop : call.operation = .decide policy request manifest approvals)
    (hacc : Accepted (engine.event world call)) :
    ∃ known entry progress, Decided world call policy request manifest approvals known entry progress := by
  have hsigns := signs_unsigned call.context.identity
  have hwritten : ∀ ready planned due advanced committed,
      Prepared call.context (call.operation.planner call.context) world ready (.write planned due) →
      advanceGeneration planned call.context.wallTimeMs = .ok advanced →
      Committed unsigned ready advanced committed → committed.Publishing (world.serve call).2 →
      (∀ reply, (world.serve call).1 = .ok reply → ∃ state, due state = .ok reply) →
      ∃ known entry progress, Decided world call policy request manifest approvals known entry progress := by
    intro ready planned due advanced committed hprep hadv hcomm hpubl hreply
    obtain ⟨known, entry, progress, hdeciding, hplanned, hplan⟩ := hprep.decided hop
    refine ⟨known, entry, progress, hdeciding, hplanned, ?_, fun reply hok => ?_⟩
    · rw [hpubl.logical_eq, hcomm.value, (advanceGeneration_eq_ok hadv).2.2.2.1]
      cases entry with
      | none => cases hplan
      | some entry =>
        cases hplan
        exact Std.ExtTreeMap.getElem?_insert_self
    · obtain ⟨state, hdue⟩ := hreply reply hok
      cases entry with
      | none => cases hplan
      | some entry =>
        cases hplan
        exact (Except.ok.inj hdue).symm
  by_cases hanswer : ∃ reply, (world.serve call).1 = .ok reply
  · obtain ⟨reply, hok⟩ := hanswer
    obtain ⟨-, hanswered⟩ := serve_ok hsigns (Prod.ext hok rfl : world.serve call = (.ok reply, (world.serve call).2))
    cases hanswered with
    | read hprep =>
      obtain ⟨known, entry, progress, hdeciding, hplanned, hplan⟩ := hprep.decided hop
      cases entry with
      | some entry => cases hplan
      | none =>
        cases hplan
        refine ⟨known, none, progress, hdeciding, hplanned, ?_, fun reply hreply => ?_⟩
        · rw [hprep.publishing.logical_eq]
          exact hdeciding.found
        · exact ok_unique hreply hok
    | wrote hprep hadv hcomm hpubl _ hreply =>
      refine hwritten _ _ _ _ _ hprep hadv hcomm hpubl fun other hother => ?_
      obtain rfl := ok_unique hok hother
      exact ⟨_, hreply⟩
  · have hchanged := hacc.resolve_left hanswer
    cases serve_final hsigns world with
    | kept hpubl => exact absurd hpubl.logical_eq hchanged
    | written hprep hwrite =>
      cases hwrite with
      | kept hagrees =>
        exact absurd ((congrArg _ hagrees.store).trans hprep.publishing.logical_eq) hchanged
      | committed hadv hcomm hpubl =>
        exact hwritten _ _ _ _ _ hprep hadv hcomm hpubl fun reply hreply =>
          absurd ⟨reply, hreply⟩ hanswer

end Serve

-- A record holds the decisions submitted for its request that were current at the last decide call.
structure Tracked (events : List EngineEvent) (request : WitnessRequestV1) (recorded : List ApprovalDecisionV1)
    (lastMs : UInt64) : Prop where
  current : ∀ decision, decision ∈ recorded ↔ decision ∈ CurrentIn events request lastMs
  submitted : ∀ decision ∈ SubmittedIn events request, ∃ time, time ≤ lastMs ∧ CurrentApproval decision time
  last : SubmittedIn events request = ∅ ∨
    ∃ event ∈ events, Decides request event ∧ event.input.context.wallTimeMs = lastMs

section Track

variable {request : WitnessRequestV1} {policy : ReplayedPolicy} {manifest : ActionManifestV1}

theorem Tracked.empty (h : SubmittedIn events request = ∅) : Tracked events request [] lastMs := by
  refine ⟨fun decision => ?_, fun decision hdec => ?_, .inl h⟩
  · refine iff_of_false (by simp) fun hcur => ?_
    rw [CurrentIn, h] at hcur
    exact hcur.1
  · rw [h] at hdec
    exact absurd hdec (Set.notMem_empty _)

theorem Tracked.other (h : Tracked events request recorded lastMs) (hother : ¬ Decides request event) :
    Tracked (events ++ [event]) request recorded lastMs := by
  have hsame : SubmittedIn (events ++ [event]) request = SubmittedIn events request := submittedIn_append_other hother
  refine ⟨?_, ?_, ?_⟩
  · intro decision
    rw [CurrentIn, hsame]
    exact h.current decision
  · rw [hsame]
    exact h.submitted
  · rw [hsame]
    refine h.last.imp_right ?_
    rintro ⟨found, hfound, hdecides⟩
    exact ⟨found, mem_append_left _ hfound, hdecides⟩

theorem Tracked.considered (h : Tracked events request recorded lastMs) (hacc : Accepted event)
    (hop : event.input.operation = .decide policy request manifest approvals)
    (hordered : ClockOrdered request (events ++ [event]))
    (hfresh : ∀ approval ∈ approvals, CurrentApproval approval event.input.context.wallTimeMs)
    (decision : ApprovalDecisionV1) :
    decision ∈ consideredApprovals recorded approvals event.input.context.wallTimeMs ↔
      decision ∈ CurrentIn (events ++ [event]) request event.input.context.wallTimeMs := by
  have hdecides : Decides request event := ⟨hacc, _, _, _, hop⟩
  simp only [consideredApprovals, CurrentIn, Set.mem_ofPred_eq, submittedIn_append_decide hacc hop,
    mem_append, mem_filter, approvalIsCurrent_iff, h.current decision]
  constructor
  · rintro (⟨⟨hsubmitted, -⟩, hnow⟩ | hnew)
    · exact ⟨.inl hsubmitted, hnow⟩
    · exact ⟨.inr hnew, hfresh decision hnew⟩
  · rintro ⟨hsubmitted | hnew, hnow⟩
    · -- It was current when it came and is current now, so it was current at the call in between.
      obtain ⟨time, htime, hcur⟩ := h.submitted decision hsubmitted
      rcases h.last with hempty | ⟨found, hfound, hfoundDecides, rfl⟩
      · rw [hempty] at hsubmitted
        exact absurd hsubmitted (Set.notMem_empty _)
      · exact .inl ⟨⟨hsubmitted, hcur.between hnow htime (hordered.last hdecides hfound hfoundDecides)⟩, hnow⟩
    · exact .inr hnew

theorem Tracked.decided (h : Tracked events request recorded lastMs) (hacc : Accepted event)
    (hop : event.input.operation = .decide policy request manifest approvals)
    (hordered : ClockOrdered request (events ++ [event])) (hfew : AtMostTwo request (events ++ [event]))
    (hfresh : ∀ approval ∈ approvals, CurrentApproval approval event.input.context.wallTimeMs)
    (hnorm : Normalized (consideredApprovals recorded approvals event.input.context.wallTimeMs) distinct
      accepted) : Tracked (events ++ [event]) request accepted event.input.context.wallTimeMs := by
  have hdecides : Decides request event := ⟨hacc, _, _, _, hop⟩
  have hconsidered := h.considered hacc hop hordered hfresh
  refine ⟨fun decision => ?_, fun decision hdec => ?_, .inr ⟨event, by simp, hdecides, rfl⟩⟩
  · rw [← hconsidered decision]
    refine hnorm.mem_accepted (length_le_two_of_nodup (hnorm.nodup.filter _) ?_)
    intro a ha b hb c hc
    obtain ⟨ha, happr⟩ := mem_filter_approver.mp ha
    obtain ⟨hb, happrover'⟩ := mem_filter_approver.mp hb
    obtain ⟨hc, happrover''⟩ := mem_filter_approver.mp hc
    refine hfew events event [] rfl hdecides a ?_ b ?_ c ?_ (happr.trans happrover'.symm)
      (happrover'.trans happrover''.symm)
    · exact (hconsidered a).mp ((hnorm.mem a).mp ha)
    · exact (hconsidered b).mp ((hnorm.mem b).mp hb)
    · exact (hconsidered c).mp ((hnorm.mem c).mp hc)
  · rcases (submittedIn_append_decide hacc hop).mp hdec with hold | hnew
    · obtain ⟨time, htime, hcur⟩ := h.submitted decision hold
      rcases h.last with hempty | ⟨found, hfound, hfoundDecides, rfl⟩
      · rw [hempty] at hold
        exact absurd hold (Set.notMem_empty _)
      · exact ⟨time, UInt64.le_trans htime (hordered.last hdecides hfound hfoundDecides), hcur⟩
    · exact ⟨_, UInt64.le_refl _, hfresh decision hnew⟩

end Track

-- How the records stand to the decide calls for a request: an open record tracks them, and a request
-- without a record has had none, or is over for good.
structure History (events : List EngineEvent) (logical : WitnessLogicalState) (request : WitnessRequestV1) :
    Prop where
  tracked : ∀ known, logical.replay[requestKey request]? = some known → known.request = request →
    known.state = .reserved → ∃ lastMs, Tracked events request known.approvals lastMs
  absent : (∀ known, logical.replay[requestKey request]? = some known → known.request ≠ request) →
    (∀ event ∈ events, ¬ Decides request event) ∨
      request.expiresAtMs.toNat + REPLAY_RETENTION_MS.toNat < logical.lastAcceptedWallTimeMs.toNat

section History

variable {request : WitnessRequestV1} {world : World} {call : Call}

theorem EntryStep.open_record (h : EntryStep context operation before key old new) (hnew : new = some entry)
    (hres : entry.state = .reserved) :
    old = some entry ∨ (old = none ∧ entry.approvals = [] ∧ InValidity entry.request context.wallTimeMs) ∨
      ∃ policy manifest approvals, operation = .decide policy entry.request manifest approvals := by
  cases h with
  | kept => exact .inl hnew
  | reserved _ _ hvalid =>
    cases hnew
    exact .inr (.inl ⟨rfl, rfl, (validateRequest_eq_ok hvalid).time⟩)
  | conflicted | stale | cancelled | tombstoned =>
    cases hnew
    cases hres
  | decided hop _ hdeciding hplanned =>
    cases hnew
    obtain rfl := hdeciding.same
    cases hplanned <;> exact .inr (.inr ⟨_, _, _, hop⟩)
  | compacted => cases hnew

theorem EntryStep.gone (h : EntryStep context operation before key old new) (hold : old = some known)
    (hgone : ∀ entry, new = some entry → entry.request ≠ known.request) :
    known.retainThroughMs < context.wallTimeMs := by
  cases h with
  | kept => exact absurd rfl (hgone known hold)
  | reserved | tombstoned => cases hold
  | conflicted | stale | cancelled =>
    cases hold
    have hsame := hgone _ rfl
    exact absurd rfl hsame
  | decided _ _ _ hplanned =>
    cases hold
    have hsame := hgone _ rfl
    cases hplanned <;> exact absurd rfl hsame
  | compacted _ hover =>
    cases hold
    exact hover

theorem History.other (h : History events world.store.logical request)
    (hcoh : CoherentRecords world.store.logical) (hother : ¬ Decides request (engine.event world call)) :
    History (events ++ [engine.event world call]) (world.serve call).2.store.logical request := by
  have hnone : (∀ event ∈ events, ¬ Decides request event) →
      ∀ event ∈ events ++ [engine.event world call], ¬ Decides request event := by
    intro hnone event hevent
    rcases mem_append.mp hevent with hevent | hevent
    · exact hnone event hevent
    · exact mem_singleton.mp hevent ▸ hother
  rcases serve_logical world call with hkept | hstepped
  · rw [hkept]
    refine ⟨fun known hstored hrequest hres => ?_, fun habsent => (h.absent habsent).imp_left hnone⟩
    obtain ⟨lastMs, htracked⟩ := h.tracked known hstored hrequest hres
    exact ⟨lastMs, htracked.other hother⟩
  cases hstepped with
  | @intro planned hclock hstep hadv =>
    obtain ⟨hgen, hlast, -, hreplay, -⟩ := advanceGeneration_eq_ok hadv
    rw [hstep.clock] at hlast
    have hentry := hstep.entries (requestKey request)
    rw [← hreplay] at hentry
    refine ⟨fun known hstored hrequest hres => ?_, fun habsent => ?_⟩
    · rcases hentry.open_record hstored hres with hold | ⟨hold, hempty, hvalid⟩ | ⟨_, _, _, hop⟩
      · obtain ⟨lastMs, htracked⟩ := h.tracked known hold hrequest hres
        exact ⟨lastMs, htracked.other hother⟩
      · rcases h.absent (by simp [hold]) with hnever | hover
        · refine ⟨0, ?_⟩
          rw [hempty]
          exact .empty (submittedIn_eq_empty (hnone hnever))
        · -- A clock that accepts the request again would be a day behind the last accepted one.
          have hunexp := hvalid.unexpired
          have hretention : REPLAY_RETENTION_MS.toNat = 86400000 := rfl
          have hskew : ACCEPTED_CLOCK_SKEW_MS.toNat = 60000 := rfl
          rw [hrequest] at hunexp
          omega
      · -- A decide call that changes the state is accepted.
        refine absurd ⟨.inr fun heq => ?_, _, _, _, hrequest ▸ hop⟩ hother
        have hsame : (world.serve call).2.store.logical = world.store.logical := heq
        rw [hsame, hstep.generation] at hgen
        omega
    · by_cases hbefore : ∀ known, world.store.logical.replay[requestKey request]? = some known →
          known.request ≠ request
      · refine (h.absent hbefore).imp hnone fun hover => ?_
        rw [hlast]
        exact hover.trans_le (le_max_left _ _)
      · simp only [not_forall, not_not] at hbefore
        obtain ⟨known, hstored, hrequest⟩ := hbefore
        refine .inr ?_
        have hover := hentry.gone hstored fun entry hnew => hrequest ▸ habsent entry hnew
        have hretained := (hcoh _ _ hstored).retained
        rw [UInt64.lt_iff_toNat_lt] at hover
        rw [hlast, ← hrequest]
        exact lt_of_eq_of_lt hretained.symm (hover.trans_le (le_max_right _ _))

theorem History.decided (h : History events world.store.logical request)
    (hcoh : CoherentRecords world.store.logical) (hdecides : Decides request (engine.event world call))
    (hordered : ClockOrdered request (events ++ [engine.event world call]))
    (hfew : AtMostTwo request (events ++ [engine.event world call])) :
    History (events ++ [engine.event world call]) (world.serve call).2.store.logical request := by
  obtain ⟨hacc, policy, manifest, approvals, hop⟩ := hdecides
  obtain ⟨known, entry, progress, hdecided⟩ := accepted_decided hop hacc
  have hsame := hdecided.deciding.same
  refine ⟨fun after hstored hrequest hres => ?_, fun habsent => ?_⟩
  · have hafter := some_unique hstored hdecided.stored
    have hopen : known.state = .reserved → ∃ lastMs, Tracked events request known.approvals lastMs :=
      h.tracked known hdecided.deciding.found hsame
    have hcounted : ∀ validated accepted,
        Counted call.context policy request manifest approvals world.store.logical known validated accepted →
        Tracked (events ++ [engine.event world call]) request accepted call.context.wallTimeMs := by
      intro validated accepted hcounted
      have hunanswered := hcounted.unanswered
      have hmerged := mergeApprovals_eq_ok hcounted.merged
      obtain ⟨distinct, hnorm⟩ := hmerged.normalized
      obtain ⟨lastMs, htracked⟩ := hopen ((hcoh _ _ hdecided.deciding.found).reserved.mpr hunanswered)
      exact htracked.decided hacc hop hordered hfew hmerged.fresh hnorm
    cases hdecided.planned with
    | stable hresp =>
      rw [hafter] at hres
      rw [(hcoh _ _ hdecided.deciding.found).reserved.mp hres] at hresp
      cases hresp
    | expired | approved | denied =>
      rw [hafter] at hres
      cases hres
    | recorded hcount | pending hcount =>
      rw [hafter]
      exact ⟨_, hcounted _ _ hcount⟩
  · refine absurd ?_ (habsent _ hdecided.stored)
    cases hdecided.planned <;> exact hsame

theorem final_history (witnessId : PrincipalId) (calls : List Call) (request : WitnessRequestV1)
    (hordered : ClockOrdered request (engine.trace (World.initial witnessId) calls))
    (hfew : AtMostTwo request (engine.trace (World.initial witnessId) calls)) :
    History (engine.trace (World.initial witnessId) calls)
      (engine.final (World.initial witnessId) calls).store.logical request := by
  induction calls using reverseRecOn with
  | nil =>
    refine ⟨fun known hstored => ?_, fun _ => .inl fun event hevent => ?_⟩
    · cases hstored
    · cases hevent
  | append_singleton calls call ih =>
    rw [Machine.trace_append] at hordered hfew ⊢
    rw [Machine.final_append]
    have hbefore := ih hordered.init hfew.init
    have hcoh := final_coherentRecords witnessId calls
    by_cases hdecides : Decides request (engine.event (engine.final (World.initial witnessId) calls) call)
    · exact hbefore.decided hcoh hdecides hordered hfew
    · exact hbefore.other hcoh hdecides

theorem Decided.outcome {policy : ReplayedPolicy} {manifest : ActionManifestV1}
    (h : Decided world call policy request manifest approvals known entry progress) (hopen : known.response = none)
    (hunexp : call.context.wallTimeMs < request.expiresAtMs)
    (hrule : policy.state.witnessAccessRule request.itemId request.operation = .ok rule) :
    (∀ approval ∈ approvals, CurrentApproval approval call.context.wallTimeMs) ∧
      (Reply.progress progress).outcome? = some (documentedOutcome
        (documentedTally {decision | decision ∈
          consideredApprovals known.approvals approvals call.context.wallTimeMs} rule)
        rule.approvalThreshold.toNat) := by
  have hcounted : ∀ validated accepted,
      Counted call.context policy request manifest approvals world.store.logical known validated accepted →
      validated.rule = rule ∧ (∀ approval ∈ approvals, CurrentApproval approval call.context.wallTimeMs) ∧
        tallyApprovals accepted rule = documentedTally {decision | decision ∈
          consideredApprovals known.approvals approvals call.context.wallTimeMs} rule := by
    intro validated accepted hcounted
    obtain ⟨_, hgranted⟩ := (validateRequest_eq_ok hcounted.valid).granted
    have hmerged := mergeApprovals_eq_ok hcounted.merged
    obtain ⟨distinct, hnorm⟩ := hmerged.normalized
    exact ⟨ok_unique hgranted.applies hrule, hmerged.fresh, hnorm.tally rule⟩
  cases h.planned with
  | stable hresp =>
    rw [hopen] at hresp
    cases hresp
  | expired _ hinvalid hreason _ =>
    have hexpired := validateRequest_expired _ hinvalid hreason
    exact absurd hunexp (UInt64.not_lt.mpr hexpired)
  | approved hcount hthr happ =>
    obtain ⟨rfl, hfresh, htally⟩ := hcounted _ _ hcount
    rw [htally] at hthr
    refine ⟨hfresh, ?_⟩
    rw [documentedOutcome, if_neg (by omega), if_pos hthr]
    simp [Reply.outcome?, happ.decision]
  | denied hcount hshort hdenial =>
    obtain ⟨rfl, hfresh, htally⟩ := hcounted _ _ hcount
    rw [htally] at hshort hdenial
    refine ⟨hfresh, ?_⟩
    rw [documentedOutcome, if_pos hshort]
    simp [Reply.outcome?, hdenial.decision, hdenial.reason, denialReason]
  | recorded hcount hshort hpossible | pending hcount hshort hpossible =>
    obtain ⟨rfl, hfresh, htally⟩ := hcounted _ _ hcount
    rw [htally] at hshort hpossible
    refine ⟨hfresh, ?_⟩
    rw [documentedOutcome, if_neg (by omega), if_neg (by omega)]
    rfl

-- In every run in which the clock of the decide calls for a request does not go back and no approver has
-- more than two different decisions current at one of them, each answer on the open, unexpired request is
-- the documented one for all decisions submitted so far that are current.
theorem outcome_counts_all_submitted (witnessId : PrincipalId) (calls : List Call) (call : Call)
    (policy : ReplayedPolicy) (request : WitnessRequestV1) (manifest : ActionManifestV1)
    (approvals : List ApprovalDecisionV1) (known : WitnessReplayEntry) (rule : WitnessAccessRule) (reply : Reply)
    (hoperation : call.operation = .decide policy request manifest approvals)
    (hknown : (engine.final (World.initial witnessId) calls).store.logical.replay[requestKey request]? = some known)
    (hrequest : known.request = request) (hreserved : known.state = .reserved)
    (hunexpired : call.context.wallTimeMs < request.expiresAtMs)
    (hrule : policy.state.witnessAccessRule request.itemId request.operation = .ok rule)
    (hordered : ClockOrdered request (engine.trace (World.initial witnessId) (calls ++ [call])))
    (hfew : AtMostTwo request (engine.trace (World.initial witnessId) calls))
    (hreply : ((engine.final (World.initial witnessId) calls).serve call).1 = .ok reply) :
    reply.outcome? = some (documentedOutcome
      (documentedTally (CurrentIn (engine.trace (World.initial witnessId) (calls ++ [call])) request
        call.context.wallTimeMs) rule) rule.approvalThreshold.toNat) := by
  rw [Machine.trace_append] at hordered ⊢
  have hhistory := final_history witnessId calls request hordered.init hfew
  have hcoh := final_coherentRecords witnessId calls
  have hacc : Accepted (engine.event (engine.final (World.initial witnessId) calls) call) := .inl ⟨reply, hreply⟩
  obtain ⟨found, entry, progress, hdecided⟩ := accepted_decided hoperation hacc
  obtain rfl := some_unique hknown hdecided.deciding.found
  have hopen := (hcoh _ _ hknown).reserved.mp hreserved
  obtain ⟨hfresh, houtcome⟩ := hdecided.outcome hopen hunexpired hrule
  obtain ⟨lastMs, htracked⟩ := hhistory.tracked known hknown hrequest hreserved
  have hall : {decision | decision ∈ consideredApprovals known.approvals approvals call.context.wallTimeMs} =
      CurrentIn (engine.trace (World.initial witnessId) calls ++
        engine.trace (engine.final (World.initial witnessId) calls) [call]) request call.context.wallTimeMs :=
    Set.ext fun decision => htracked.considered hacc hoperation hordered hfresh decision
  rw [hdecided.reply reply hreply, houtcome, hall]

end History

end Jury.Engine

namespace Jury.Engine.Sample

open Protocol.Sample Protocol.Witness Policy.Sample

-- One approver sends an approval and two denials in one call; the denial with the larger encoding is
-- not kept, and the other one expires first.
def favourable : ApprovalDecisionV1 := approval 3 1 (manifest 1 10000 20000) .approve 18000

def shortDenial : ApprovalDecisionV1 := approval 3 2 (manifest 1 10000 20000) .deny 11000

def longDenial : ApprovalDecisionV1 := approval 3 3 (manifest 1 10000 20000) .deny 18000

def conflicting : Call := deciding 10002 (manifest 1 10000 20000) [favourable, shortDenial, longDenial]

def asking : Call := deciding 12000 (manifest 1 10000 20000) []

def concealed : List Call := [registering, reserving 10001 1 (manifest 1 10000 20000), conflicting]

end Jury.Engine.Sample

namespace Jury.Engine

open Lib Protocol.Sample Protocol.Witness Policy.Sample Engine.Sample

theorem normalization_stable (a b : List ApprovalDecisionV1) (ha : WellFormed a) (hb : WellFormed b) :
    ((∀ decision, decision ∈ a ↔ decision ∈ b) → normalizeApprovals a = normalizeApprovals b) ∧
      (do normalizeApprovals ((← normalizeApprovals a) ++ b)) = normalizeApprovals (a ++ b) ∧
      (∀ normalized rule, normalizeApprovals a = .ok normalized →
        tallyApprovals normalized rule = documentedTally {decision | decision ∈ a} rule) ∧
      ((a.map (·.approverId)).toFinset.card ≤ 32 → ∃ normalized, normalizeApprovals a = .ok normalized) := by
  refine ⟨normalize_congr ha, normalize_absorbs ha hb, fun normalized rule h => ?_, normalize_accepts ha⟩
  obtain ⟨distinct, hnorm⟩ := normalizeApprovals_eq_ok h
  exact hnorm.tally rule

theorem denials_normalization_stable :
    WellFormed [favourable, longDenial] ∧ WellFormed [shortDenial] ∧
      (do normalizeApprovals ((← normalizeApprovals [favourable, longDenial]) ++ [shortDenial])) =
        normalizeApprovals [favourable, longDenial, shortDenial] ∧
      ∃ normalized, normalizeApprovals [favourable, longDenial] = .ok normalized := by
  have hrun : ∀ decision ∈ [favourable, longDenial, shortDenial], decision.canonicalBytes.isOk = true := by
    decide +kernel
  have hwell : WellFormed ([favourable, longDenial] ++ [shortDenial]) := fun decision hdec =>
    exists_eq_ok_of_isOk (hrun decision hdec)
  obtain ⟨hfirst, hsecond⟩ := wellFormed_append.mp hwell
  obtain ⟨-, habsorbs, -, haccepts⟩ := normalization_stable _ _ hfirst hsecond
  exact ⟨hfirst, hsecond, habsorbs, haccepts (List.toFinset_card_le _ |>.trans (by decide))⟩

theorem concealed_submitted
    (h : decision ∈ SubmittedIn (engine.trace home (concealed ++ [asking])) (request 1 (manifest 1 10000 20000))) :
    decision = favourable ∨ decision = shortDenial ∨ decision = longDenial := by
  obtain ⟨call, hcall, hdec⟩ := exists_call_of_submitted h
  simp only [concealed, List.cons_append, List.nil_append, List.mem_cons, List.not_mem_nil, or_false] at hcall
  rcases hcall with rfl | rfl | rfl | rfl
  · have hnone : decision ∈ ([] : List ApprovalDecisionV1) := hdec
    cases hnone
  · have hnone : decision ∈ ([] : List ApprovalDecisionV1) := hdec
    cases hnone
  · have hthree : decision ∈ [favourable, shortDenial, longDenial] := hdec
    simpa using hthree
  · have hnone : decision ∈ ([] : List ApprovalDecisionV1) := hdec
    cases hnone

-- The second call approves on the approval alone, although a denial of the same approver that was
-- submitted with it is current.
theorem approval_conceals_denial :
    (((engine.final home concealed).serve asking).1.toOption.bind Reply.outcome? = some .approved) ∧
      asking.context.wallTimeMs < (request 1 (manifest 1 10000 20000)).expiresAtMs ∧
      longDenial.decision = .deny ∧
      longDenial ∈ CurrentIn (engine.trace home (concealed ++ [asking])) (request 1 (manifest 1 10000 20000))
        asking.context.wallTimeMs ∧
      ∀ rule, policy.state.witnessAccessRule witnessedItem .readStdout = .ok rule →
        documentedOutcome (documentedTally (CurrentIn (engine.trace home (concealed ++ [asking]))
          (request 1 (manifest 1 10000 20000)) asking.context.wallTimeMs) rule) rule.approvalThreshold.toNat ≠
          .approved := by
  have hrun : ((engine.final home concealed).serve asking).1.toOption.bind Reply.outcome? = some .approved ∧
      ((engine.final home (concealed.take 2)).serve conflicting).1.isOk = true ∧
      Returns (policy.state.witnessAccessRule witnessedItem .readStdout) (fun rule => rule.approvalThreshold == 1) =
        true ∧ favourable.approverId = longDenial.approverId ∧ favourable ≠ longDenial := by decide +kernel
  obtain ⟨happroved, hanswered, hthr, hsame, hdiffer⟩ := hrun
  have hevent : engine.event (engine.final home (concealed.take 2)) conflicting ∈
      engine.trace home (concealed ++ [asking]) :=
    (Machine.mem_trace engine).mpr ⟨concealed.take 2, conflicting, [asking], rfl, rfl⟩
  have hdenial : longDenial ∈ CurrentIn (engine.trace home (concealed ++ [asking]))
      (request 1 (manifest 1 10000 20000)) asking.context.wallTimeMs := by
    have hnow : CurrentApproval longDenial asking.context.wallTimeMs := approvalIsCurrent_iff.mp (by decide)
    have hacc : Accepted (engine.event (engine.final home (concealed.take 2)) conflicting) := by
      generalize engine.final home (concealed.take 2) = world at hanswered ⊢
      cases hreply : (world.serve conflicting).1 with
      | ok reply => exact .inl ⟨reply, hreply⟩
      | error error =>
        rw [hreply] at hanswered
        cases hanswered
    exact ⟨⟨_, hevent, hacc, policy, manifest 1 10000 20000, _, rfl, by simp⟩, hnow⟩
  refine ⟨happroved, by decide, rfl, hdenial, fun rule hrule => ?_⟩
  -- Nobody approves: the only approver who has sent an approval is in conflict.
  have hnobody : ∀ approverId, ¬ Approving (CurrentIn (engine.trace home (concealed ++ [asking]))
      (request 1 (manifest 1 10000 20000)) asking.context.wallTimeMs) approverId := by
    rintro approverId ⟨decision, hsole, happrove⟩
    rcases concealed_submitted hsole.1.1 with rfl | rfl | rfl
    · exact hdiffer (hsole.2.2 longDenial hdenial (hsame.symm.trans hsole.2.1)).symm
    · cases happrove
    · cases happrove
  refine documentedOutcome_ne_approved ?_
  rw [hrule] at hthr
  have hone : rule.approvalThreshold = 1 := by simpa [Returns] using hthr
  have hzero : (documentedTally (CurrentIn (engine.trace home (concealed ++ [asking]))
      (request 1 (manifest 1 10000 20000)) asking.context.wallTimeMs) rule).approved = 0 := by
    simp [documentedTally, hnobody]
  rw [hzero, hone]
  decide

theorem outcome_counts_all_submitted_first :
    ∃ known rule reply, beforeApproval.store.logical.replay[requestKey (request 1 (manifest 1 10000 20000))]? =
        some known ∧ known.state = .reserved ∧
      policy.state.witnessAccessRule witnessedItem .readStdout = .ok rule ∧
      (beforeApproval.serve approvingCall).1 = .ok reply ∧
      reply.outcome? = some (documentedOutcome (documentedTally
        (CurrentIn (engine.trace home (repeated.take 2 ++ [approvingCall])) (request 1 (manifest 1 10000 20000)) 10003)
        rule) rule.approvalThreshold.toNat) := by
  have hrun : (beforeApproval.store.logical.replay[requestKey (request 1 (manifest 1 10000 20000))]?.map
        fun entry => (entry.request, entry.state)) = some (request 1 (manifest 1 10000 20000), .reserved) ∧
      (policy.state.witnessAccessRule witnessedItem .readStdout).isOk = true ∧
      (beforeApproval.serve approvingCall).1.isOk = true := by decide +kernel
  obtain ⟨hrecord, hrule, hanswered⟩ := hrun
  obtain ⟨known, hknown, hstate⟩ := Option.map_eq_some_iff.mp hrecord
  obtain ⟨hrequest, hres⟩ := Prod.mk.inj hstate
  obtain ⟨rule, hrule⟩ := exists_eq_ok_of_isOk hrule
  obtain ⟨reply, hreply⟩ := exists_eq_ok_of_isOk hanswered
  have hregister : ∀ world, ¬ Decides (request 1 (manifest 1 10000 20000)) (engine.event world registering) := by
    rintro world ⟨-, _, _, _, hop⟩
    cases hop
  have hreserve : ∀ world, ¬ Decides (request 1 (manifest 1 10000 20000))
      (engine.event world (reserving 10001 1 (manifest 1 10000 20000))) := by
    rintro world ⟨-, _, _, _, hop⟩
    cases hop
  have hordered : ClockOrdered (request 1 (manifest 1 10000 20000))
      (engine.trace home (repeated.take 2 ++ [approvingCall])) :=
    .cons (fun _ _ hdecides => absurd hdecides (hregister _))
      (.cons (fun _ _ hdecides => absurd hdecides (hreserve _)) (List.pairwise_singleton _ _))
  have hfew : AtMostTwo (request 1 (manifest 1 10000 20000)) (engine.trace home (repeated.take 2)) := by
    intro before event after hevents hdecides
    have hevent : event ∈ engine.trace home (repeated.take 2) := by simp [hevents]
    obtain ⟨earlier, input, later, hinputs, rfl⟩ := (Machine.mem_trace engine).mp hevent
    have hinput : input ∈ repeated.take 2 := by simp [hinputs]
    simp only [repeated, List.take_succ_cons, List.take_zero, List.mem_cons, List.not_mem_nil, or_false] at hinput
    rcases hinput with rfl | rfl
    · exact absurd hdecides (hregister _)
    · exact absurd hdecides (hreserve _)
  have hunexp : approvingCall.context.wallTimeMs < (request 1 (manifest 1 10000 20000)).expiresAtMs := by decide
  refine ⟨known, rule, reply, hknown, hres, hrule, hreply, ?_⟩
  have hcounts := outcome_counts_all_submitted home.witnessId (repeated.take 2) approvingCall policy
    (request 1 (manifest 1 10000 20000)) (manifest 1 10000 20000) _ known rule reply rfl
  have hhome : World.initial home.witnessId = home := rfl
  have hbefore : engine.final home (repeated.take 2) = beforeApproval := rfl
  rw [hhome, hbefore] at hcounts
  exact hcounts hknown hrequest hres hunexp hrule hordered hfew hreply

end Jury.Engine
