import Jury.Engine.Coherence

-- A request has one terminal response at a witness. Once it has been returned it stays in the record of
-- the request, and once that record is compacted no safe clock accepts the request again.
namespace Jury.Engine

open Lib Protocol Witness

variable [Crypto]

-- A request that has its response, in a record or in a past that is over.
inductive Settled (request : WitnessRequestV1) (response : WitnessResponseV1) (logical : WitnessLogicalState) :
    Prop where
  | recorded {entry : WitnessReplayEntry} (hstored : logical.replay[requestKey request]? = some entry)
      (hrequest : entry.request = request) (hresp : entry.response = some response)
  | past (hover : request.expiresAtMs.toNat + REPLAY_RETENTION_MS.toNat < logical.lastAcceptedWallTimeMs.toNat)
      (habsent : ∀ entry, logical.replay[requestKey request]? = some entry → entry.request ≠ request)

section Steps

variable {request : WitnessRequestV1}

theorem EntryStep.request_eq (h : EntryStep context operation before key old new) (hnew : new = some entry) :
    (∃ known, old = some known ∧ known.request = entry.request) ∨ InValidity entry.request context.wallTimeMs := by
  cases h with
  | kept => exact .inl ⟨entry, hnew, rfl⟩
  | reserved _ _ hvalid =>
    cases hnew
    exact .inr (validateRequest_eq_ok hvalid).time
  | tombstoned _ _ hvalid =>
    cases hnew
    exact .inr (validateEmbeddedRequest_eq_ok hvalid).time
  | conflicted | stale | cancelled =>
    cases hnew
    exact .inl ⟨_, rfl, rfl⟩
  | decided _ _ _ hplanned =>
    cases hnew
    cases hplanned <;> exact .inl ⟨_, rfl, rfl⟩
  | compacted => cases hnew

theorem EntryStep.answered (h : EntryStep context operation before key old new) (hold : old = some known)
    (hcoh : CoherentRecord before key known) (hresp : known.response = some response) :
    new = some known ∨ new = none ∧ known.retainThroughMs < context.wallTimeMs := by
  have hopen : known.state ≠ .reserved := fun hres => by
    rw [hcoh.reserved.mp hres] at hresp
    cases hresp
  cases h with
  | kept => exact .inl hold
  | reserved | tombstoned => cases hold
  | conflicted _ _ _ hres | stale _ _ hres =>
    cases hold
    exact absurd hres hopen
  | cancelled _ _ _ hunanswered =>
    cases hold
    rw [hunanswered] at hresp
    cases hresp
  | decided _ _ _ hplanned =>
    cases hold
    have hunanswered := hplanned.unanswered
    rw [hunanswered] at hresp
    cases hresp
  | compacted _ hover =>
    cases hold
    exact .inr ⟨rfl, hover⟩

theorem Settled.stepped {call : Call} (h : Settled request response before) (hcoh : CoherentRecords before)
    (hstepped : Stepped call before after) : Settled request response after := by
  cases hstepped with
  | @intro planned hclock hstep hadv =>
    obtain ⟨-, hlast, -, hreplay, -⟩ := advanceGeneration_eq_ok hadv
    rw [hstep.clock] at hlast
    have hentry := hstep.entries (requestKey request)
    cases h with
    | @recorded entry hstored hrequest hresp =>
      have hrecord := hcoh _ _ hstored
      rcases hentry.answered hstored hrecord hresp with hkept | ⟨hgone, hover⟩
      · exact .recorded ((congrArg (·[requestKey request]?) hreplay).trans hkept) hrequest hresp
      · refine .past ?_ fun entry hentry => ?_
        · have hretained := hrecord.retained
          have hover := UInt64.lt_iff_toNat_lt.mp hover
          rw [hrequest] at hretained
          exact hlast.symm ▸ lt_of_eq_of_lt hretained.symm (hover.trans_le (le_max_right _ _))
        · rw [hreplay, hgone] at hentry
          cases hentry
    | past hover habsent =>
      refine .past (hlast.symm ▸ hover.trans_le (le_max_left _ _)) fun entry hstored hrequest => ?_
      rw [hreplay] at hstored
      rcases hentry.request_eq hstored with ⟨known, hknown, hsame⟩ | hvalid
      · exact habsent known hknown (hsame.trans hrequest)
      · -- A clock that accepts the request again would be a day behind the last accepted one.
        have hunexp := hvalid.unexpired
        have hretention : REPLAY_RETENTION_MS.toNat = 86400000 := rfl
        have hskew : ACCEPTED_CLOCK_SKEW_MS.toNat = 60000 := rfl
        rw [hrequest] at hunexp
        omega

end Steps

section Runs

variable {request : WitnessRequestV1} {world : World} {returned : WitnessResponseV1}

theorem Settled.final (h : Settled request response world.store.logical) (hcoh : CoherentRecords world.store.logical)
    (calls : List Call) : Settled request response (engine.final world calls).store.logical := by
  refine (final_logical (P := fun logical => CoherentRecords logical ∧ Settled request response logical) ⟨hcoh, h⟩ ?_).2
  rintro before after call - ⟨hcoh, hsettled⟩ hstepped
  exact ⟨hcoh.stepped hstepped, hsettled.stepped hcoh hstepped⟩

structure ReturnsFor (event : EngineEvent) (request : WitnessRequestV1) (response : WitnessResponseV1) : Prop where
  returned : responseOf event = some response
  recorded : ∃ entry, event.after.store.logical.replay[requestKey request]? = some entry ∧
    entry.request = request ∧ entry.response = some response

theorem ReturnsFor.settled (h : ReturnsFor event request response) :
    Settled request response event.after.store.logical := by
  obtain ⟨entry, hstored, hrequest, hresp⟩ := h.recorded
  exact .recorded hstored hrequest hresp

theorem Settled.returnsFor_eq {event : EngineEvent} (h : Settled request response event.after.store.logical)
    (hreturns : ReturnsFor event request returned) : returned = response := by
  obtain ⟨entry, hstored, hrequest, hresp⟩ := hreturns.recorded
  cases h with
  | recorded hsettled _ hanswer =>
    obtain rfl := some_unique hstored hsettled
    exact some_unique hresp hanswer
  | past _ habsent => exact absurd hrequest (habsent entry hstored)

theorem returnsFor_unique {witnessId : PrincipalId} {calls : List Call} {first second : EngineEvent}
    (hfirst : first ∈ engine.trace (World.initial witnessId) calls)
    (hsecond : second ∈ engine.trace (World.initial witnessId) calls) (hreturns : ReturnsFor first request response)
    (hreturned : ReturnsFor second request returned) : returned = response := by
  have hcoh : ∀ event ∈ engine.trace (World.initial witnessId) calls, CoherentRecords event.after.store.logical := by
    intro event hevent
    obtain ⟨earlier, call, later, -, rfl⟩ := (Machine.mem_trace engine).mp hevent
    rw [Machine.event_after]
    exact final_coherentRecords witnessId _
  rcases Machine.trace_total engine hfirst hsecond with ⟨between, hbetween⟩ | ⟨between, hbetween⟩
  · have hsettled := hreturns.settled.final (hcoh first hfirst) between
    rw [← hbetween] at hsettled
    exact hsettled.returnsFor_eq hreturned
  · have hsettled := hreturned.settled.final (hcoh second hsecond) between
    rw [← hbetween] at hsettled
    exact (hsettled.returnsFor_eq hreturns).symm

-- Every response is returned for the request of its call, or tells the caller that another request has
-- its identifier: then it is the refusal of that other request, and releases nothing.
theorem returnsFor_call {call : Call} (hcoh : CoherentRecords (world.serve call).2.store.logical)
    (hreturned : responseOf (engine.event world call) = some response) :
    ∃ called subject, call.operation.request? = some called ∧ requestKey subject = requestKey called ∧
      ReturnsFor (engine.event world call) subject response ∧
      subject.digest = .ok response.decision.requestDigest ∧
      (subject = called ∨ (∃ policy manifest, call.operation = .reserve policy called manifest) ∧
        response.contribution = none ∧ Denies .replayConflict response) := by
  obtain ⟨reply, hreply, hresp⟩ := responseOf_eq_some.mp hreturned
  obtain ⟨-, hdelivers⟩ := serve_delivers (Prod.ext hreply rfl : world.serve call = (.ok reply, (world.serve call).2))
  obtain ⟨called, entry, hcalled, hstored, hanswered, hsubject⟩ := hdelivers response hresp
  have hrecord := hcoh _ _ hstored
  refine ⟨called, entry.request, hcalled, hrecord.key.symm, ⟨hreturned, entry, ?_, rfl, hanswered⟩,
    (hrecord.response response hanswered).1, ?_⟩
  · rw [← hrecord.key]
    exact hstored
  · rcases hsubject with hsame | ⟨hreserve, -, hempty, hdeny, hreason⟩
    · exact .inl hsame
    · exact .inr ⟨hreserve, hempty, hdeny, hreason⟩

-- In every run, the responses returned for one request are one response, and no call returns a response
-- for another request than its own but the refusal of a conflicting identifier.
theorem terminal_response_stable (witnessId : PrincipalId) (calls : List Call) :
    (∀ first ∈ engine.trace (World.initial witnessId) calls, ∀ second ∈ engine.trace (World.initial witnessId) calls,
      ∀ request response returned, ReturnsFor first request response → ReturnsFor second request returned →
        returned = response) ∧
    ∀ event ∈ engine.trace (World.initial witnessId) calls, ∀ response, responseOf event = some response →
      ∃ called subject, event.input.operation.request? = some called ∧ requestKey subject = requestKey called ∧
        ReturnsFor event subject response ∧ subject.digest = .ok response.decision.requestDigest ∧
        (subject = called ∨ (∃ policy manifest, event.input.operation = .reserve policy called manifest) ∧
          response.contribution = none ∧ Denies .replayConflict response) := by
  refine ⟨fun first hfirst second hsecond request response returned => returnsFor_unique hfirst hsecond, ?_⟩
  intro event hevent response hreturned
  obtain ⟨earlier, call, later, -, rfl⟩ := (Machine.mem_trace engine).mp hevent
  refine returnsFor_call ?_ hreturned
  have hcoh := final_coherentRecords witnessId (earlier ++ [call])
  rw [← Machine.event_after] at hcoh
  exact hcoh

end Runs

end Jury.Engine

namespace Jury.Engine

open Lib Protocol.Sample Engine.Sample

theorem terminal_response_stable_repeated :
    ∃ first ∈ engine.trace home repeated, ∃ second ∈ engine.trace home repeated, ∃ request response returned,
      first.input.context.wallTimeMs = 10003 ∧ second.input.context.wallTimeMs = 30000 ∧
      ReturnsFor first request response ∧ ReturnsFor second request returned ∧
      response.decision.decision = .approve ∧ returned = response := by
  have hfirst : (engine.trace home repeated)[2]?.map shown =
      some (10003, some (request 1 (manifest 1 10000 20000)), some .approve) := by decide +kernel
  have hsecond : (engine.trace home repeated)[3]?.map shown =
      some (30000, some (request 1 (manifest 1 10000 20000)), some .approve) := by decide +kernel
  generalize request 1 (manifest 1 10000 20000) = subject at hfirst hsecond
  generalize repeated = calls at *
  obtain ⟨hequal, hreturns⟩ := terminal_response_stable home.witnessId calls
  obtain ⟨first, hfirst, hshown⟩ := Option.map_eq_some_iff.mp hfirst
  obtain ⟨second, hsecond, hshown'⟩ := Option.map_eq_some_iff.mp hsecond
  simp only [shown, Prod.mk.injEq, Option.map_eq_some_iff] at hshown hshown'
  obtain ⟨htime, hcalled, response, hresp, happrove⟩ := hshown
  obtain ⟨htime', hcalled', returned, hreturned, happrove'⟩ := hshown'
  have hfirst := List.mem_of_getElem? hfirst
  have hsecond := List.mem_of_getElem? hsecond
  obtain ⟨_, _, hcall, -, hfor, -, rfl | ⟨-, -, hdeny, -⟩⟩ := hreturns first hfirst response hresp
  · obtain ⟨_, _, hcall', -, hfor', -, rfl | ⟨-, -, hdeny, -⟩⟩ := hreturns second hsecond returned hreturned
    · obtain rfl := some_unique hcall ((hcalled.trans (hcalled'.symm.trans hcall')))
      exact ⟨first, hfirst, second, hsecond, _, response, returned, htime, htime', hfor, hfor', happrove,
        hequal first hfirst second hsecond _ response returned hfor hfor'⟩
    · cases happrove'.symm.trans hdeny
  · cases happrove.symm.trans hdeny

end Jury.Engine
