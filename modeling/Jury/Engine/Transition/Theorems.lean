import Jury.Engine.Transition

-- The plans of the operations make logical steps, and what they answer is in the record they leave.
namespace Jury.Engine

open Lib Protocol Witness Policy

theorem mem_staleRequests : record ∈ staleRequests logical vaultId ↔
      logical.replay[record.1]? = some record.2 ∧ record.1.1 = vaultId ∧ record.2.state = .reserved := by
  simp only [staleRequests, List.mem_filter, holds]
  rw [show record ∈ logical.replay.toList ↔ _ from Std.ExtTreeMap.mem_toList_iff_getElem?_eq_some]

theorem staleRequests_keys_nodup (logical : WitnessLogicalState) (vaultId : VaultId) :
    ((staleRequests logical vaultId).map (·.1)).Nodup := by
  have hdistinct := Std.ExtTreeMap.distinct_keys_toList (t := logical.replay)
  refine List.pairwise_map.mpr ((hdistinct.filter _).imp fun {a b} hne heq => hne ?_)
  rw [heq]
  exact Std.ReflCmp.compare_self

theorem requireSafeClock_eq_ok (h : requireSafeClock state nowMs = .ok u) :
    state.logical.lastAcceptedWallTimeMs.toNat ≤ nowMs.toNat + ACCEPTED_CLOCK_SKEW_MS.toNat := by
  simpa only [requireSafeClock, rejectIf_eq_ok, decide_eq_false_iff_not, saturatingAdd_lt_iff, not_lt] using h

variable [Crypto] {context : EngineContext} {state : PersistedWitnessState} {logical : WitnessLogicalState}

theorem compactReplayPlan_write {reply : PersistedWitnessState → Except WitnessEngineError Nat}
    (h : compactReplayPlan context.wallTimeMs state entropy = .ok (.write logical reply) rest) :
    LogicalStep context .compactReplay state.logical logical := by
  unfold compactReplayPlan at h
  dsimp only at h
  split at h
  · simp at h
  · simp only [state_pure_eq_ok, Plan.write.injEq] at h
    obtain ⟨⟨rfl, -⟩, -⟩ := h
    refine ⟨rfl, rfl, rfl, .kept rfl, fun key => ?_⟩
    dsimp only
    rw [Std.ExtTreeMap.getElem?_filter']
    cases state.logical.replay[key]? with
    | none => exact .kept none
    | some entry =>
      by_cases hover : entry.retainThroughMs < context.wallTimeMs
      · rw [Option.filter_some, if_neg (by simpa using hover)]
        exact .compacted rfl hover
      · rw [Option.filter_some, if_pos (by simpa using hover)]
        exact .kept _

variable {policy : ReplayedPolicy}

variable {operation : Operation}

theorem registerVaultPlan_write
    (h : registerVaultPlan context.identity context.wallTimeMs policy.state registration checkpoint material state
      entropy = .ok (.write logical reply) rest) :
    LogicalStep context (.registerVault policy registration checkpoint material) state.logical logical := by
  simp only [registerVaultPlan, state_eq_ok] at h
  obtain ⟨_, _, ⟨hvalid, -⟩, _, _, -, h⟩ := h
  cases hnew : state.logical.vaults[checkpoint.vaultId]? with
  | some current =>
    simp only [hnew, state_eq_ok, reduceCtorEq, false_and, and_false, exists_false] at h
  | none =>
    rw [hnew] at h
    simp only [state_pure_eq_ok, Plan.write.injEq] at h
    obtain ⟨⟨rfl, -⟩, -⟩ := h
    exact ⟨rfl, rfl, rfl, .registered rfl hvalid hnew rfl, fun key => .kept _⟩

-- The loop of an advance denies every record that it is given and touches no other.
theorem denyStale_loop {records : List (ReplayKey × WitnessReplayEntry)} {before : WitnessLogicalState}
    (hkeys : (records.map (·.1)).Nodup) (hstored : ∀ record ∈ records, before.replay[record.1]? = some record.2)
    (h : records.foldlM (denyStale identity generation nowMs) before entropy = .ok after rest) :
    after = { before with replay := after.replay } ∧
      (∀ key : ReplayKey, key ∉ records.map (·.1) → after.replay[key]? = before.replay[key]?) ∧
      ∀ record ∈ records, ∃ response,
        IsDenial record.2.request record.2.actionManifestDigest .stalePolicy generation nowMs response ∧
          after.replay[record.1]? = some { record.2 with state := .denied, response := some response } := by
  induction records generalizing before entropy with
  | nil =>
    simp only [List.foldlM_nil, state_pure_eq_ok] at h
    obtain ⟨rfl, -⟩ := h
    exact ⟨rfl, fun _ _ => rfl, by simp⟩
  | cons record records ih =>
    simp only [List.map_cons, List.nodup_cons] at hkeys
    obtain ⟨hfresh, hkeys⟩ := hkeys
    simp only [List.foldlM_cons, state_bind_eq_ok] at h
    obtain ⟨middle, _, hround, h⟩ := h
    simp only [denyStale, state_eq_ok] at hround
    obtain ⟨response, _, hresp, hupdate, -⟩ := hround
    obtain ⟨entry, hentry, rfl⟩ := updateEntry_eq_ok hupdate
    obtain rfl : record.2 = entry := some_unique (hstored record (by simp)) hentry
    have hother : ∀ key : ReplayKey, key ≠ record.1 →
        (before.replay.insert record.1 { record.2 with state := .denied, response := some response })[key]? =
          before.replay[key]? := fun key hkey => getElem?_insert_ne _ _ hkey
    have hrest : ∀ other ∈ records, other.1 ≠ record.1 := fun other hmem heq =>
      hfresh (heq ▸ List.mem_map_of_mem hmem)
    obtain ⟨hafter, hkept, hdenied⟩ := ih hkeys (fun other hmem =>
      (hother _ (hrest other hmem)).trans (hstored other (List.mem_cons_of_mem _ hmem))) h
    refine ⟨hafter, fun key hkey => ?_, fun other hmem => ?_⟩
    · simp only [List.map_cons, List.mem_cons, not_or] at hkey
      exact (hkept key hkey.2).trans (hother key hkey.1)
    · rcases List.mem_cons.mp hmem with rfl | hmem
      · refine ⟨response, denialResponse_eq_ok hresp, (hkept _ hfresh).trans ?_⟩
        exact Std.ExtTreeMap.getElem?_insert_self
      · exact hdenied other hmem

theorem advanceCheckpointPlan_write
    (h : advanceCheckpointPlan context.identity context.wallTimeMs policy.state checkpoint material state entropy =
      .ok (.write logical reply) rest) :
    LogicalStep context (.advanceCheckpoint policy checkpoint material) state.logical logical := by
  simp only [advanceCheckpointPlan, state_eq_ok, orReject_eq_ok] at h
  obtain ⟨policies, _, ⟨hvalid, -⟩, _, _, -, current, _, ⟨hcur, -⟩, h⟩ := h
  by_cases hdiff : current.currentCheckpoint = checkpoint
  · simp only [if_pos hdiff, state_eq_ok, reduceCtorEq, false_and, and_false, exists_false] at h
  simp only [if_neg hdiff, state_eq_ok, orReject_eq_ok, Plan.write.injEq] at h
  obtain ⟨_, _, ⟨hsuccessor, -⟩, denied, _, hloop, found, _, ⟨hfound, -⟩, ⟨rfl, -⟩, -⟩ := h
  obtain ⟨hafter, hkept, hdenied⟩ := denyStale_loop (staleRequests_keys_nodup _ _)
    (fun record hrecord => (mem_staleRequests.mp hrecord).1) hloop
  rw [hafter] at hfound ⊢
  obtain rfl : current = found := some_unique hcur hfound
  have hentry : ∀ key : ReplayKey, EntryStep context (.advanceCheckpoint policy checkpoint material) state.logical
      key state.logical.replay[key]? denied.replay[key]? ∧ ∀ entry, denied.replay[key]? = some entry →
        key.1 = checkpoint.vaultId → entry.state ≠ .reserved := by
    intro key
    by_cases hmem : key ∈ (staleRequests state.logical checkpoint.vaultId).map (·.1)
    · obtain ⟨record, hrecord, rfl⟩ := List.mem_map.mp hmem
      obtain ⟨hstored, hvault, hres⟩ := mem_staleRequests.mp hrecord
      obtain ⟨response, hdenial, hresult⟩ := hdenied record hrecord
      rw [hstored, hresult]
      refine ⟨.stale rfl hvault hres hdenial, ?_⟩
      rintro entry ⟨⟩ -
      simp
    · rw [hkept key hmem]
      refine ⟨.kept _, fun entry hstored hvault hres => hmem ?_⟩
      exact List.mem_map.mpr ⟨(key, entry), mem_staleRequests.mpr ⟨hstored, hvault, hres⟩, rfl⟩
  exact ⟨rfl, rfl, rfl, .advanced rfl hvalid hcur hdiff hsuccessor rfl fun key => (hentry key).2,
    fun key => (hentry key).1⟩

theorem cancelFresh_planned {plan : Plan CancellationProgress}
    (hopen : ∀ known, state.logical.replay[requestKey request]? = some known →
      known.request = request ∧ known.response = none)
    (h : cancelFresh context.identity context.wallTimeMs policy.state request cancellation state.logical entropy =
      .ok plan rest) :
    Planned context (.cancel policy request cancellation) state.logical (plan.map .cancellation) := by
  simp only [cancelFresh, state_eq_ok, orReject_eq_ok] at h
  obtain ⟨_, _, ⟨hvalid, -⟩, _, _, -, _, _, -, bytes, _, -, response, _, hresp, retain, _, ⟨hretain, -⟩, rfl, -⟩ := h
  have hdenial := denialResponse_eq_ok hresp
  cases hknown : state.logical.replay[requestKey request]? with
  | none =>
    refine .write (.insert ?_) ?_
    · rw [hknown]
      exact .tombstoned rfl rfl hvalid hdenial hretain
    · rintro _ _ ⟨⟩ _ ⟨⟩
      exact ⟨request, _, rfl, Std.ExtTreeMap.getElem?_insert_self, rfl, .inl rfl⟩
  | some known =>
    obtain ⟨hsame, hunanswered⟩ := hopen known hknown
    refine .write (.insert ?_) ?_
    · rw [hknown]
      exact .cancelled rfl rfl hsame hunanswered hvalid hdenial
    · rintro _ _ ⟨⟩ _ ⟨⟩
      exact ⟨request, _, rfl, Std.ExtTreeMap.getElem?_insert_self, rfl, .inl hsame⟩

theorem cancelPlan_planned {plan : Plan CancellationProgress}
    (h : cancelPlan context.identity context.wallTimeMs policy.state request cancellation state entropy =
      .ok plan rest) :
    Planned context (.cancel policy request cancellation) state.logical (plan.map .cancellation) := by
  unfold cancelPlan at h
  cases hknown : state.logical.replay[requestKey request]? with
  | none =>
    rw [hknown] at h
    exact cancelFresh_planned (by simp [hknown]) h
  | some known =>
    simp only [hknown, state_eq_ok, rejectIf_eq_ok, Bool.not_eq_false'] at h
    obtain ⟨_, _, ⟨hsame, -⟩, _, _, ⟨rfl, -⟩, h⟩ := h
    have hsame := sameRequest_true hsame
    cases hresp : known.response with
    | none =>
      rw [hresp] at h
      refine cancelFresh_planned (fun other hother => ?_) h
      obtain rfl := some_unique hknown hother
      exact ⟨hsame, hresp⟩
    | some response =>
      simp only [hresp, state_eq_ok] at h
      obtain ⟨_, _, -, rfl, -⟩ := h
      refine .answer fun returned hreturned => ⟨request, known, rfl, hknown, ?_, .inl hsame⟩
      rw [hresp, ← hreturned]
      split <;> rfl

theorem validateKnownManifest_eq_ok (h : validateKnownManifest known manifest = .ok ()) :
    manifest.digest = .ok known.actionManifestDigest := by
  simp only [validateKnownManifest, eq_ok, orRefuse_eq_ok, bne_eq_false_iff_eq] at h
  obtain ⟨digest, hdigest, rfl⟩ := h
  exact hdigest

theorem reservePlan_planned
    (h : reservePlan context.identity context.wallTimeMs policy.state request manifest state entropy = .ok plan rest) :
    Planned context (.reserve policy request manifest) state.logical (plan.map .progress) := by
  unfold reservePlan at h
  cases hknown : state.logical.replay[requestKey request]? with
  | none =>
    simp only [hknown, state_eq_ok, orRefuse_eq_ok, orReject_eq_ok] at h
    obtain ⟨validated, _, ⟨hvalid, -⟩, _, _, -, digest, _, ⟨hdigest, -⟩, retain, _, ⟨hretain, -⟩, rfl, -⟩ := h
    refine .write (.insert ?_) ?_
    · rw [hknown]
      exact .reserved rfl rfl hvalid hdigest hretain
    · rintro _ _ ⟨⟩ _ ⟨⟩
  | some known =>
    simp only [hknown, reserveKnown, state_eq_ok] at h
    obtain ⟨same, _, ⟨hsame, -⟩, h⟩ := h
    cases same with
    | true =>
      simp only [if_true, state_eq_ok] at h
      obtain ⟨_, _, -, _, _, -, rfl, -⟩ := h
      refine .answer fun returned hreturned => ⟨request, known, rfl, hknown, ?_, .inl (sameRequest_true hsame)⟩
      cases hresp : known.response with
      | none => simp [hresp, Reply.response?] at hreturned
      | some stored => simpa [hresp, Reply.response?] using hreturned
    | false =>
      simp only [Bool.false_eq_true, if_false, state_eq_ok, rejectIf_eq_ok, bne_eq_false_iff_eq] at h
      obtain ⟨_, _, ⟨hres, -⟩, response, _, hresp, logical, _, ⟨hupdate, -⟩, rfl, -⟩ := h
      have hdenial := denialResponse_eq_ok hresp
      have hdiff := sameRequest_false hsame
      obtain ⟨entry, hentry, rfl⟩ := updateEntry_eq_ok hupdate
      obtain rfl := some_unique hknown hentry
      refine .write (.insert ?_) ?_
      · rw [hknown]
        exact .conflicted rfl rfl hdiff hres hdenial
      · rintro _ _ ⟨⟩ _ ⟨⟩
        exact ⟨request, _, rfl, Std.ExtTreeMap.getElem?_insert_self, rfl, .inr
          ⟨⟨policy, manifest, rfl⟩, hdiff, hdenial.contribution, hdenial.decision, hdenial.reason⟩⟩

def decidePlanOf (logical : WitnessLogicalState) (key : ReplayKey) :
    Option WitnessReplayEntry → WitnessProgress → Plan WitnessProgress
  | none, progress => .answer progress
  | some entry, progress => .write { logical with replay := logical.replay.insert key entry } fun _ => .ok progress

theorem decideDeny_ok (hknown : logical.replay[requestKey request]? = some known)
    (h : decideDeny context.identity context.wallTimeMs request known approvals reason logical entropy =
      .ok plan rest) :
    ∃ response, IsDenial request known.actionManifestDigest reason (nextGeneration logical) context.wallTimeMs
        response ∧
      plan = decidePlanOf logical (requestKey request)
        (some { known with approvals, state := .denied, response := some response }) (.stable response) := by
  simp only [decideDeny, state_eq_ok] at h
  obtain ⟨response, _, hresp, updated, _, ⟨hupdate, -⟩, rfl, -⟩ := h
  obtain ⟨entry, hentry, rfl⟩ := updateEntry_eq_ok hupdate
  obtain rfl := some_unique hknown hentry
  exact ⟨response, denialResponse_eq_ok hresp, rfl⟩

theorem decideCounted_ok (hknown : logical.replay[requestKey request]? = some known)
    (hcounted : Counted context policy request manifest approvals logical known validated accepted)
    (h : decideCounted context.identity context.wallTimeMs request manifest validated known accepted logical entropy =
      .ok plan rest) :
    ∃ entry progress, DecidePlanned context policy request manifest approvals logical known entry progress ∧
      plan = decidePlanOf logical (requestKey request) entry progress := by
  unfold decideCounted at h
  by_cases hthr : (tallyApprovals accepted validated.rule).approved ≥ validated.rule.approvalThreshold.toNat
  · simp only [if_pos hthr, state_eq_ok] at h
    obtain ⟨response, _, hresp, updated, _, ⟨hupdate, -⟩, rfl, -⟩ := h
    obtain ⟨entry, hentry, rfl⟩ := updateEntry_eq_ok hupdate
    obtain rfl := some_unique hknown hentry
    exact ⟨_, _, .approved hcounted hthr (approvalResponse_eq_ok hresp), rfl⟩
  rw [if_neg hthr] at h
  by_cases hshort : (tallyApprovals accepted validated.rule).approved
      + (tallyApprovals accepted validated.rule).undecided < validated.rule.approvalThreshold.toNat
  · rw [if_pos hshort] at h
    obtain ⟨response, hdenial, rfl⟩ := decideDeny_ok hknown h
    exact ⟨_, _, .denied hcounted hshort hdenial, rfl⟩
  rw [if_neg hshort] at h
  rw [not_le] at hthr
  rw [not_lt] at hshort
  by_cases hchanged : accepted ≠ known.approvals
  · simp only [if_pos hchanged, state_eq_ok] at h
    obtain ⟨updated, _, ⟨hupdate, -⟩, rfl, -⟩ := h
    obtain ⟨entry, hentry, rfl⟩ := updateEntry_eq_ok hupdate
    obtain rfl := some_unique hknown hentry
    exact ⟨_, _, .recorded hcounted hthr hshort, rfl⟩
  · rw [if_neg hchanged, state_pure_eq_ok] at h
    obtain rfl := not_ne_iff.mp hchanged
    exact ⟨_, _, .pending hcounted hthr hshort, h.1.symm⟩

theorem decidePlan_ok
    (h : decidePlan context.identity context.wallTimeMs policy.state request manifest approvals state entropy =
      .ok plan rest) :
    ∃ known entry progress, Deciding state.logical known request manifest ∧
      DecidePlanned context policy request manifest approvals state.logical known entry progress ∧
      plan = decidePlanOf state.logical (requestKey request) entry progress := by
  simp only [decidePlan, state_eq_ok, eq_ok, Bool.not_eq_false'] at h
  obtain ⟨known, _, ⟨hknown, -⟩, _, _, ⟨hsame, -⟩, _, _, ⟨rfl, -⟩, _, _, ⟨hmatching, -⟩, _, _, ⟨hman, -⟩, h⟩ := h
  have hdeciding : Deciding state.logical known request manifest :=
    ⟨hknown, sameRequest_true hsame, hmatching, validateKnownManifest_eq_ok hman⟩
  cases hresp : known.response with
  | some response =>
    rw [hresp] at h
    exact ⟨known, _, _, hdeciding, .stable hresp, (state_pure_eq_ok.mp h).1.symm⟩
  | none =>
    rw [hresp] at h
    dsimp only at h
    cases hvalid : validateRequest context.identity policy.state state.logical request manifest context.wallTimeMs with
    | error error =>
      rw [hvalid] at h
      dsimp only at h
      by_cases hreason : error.reason = .expired
      · rw [if_pos hreason] at h
        obtain ⟨response, hdenial, rfl⟩ := decideDeny_ok hknown h
        exact ⟨known, _, _, hdeciding, .expired hresp hvalid hreason hdenial, rfl⟩
      · rw [if_neg hreason] at h
        simp at h
    | ok validated =>
      simp only [hvalid, state_eq_ok] at h
      obtain ⟨_, _, -, accepted, _, ⟨hmerged, -⟩, h⟩ := h
      obtain ⟨entry, progress, hplanned, rfl⟩ := decideCounted_ok hknown ⟨hresp, hvalid, hmerged⟩ h
      exact ⟨known, entry, progress, hdeciding, hplanned, rfl⟩

theorem decidePlanOf_planned (hdeciding : Deciding logical known request manifest)
    (hplanned : DecidePlanned context policy request manifest approvals logical known entry progress) :
    Planned context (.decide policy request manifest approvals) logical
      ((decidePlanOf logical (requestKey request) entry progress).map .progress) := by
  have hstored : ∀ written, DecidePlanned context policy request manifest approvals logical known (some written)
      progress → ∀ response, progress = .stable response →
        written.request = request ∧ written.response = some response := by
    intro written h response hstable
    cases h with
    | expired | approved | denied =>
      cases hstable
      exact ⟨hdeciding.same, rfl⟩
    | recorded => cases hstable
  cases entry with
  | none =>
    refine .answer fun response hresp => ?_
    cases hplanned with
    | stable hanswered =>
      obtain rfl := Option.some.inj hresp
      exact ⟨request, known, rfl, hdeciding.found, hanswered, .inl hdeciding.same⟩
    | pending => cases hresp
  | some written =>
    refine .write (.insert ?_) ?_
    · rw [hdeciding.found]
      exact .decided rfl rfl hdeciding hplanned
    · rintro state _ ⟨⟩ response hresp
      cases progress with
      | pending | reserved => cases hresp
      | stable stable =>
        obtain rfl := Option.some.inj hresp
        obtain ⟨hsame, hanswered⟩ := hstored written hplanned stable rfl
        exact ⟨request, written, rfl, Std.ExtTreeMap.getElem?_insert_self, hanswered, .inl hsame⟩

theorem Delivers.of_none {reply : Reply} (h : reply.response? = none) :
    Delivers operation logical reply := fun response hresp => by
  rw [h] at hresp
  cases hresp

theorem Planned.of_write {α : Type} {f : α → Reply} {plan : Plan α}
    (hsilent : ∀ a, (f a).response? = none)
    (hstep : ∀ after due, plan = .write after due → LogicalStep context operation logical after) :
    Planned context operation logical (plan.map f) := by
  cases plan with
  | answer a => exact .answer (.of_none (hsilent a))
  | write after due =>
    refine .write (hstep after due rfl) fun state reply hreply => ?_
    obtain ⟨a, -, rfl⟩ := map_eq_ok.mp hreply
    exact .of_none (hsilent a)

theorem planner_planned {plan : Plan Reply} (h : (operation.planner context state).value entropy = .ok plan) :
    Planned context operation state.logical plan := by
  cases operation with
  | checkReady =>
    simp only [Operation.planner, Drawing.value_eq_ok, state_pure_eq_ok] at h
    obtain ⟨_, rfl, -⟩ := h
    exact .answer (.of_none rfl)
  | operationalStatus =>
    simp only [Operation.planner, operationalStatusPlan, Drawing.value_map, map_eq_ok, Drawing.value_eq_ok,
      state_pure_eq_ok] at h
    obtain ⟨_, ⟨_, rfl, -⟩, rfl⟩ := h
    exact .answer (.of_none rfl)
  | compactReplay =>
    obtain ⟨plan, rest, hplan, rfl⟩ := Drawing.value_map_eq_ok.mp h
    exact .of_write (fun _ => rfl) fun after due hwrite => compactReplayPlan_write (hwrite ▸ hplan)
  | registerVault policy registration checkpoint material =>
    obtain ⟨plan, rest, hplan, rfl⟩ := Drawing.value_map_eq_ok.mp h
    exact .of_write (fun _ => rfl) fun after due hwrite => registerVaultPlan_write (hwrite ▸ hplan)
  | advanceCheckpoint policy checkpoint material =>
    obtain ⟨plan, rest, hplan, rfl⟩ := Drawing.value_map_eq_ok.mp h
    exact .of_write (fun _ => rfl) fun after due hwrite => advanceCheckpointPlan_write (hwrite ▸ hplan)
  | cancel policy request cancellation =>
    obtain ⟨plan, rest, hplan, rfl⟩ := Drawing.value_map_eq_ok.mp h
    exact cancelPlan_planned hplan
  | reserve policy request manifest =>
    obtain ⟨plan, rest, hplan, rfl⟩ := Drawing.value_map_eq_ok.mp h
    exact reservePlan_planned hplan
  | decide policy request manifest approvals =>
    obtain ⟨plan, rest, hplan, rfl⟩ := Drawing.value_map_eq_ok.mp h
    obtain ⟨known, entry, progress, hdeciding, hplanned, rfl⟩ := decidePlan_ok hplan
    exact decidePlanOf_planned hdeciding hplanned

section Serve

variable {call : Call} {world : World} {planned : WitnessLogicalState}

theorem Prepared.stepped
    (h : Prepared call.context (call.operation.planner call.context) world ready (.write planned due))
    (hadv : advanceGeneration planned call.context.wallTimeMs = .ok after) :
    Stepped call world.store.logical after := by
  rw [← h.publishing.logical_eq]
  cases planner_planned h.planned with
  | write hstep _ => exact .intro (requireSafeClock_eq_ok h.clock) hstep hadv

-- A call keeps the durable logical state or takes it one step on, whatever the storages do.
theorem serve_logical (world : World) (call : Call) :
    (world.serve call).2.store.logical = world.store.logical ∨
      Stepped call world.store.logical (world.serve call).2.store.logical := by
  cases serve_final (signs_unsigned call.context.identity) world with
  | kept hpubl => exact .inl hpubl.logical_eq
  | written hprep hwritten =>
    cases hwritten with
    | kept hagrees => exact .inl ((congrArg _ hagrees.store).trans hprep.publishing.logical_eq)
    | committed hadv hcomm hpubl =>
      rw [hpubl.logical_eq, hcomm.value]
      exact .inr (hprep.stepped hadv)

-- What every step of the durable logical state preserves, a run preserves.
theorem final_logical {P : WitnessLogicalState → Prop} {calls : List Call} (h : P world.store.logical)
    (hstep : ∀ before after, ∀ call ∈ calls, P before → Stepped call before after → P after) :
    P (engine.final world calls).store.logical := by
  refine Machine.final_preserves (P := fun world : World => P world.store.logical) h fun world call hcall h => ?_
  rcases serve_logical world call with hkept | hstepped
  · exact hkept.symm ▸ h
  · exact hstep _ _ call hcall h hstepped

-- A generation has one state: the two change together, and the accepted clock never goes back.
theorem generation_determines_state (world : World) (calls : List Call) :
    (engine.final world calls).store.logical = world.store.logical ∨
      world.store.logical.stateGeneration.toNat < (engine.final world calls).store.logical.stateGeneration.toNat ∧
      world.store.logical.lastAcceptedWallTimeMs.toNat ≤
        (engine.final world calls).store.logical.lastAcceptedWallTimeMs.toNat := by
  refine final_logical (P := fun logical => logical = world.store.logical ∨
    world.store.logical.stateGeneration.toNat < logical.stateGeneration.toNat ∧
      world.store.logical.lastAcceptedWallTimeMs.toNat ≤ logical.lastAcceptedWallTimeMs.toNat) (.inl rfl) ?_
  rintro before after call - hreached ⟨-, hstep, hadv⟩
  obtain ⟨hgen, hlast, -⟩ := advanceGeneration_eq_ok hadv
  rw [hstep.generation] at hgen
  rw [hstep.clock] at hlast
  right
  rcases hreached with rfl | ⟨hlater, hclock⟩ <;> omega

theorem serve_delivers {reply : Reply} (h : world.serve call = (.ok reply, next)) :
    Confirmed call.context.identity next ∧ Delivers call.operation next.store.logical reply := by
  obtain ⟨-, hanswered⟩ := serve_ok (signs_unsigned call.context.identity) h
  cases hanswered with
  | read hprep =>
    cases planner_planned hprep.planned with
    | answer hdelivers => exact ⟨hprep.confirmed, hdelivers⟩
  | wrote hprep hadv hcomm hpubl hconf hreply =>
    cases planner_planned hprep.planned with
    | write hstep hdelivers =>
      refine ⟨hconf, fun response hresp => ?_⟩
      obtain ⟨request, entry, hcalled, hstored, hanswered, hsubject⟩ := hdelivers _ _ hreply response hresp
      have hreplay := (advanceGeneration_eq_ok hadv).2.2.2.1
      refine ⟨request, entry, hcalled, ?_, hanswered, hsubject⟩
      rw [hpubl.logical_eq, hcomm.value, hreplay]
      exact hstored

end Serve

end Jury.Engine
