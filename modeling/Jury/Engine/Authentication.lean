import Jury.Engine.Coherence

-- A request that no current principal has signed changes no record, unless it is a reservation under the
-- identifier of an open one.
namespace Jury.Engine

open Lib Protocol Witness Policy

variable [Crypto]

-- A current principal has signed the request, in a policy of the checkpoint that its vault stands at.
def Authenticated (logical : WitnessLogicalState) (request : WitnessRequestV1) : Prop :=
  ∃ (vault : RegisteredWitnessVault) (policy : ReplayedPolicy) (policies : List WitnessPolicy)
    (requester : PrincipalPolicyState), logical.vaults[request.vaultId]? = some vault ∧
      validateCheckpointPublic policy.state vault.currentCheckpoint = .ok policies ∧
      Authentic policy.state request requester

-- The operation reserves under the identifier of an open record of another request.
def Displaces (logical : WitnessLogicalState) (operation : Operation) : Prop :=
  ∃ policy request manifest known, operation = .reserve policy request manifest ∧
    logical.replay[requestKey request]? = some known ∧ known.request ≠ request ∧ known.state = .reserved

structure Unchanged (before after : WitnessLogicalState) : Prop where
  replay : after.replay = before.replay
  vaults : after.vaults = before.vaults

def OpenAuthenticated (logical : WitnessLogicalState) : Prop :=
  ∀ (key : ReplayKey) (entry : WitnessReplayEntry), logical.replay[key]? = some entry → entry.state = .reserved →
    Authenticated logical entry.request

section Requests

variable {policy : ReplayedPolicy} {logical : WitnessLogicalState} {request : WitnessRequestV1}

theorem AtCheckpoint.public_ok {checkpoint : VaultPolicyCheckpointV1}
    (h : AtCheckpoint identity policy.state request checkpoint) :
    ∃ policies, validateCheckpointPublic policy.state checkpoint = .ok policies := by
  have hvalid := h.valid
  simp only [validateCheckpoint, bind_eq_ok] at hvalid
  obtain ⟨policies, hpublic, -⟩ := hvalid
  exact ⟨policies, hpublic⟩

theorem authenticated_of_granted {witnessPolicy : WitnessPolicy}
    (hreg : ∃ registered, logical.vaults[request.vaultId]? = some registered ∧
      AtCheckpoint identity policy.state request registered.currentCheckpoint)
    (hgranted : Granted policy.state request rule witnessPolicy slot) : Authenticated logical request := by
  obtain ⟨vault, hvault, hat⟩ := hreg
  obtain ⟨policies, hpublic⟩ := hat.public_ok
  obtain ⟨requester, hauthentic⟩ := hgranted.authentic
  exact ⟨vault, policy, policies, requester, hvault, hpublic, hauthentic⟩

theorem ValidRequest.authenticated {manifest : ActionManifestV1}
    (h : ValidRequest identity policy.state logical request manifest nowMs validated) :
    Authenticated logical request := by
  obtain ⟨_, hgranted⟩ := h.granted
  exact authenticated_of_granted h.registered hgranted

theorem ValidEmbeddedRequest.authenticated
    (h : ValidEmbeddedRequest identity policy.state logical request nowMs) : Authenticated logical request := by
  obtain ⟨_, _, _, hgranted⟩ := h.granted
  exact authenticated_of_granted h.registered hgranted

end Requests

section Steps

variable {context : EngineContext} {request : WitnessRequestV1}

-- A record that is open after a step was open before it, or is of a request that the step has validated.
theorem EntryStep.open_authenticated (h : EntryStep context operation before key old new)
    (hold : ∀ known, old = some known → known.state = .reserved → Authenticated before known.request)
    (hnew : new = some entry) (hres : entry.state = .reserved) : Authenticated before entry.request := by
  cases h with
  | kept => exact hold entry hnew hres
  | reserved _ _ hvalid =>
    cases hnew
    exact (validateRequest_eq_ok hvalid).authenticated
  | conflicted | stale | cancelled | tombstoned =>
    cases hnew
    cases hres
  | decided _ _ _ hplanned =>
    cases hnew
    cases hplanned with
    | expired | approved | denied => cases hres
    | recorded =>
      have hsigned := hold _ rfl hres
      exact hsigned
  | compacted => cases hnew

theorem OpenAuthenticated.stepped {call : Call} (h : OpenAuthenticated before) (hcoh : CoherentRecords before)
    (hstepped : Stepped call before after) : OpenAuthenticated after := by
  intro key entry hstored hres
  have hkey := (hcoh.stepped hstepped key entry hstored).key
  cases hstepped with
  | @intro planned _ hstep hadv =>
    obtain ⟨-, -, hvaults, hreplay, -⟩ := advanceGeneration_eq_ok hadv
    rw [hreplay] at hstored
    obtain ⟨vault, policy, policies, requester, hvault, hpublic, hauthentic⟩ :=
      (hstep.entries key).open_authenticated (h key) hstored hres
    refine ⟨vault, policy, policies, requester, ?_, hpublic, hauthentic⟩
    rw [hvaults, hstep.vaults.reserved_vault hkey hvault hstored hres]
    exact hvault

theorem EntryStep.kept_of_unauthenticated (h : EntryStep context operation before key old new)
    (hold : old = before.replay[key]?) (hcoh : CoherentRecords before) (hopen : OpenAuthenticated before)
    (hcalled : operation.request? = some request) (hforged : ¬ Authenticated before request)
    (hfree : ¬ Displaces before operation) : new = old := by
  cases h with
  | kept => rfl
  | reserved hop _ hvalid =>
    subst hop
    obtain rfl := Option.some.inj hcalled
    exact absurd (validateRequest_eq_ok hvalid).authenticated hforged
  | conflicted hop hkey hdiff hres =>
    subst hkey
    exact absurd ⟨_, _, _, _, hop, hold.symm, hdiff, hres⟩ hfree
  | cancelled hop _ _ _ hvalid | tombstoned hop _ hvalid =>
    subst hop
    obtain rfl := Option.some.inj hcalled
    exact absurd (validateEmbeddedRequest_eq_ok hvalid).authenticated hforged
  | decided hop hkey hdeciding hplanned =>
    subst hop
    obtain rfl := Option.some.inj hcalled
    have hres := (hcoh _ _ hdeciding.found).reserved.mpr hplanned.unanswered
    have hsigned := hopen _ _ hdeciding.found hres
    rw [hdeciding.same] at hsigned
    exact absurd hsigned hforged
  | stale hop | compacted hop =>
    subst hop
    cases hcalled

theorem VaultStep.kept_of_request (h : VaultStep context operation before after)
    (hcalled : operation.request? = some request) : after.vaults = before.vaults := by
  cases h with
  | kept hvaults => exact hvaults
  | registered hop | advanced hop =>
    subst hop
    cases hcalled

theorem Stepped.unchanged {call : Call} (h : Stepped call before after) (hcoh : CoherentRecords before)
    (hopen : OpenAuthenticated before) (hcalled : call.operation.request? = some request)
    (hforged : ¬ Authenticated before request) (hfree : ¬ Displaces before call.operation) :
    Unchanged before after := by
  cases h with
  | @intro planned _ hstep hadv =>
    obtain ⟨-, -, hvaults, hreplay, -⟩ := advanceGeneration_eq_ok hadv
    refine ⟨?_, hvaults.trans (hstep.vaults.kept_of_request hcalled)⟩
    rw [hreplay]
    refine Std.ExtTreeMap.ext_getElem? fun key => ?_
    exact (hstep.entries key).kept_of_unauthenticated rfl hcoh hopen hcalled hforged hfree

theorem reservePlan_displaced {policy : ReplayedPolicy} {manifest : ActionManifestV1} {state : PersistedWitnessState}
    (hknown : state.logical.replay[requestKey request]? = some known) (hdiff : known.request ≠ request)
    (h : reservePlan context.identity context.wallTimeMs policy.state request manifest state entropy = .ok plan rest) :
    ∃ logical due response, plan = .write logical due ∧
      logical.replay[requestKey request]? = some { known with state := .denied, response := some response } := by
  unfold reservePlan at h
  simp only [hknown, reserveKnown, state_eq_ok] at h
  obtain ⟨same, _, ⟨hsame, -⟩, h⟩ := h
  cases same with
  | true => exact absurd (sameRequest_true hsame) hdiff
  | false =>
    simp only [Bool.false_eq_true, if_false, state_eq_ok] at h
    obtain ⟨_, _, -, response, _, -, logical, _, ⟨hupdate, -⟩, rfl, -⟩ := h
    obtain ⟨entry, hentry, rfl⟩ := updateEntry_eq_ok hupdate
    obtain rfl := some_unique hknown hentry
    exact ⟨_, _, response, rfl, Std.ExtTreeMap.getElem?_insert_self⟩

end Steps

section Runs

variable {world : World} {call : Call}

theorem final_openAuthenticated (witnessId : PrincipalId) (calls : List Call) :
    OpenAuthenticated (engine.final (World.initial witnessId) calls).store.logical := by
  refine (final_logical (P := fun logical => CoherentRecords logical ∧ OpenAuthenticated logical) ⟨?_, ?_⟩ ?_).2
  · intro key entry hstored
    cases hstored
  · intro key entry hstored
    cases hstored
  · rintro before after call - ⟨hcoh, hopen⟩ hstepped
    exact ⟨hcoh.stepped hstepped, hopen.stepped hcoh hstepped⟩

theorem serve_displaced (hdisplaces : Displaces world.store.logical call.operation)
    (hreply : (world.serve call).1 = .ok reply) :
    ¬ Unchanged world.store.logical (world.serve call).2.store.logical := by
  obtain ⟨policy, request, manifest, known, hop, hknown, hdiff, hres⟩ := hdisplaces
  intro hunchanged
  rw [← hunchanged.replay] at hknown
  obtain ⟨-, hanswered⟩ := serve_ok (signs_unsigned call.context.identity)
    (Prod.ext hreply rfl : world.serve call = (.ok reply, (world.serve call).2))
  have hwrite : ∀ ready plan, Prepared call.context (call.operation.planner call.context) world ready plan →
      ∃ logical due response, plan = .write logical due ∧
        logical.replay[requestKey request]? = some { known with state := .denied, response := some response } := by
    intro ready plan hprep
    obtain ⟨plan, rest, hplan, rfl⟩ := Drawing.value_map_eq_ok.mp (hop ▸ hprep.planned)
    rw [hunchanged.replay, ← hprep.publishing.logical_eq] at hknown
    obtain ⟨logical, due, response, rfl, hdenied⟩ := reservePlan_displaced hknown hdiff hplan
    exact ⟨logical, _, response, rfl, hdenied⟩
  cases hanswered with
  | read hprep =>
    obtain ⟨_, _, _, hplan, -⟩ := hwrite _ _ hprep
    cases hplan
  | wrote hprep hadv hcomm hpubl =>
    obtain ⟨_, _, response, hplan, hdenied⟩ := hwrite _ _ hprep
    cases hplan
    rw [hpubl.logical_eq, hcomm.value, (advanceGeneration_eq_ok hadv).2.2.2.1, hdenied] at hknown
    have hstate := congrArg (·.state) (Option.some.inj hknown)
    cases hstate.trans hres

-- In every reachable state, a call for a request that no current principal has signed leaves all records
-- and checkpoints as they are, unless it displaces an open record; if it does and is answered, it never does.
theorem unauthenticated_call_unchanged_iff (witnessId : PrincipalId) (calls : List Call) (call : Call)
    (request : WitnessRequestV1) (hcalled : call.operation.request? = some request)
    (hforged : ¬ Authenticated (engine.final (World.initial witnessId) calls).store.logical request) :
    (¬ Displaces (engine.final (World.initial witnessId) calls).store.logical call.operation →
      Unchanged (engine.final (World.initial witnessId) calls).store.logical
        ((engine.final (World.initial witnessId) calls).serve call).2.store.logical) ∧
    ∀ reply, ((engine.final (World.initial witnessId) calls).serve call).1 = .ok reply →
      (Unchanged (engine.final (World.initial witnessId) calls).store.logical
          ((engine.final (World.initial witnessId) calls).serve call).2.store.logical ↔
        ¬ Displaces (engine.final (World.initial witnessId) calls).store.logical call.operation) := by
  have hcoh := final_coherentRecords witnessId calls
  have hopen := final_openAuthenticated witnessId calls
  have hfree : ¬ Displaces (engine.final (World.initial witnessId) calls).store.logical call.operation →
      Unchanged (engine.final (World.initial witnessId) calls).store.logical
        ((engine.final (World.initial witnessId) calls).serve call).2.store.logical := by
    intro hfree
    rcases serve_logical (engine.final (World.initial witnessId) calls) call with hkept | hstepped
    · rw [hkept]
      exact ⟨rfl, rfl⟩
    · exact hstepped.unchanged hcoh hopen hcalled hforged hfree
  exact ⟨hfree, fun reply hreply => ⟨fun hunchanged hdisplaces => serve_displaced hdisplaces hreply hunchanged, hfree⟩⟩

end Runs

end Jury.Engine

namespace Jury.Engine.Sample

open Lib Protocol Protocol.Sample Witness Policy.Sample

-- The halves of a signature of the stand-in scheme are equal, so this one is of no key.
def forgedSignature : Signature64 :=
  ⟨(FixedBytes.replicate 32 0).bytes ++ (FixedBytes.replicate 32 1).bytes, rfl⟩

def forged : WitnessRequestV1 :=
  { request 1 (manifest 1 10000 20000) with clientSignature := forgedSignature }

theorem forgedSignature_ne_sign (key : VerificationPublicKey32) (message : Bytes) :
    forgedSignature ≠ sign key message := by
  intro hsign
  have hbytes : forgedSignature.bytes = (digest (key.bytes ++ message)).bytes ++ (digest (key.bytes ++ message)).bytes :=
    congrArg FixedBytes.bytes hsign
  generalize digest (key.bytes ++ message) = half at hbytes
  simp only [forgedSignature] at hbytes
  obtain ⟨hfirst, hsecond⟩ := Bytes.append_inj hbytes (by simp)
  have hhalves : FixedBytes.replicate 32 0 = FixedBytes.replicate 32 1 :=
    (FixedBytes.ext hfirst).trans (FixedBytes.ext hsecond).symm
  revert hhalves
  decide

theorem forged_unauthenticated (logical : WitnessLogicalState) : ¬ Authenticated logical forged := by
  rintro ⟨vault, policy, policies, requester, -, -, hauthentic⟩
  obtain ⟨preimage, -, hver⟩ := hauthentic.signed
  have hsig : forged.clientSignature = forgedSignature := rfl
  rw [hsig] at hver
  exact forgedSignature_ne_sign _ _ (beq_iff_eq.mp hver)

def opened : World := engine.final home [registering, reserving 10001 1 (manifest 1 10000 20000)]

def forging : Call := call 10002 (.reserve policy forged (manifest 1 10000 20000)) []

def decidingForged : Call := call 10002 (.decide policy forged (manifest 1 10000 20000) []) []

end Jury.Engine.Sample

namespace Jury.Engine

open Protocol.Sample Engine.Sample

-- Anyone who knows the identifier of an open request can have it denied: a copy of the request with a
-- signature of no key does it.
theorem forged_reservation_denies :
    forging.operation.request? = some forged ∧ ¬ Authenticated opened.store.logical forged ∧
      opened.store.logical.replay[requestKey forged]?.map (·.state) = some .reserved ∧
      (opened.serve forging).2.store.logical.replay[requestKey forged]?.map (·.state) = some .denied ∧
      ((opened.serve forging).2.store.logical.replay[requestKey forged]?.bind (·.response)).map
        (·.decision.reason) = some .replayConflict := by
  refine ⟨rfl, forged_unauthenticated _, ?_⟩
  decide +kernel

theorem unauthenticated_call_unchanged_iff_deciding :
    decidingForged.operation.request? = some forged ∧ ¬ Authenticated opened.store.logical forged ∧
      ¬ Displaces opened.store.logical decidingForged.operation ∧
      Unchanged opened.store.logical (opened.serve decidingForged).2.store.logical := by
  have hfree : ¬ Displaces opened.store.logical decidingForged.operation := by
    rintro ⟨_, _, _, _, hop, -⟩
    cases hop
  refine ⟨rfl, forged_unauthenticated _, hfree, ?_⟩
  have hrun := unauthenticated_call_unchanged_iff home.witnessId
    [registering, reserving 10001 1 (manifest 1 10000 20000)] decidingForged forged rfl (forged_unauthenticated _)
  have hhome : World.initial home.witnessId = home := rfl
  have hopened : opened = engine.final home [registering, reserving 10001 1 (manifest 1 10000 20000)] := rfl
  rw [hhome, ← hopened] at hrun
  exact hrun.1 hfree

end Jury.Engine
