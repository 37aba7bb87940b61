import Jury.Engine.Publication

-- One operation as a whole: it publishes what is pending, plans, and commits at most one logical state
-- that is one generation on.
namespace Jury.Engine

open Lib Lib.SplitWrite Protocol Witness Policy

variable {signed : WitnessStateAnchorV1 → Prop}

variable {advanced logical : WitnessLogicalState} {nowMs : UInt64}
variable {state : PersistedWitnessState} {anchor : WitnessStateAnchorV1}

theorem advanceGeneration_eq_ok (h : advanceGeneration logical nowMs = .ok advanced) :
    advanced.stateGeneration.toNat = logical.stateGeneration.toNat + 1 ∧
      advanced.lastAcceptedWallTimeMs.toNat = max logical.lastAcceptedWallTimeMs.toNat nowMs.toNat ∧
      advanced.vaults = logical.vaults ∧ advanced.replay = logical.replay ∧
      advanced.witnessId = logical.witnessId := by
  simp only [advanceGeneration, eq_ok] at h
  obtain ⟨generation, hgen, rfl⟩ := h
  refine ⟨by simpa using checkedAdd_eq_some.mp hgen, ?_, rfl, rfl, rfl⟩
  dsimp only
  split
  · next hlt => exact (max_eq_right (UInt64.lt_iff_toNat_lt.mp hlt).le).symm
  · next hlt => exact (max_eq_left (Nat.le_of_not_lt (UInt64.lt_iff_toNat_lt.not.mp hlt))).symm

theorem ensurePublishable_final (candidate : WitnessStateAnchorV1) (world : World) :
    world.Agrees (finalState (ensurePublishable candidate world)) := readCall_final _ _ world

theorem RegisteredWitnessVault.le_length_checkpoint {vault : RegisteredWitnessVault}
    (h : vault.toProtocol vaultId = .ok encoded) : 64 ≤ encoded.currentCheckpoint.asBytes.length := by
  simp only [RegisteredWitnessVault.toProtocol, eq_ok, orRefuse_eq_ok, boundedBytes] at h
  obtain ⟨bytes, hbytes, _, hbounded, rfl⟩ := h
  obtain ⟨-, content, -, rfl⟩ := signedBytes_eq_ok.mp hbytes
  rw [BoundedBytes.new_eq_ok hbounded, Bytes.length_append, FixedBytes.length_bytes]
  omega

variable [Crypto]

-- What an anchor says of the state it was committed with. `signed` is whatever is known of the
-- signature.
structure Covers (signed : WitnessStateAnchorV1 → Prop) (witnessId : PrincipalId) (logical : WitnessLogicalState)
    (published : Option WitnessStateAnchorV1) (candidate : WitnessStateAnchorV1) : Prop where
  owner : logical.witnessId = witnessId
  bound : logical.stateGeneration.toNat < 2 ^ 63
  digest : logical.databaseStateDigest = .ok candidate.databaseStateDigest
  predecessor : predecessorDigest published = .ok candidate.predecessorAnchorDigest
  encoded : encodePersistedState { logical, publishedAnchor := published, pendingAnchor := some candidate } = .ok ()
  publishable : publishable witnessId candidate = .ok ()
  hashed : ∃ digest, candidate.digest = .ok digest
  signed : signed candidate

def protocol (signed : WitnessStateAnchorV1 → Prop) (witnessId : PrincipalId) :
    Protocol WitnessLogicalState WitnessStateAnchorV1 where
  generation logical := logical.stateGeneration.toNat
  stamp anchor := anchor.stateGeneration.toNat
  covers := Covers signed witnessId

def Signs (identity : WitnessEngineIdentity) (signed : WitnessStateAnchorV1 → Prop) : Prop :=
  ∀ state nowMs anchor, buildAnchor identity state nowMs = .ok anchor → signed anchor

theorem buildAnchor_eq_ok (h : buildAnchor identity state nowMs = .ok anchor) :
    anchor.stateGeneration = state.logical.stateGeneration ∧
      state.logical.databaseStateDigest = .ok anchor.databaseStateDigest ∧
      predecessorDigest state.publishedAnchor = .ok anchor.predecessorAnchorDigest := by
  simp only [buildAnchor, eq_ok] at h
  obtain ⟨_, -, digest, hdigest, _, -, predecessor, hpred, _, -, _, -, rfl⟩ := h
  exact ⟨rfl, hdigest, hpred⟩

theorem vaults_room (h : logical.databaseStateDigest = .ok digest) :
    215 + logical.vaults.toList.length * 112 < 2 ^ 32 := by
  simp only [WitnessLogicalState.databaseStateDigest, WitnessLogicalState.canonicalDatabaseState, eq_ok,
    orRefuse_eq_ok] at h
  obtain ⟨_, ⟨vaultStates, hvaults, records, -, rfl⟩, hdigest⟩ := h
  simp only [WitnessDatabaseStateV1.digest, hashBytes, eq_ok, bytesField_eq_some] at hdigest
  obtain ⟨body, hbody, _, ⟨hlen, -⟩, -⟩ := hdigest
  replace hvaults := mapM_eq_ok.mp hvaults
  have hsize : ∀ vault ∈ vaultStates, 64 ≤ vault.currentCheckpoint.asBytes.length := by
    intro vault hvault
    obtain ⟨⟨vaultId, registered⟩, -, hencoded⟩ := forall₂_mem_right hvaults hvault
    exact registered.le_length_checkpoint hencoded
  have hbound := WitnessDatabaseStateV1.le_length_canonicalBody hbody hsize
  have hcount : logical.vaults.toList.length = vaultStates.length := hvaults.length_eq
  dsimp only at hbound
  omega

theorem buildAnchor_digest (h : buildAnchor identity state nowMs = .ok anchor) :
    ∃ digest, anchor.digest = .ok digest := by
  simp only [buildAnchor, eq_ok, orRefuse_eq_ok] at h
  obtain ⟨_, -, _, hdatabase, watermarks, hwatermarks, _, -, _, hpre, _, -, rfl⟩ := h
  obtain ⟨hshape, content, hfields, -⟩ := signedPreimage_eq_ok.mp hpre
  refine WitnessStateAnchorV1.digest_of_fields hshape hfields ?_
  have hroom := vaults_room hdatabase
  have hcount := (mapM_eq_ok.mp hwatermarks).length_eq
  dsimp only
  omega

theorem storeCommit_eq_ok {witnessId : PrincipalId} {committed : PersistedWitnessState}
    (h : storeCommit witnessId expectedGeneration replacement current = .ok committed) :
    committed = replacement ∧ replacement.logical.witnessId = witnessId ∧
      replacement.logical.stateGeneration.toNat < 2 ^ 63 ∧ encodePersistedState replacement = .ok () ∧
      current.logical.stateGeneration = expectedGeneration := by
  simp only [storeCommit, eq_ok, passed, not_le] at h
  obtain ⟨_, ⟨⟨howner, -⟩, -⟩, loaded, hload, _, ⟨hgen, -⟩, _, hencoded, _, hbound, rfl⟩ := h
  obtain ⟨rfl, -⟩ := storeLoad_eq_ok hload
  exact ⟨rfl, howner, hbound, hencoded, hgen⟩

structure Committed (signed : WitnessStateAnchorV1 → Prop) (world : World) (logical : WitnessLogicalState)
    (next : World) : Prop where
  witnessId : next.witnessId = world.witnessId
  value : next.store.logical = logical
  step : ∃ candidate, (protocol signed world.witnessId).Commit world.pair logical candidate ∧
    next.pair = world.pair.write
      { value := logical, published := world.pair.store.published, pending := some candidate }

theorem committed_of_storeCommit (hsigns : Signs identity signed) {store : PersistedWitnessState}
    (hconf : Confirmed identity world) (hadv : advanceGeneration logical nowMs = .ok advanced)
    (hbuild : buildAnchor identity { world.store with logical := advanced } nowMs = .ok candidate)
    (hpublishable : publishable world.witnessId candidate = .ok ()) (hagrees : world.Agrees before)
    (hcommit : storeCommit before.witnessId logical.stateGeneration
      { world.store with logical := advanced, pendingAnchor := some candidate } before.store = .ok store) :
    Committed signed world advanced (before.write store) := by
  obtain ⟨rfl, howner, hbound, hencoded, hgen⟩ := storeCommit_eq_ok hcommit
  obtain ⟨hstamp, hdigest, hpred⟩ := buildAnchor_eq_ok hbuild
  rw [hagrees.store] at hgen
  rw [hagrees.witnessId] at howner
  refine ⟨hagrees.witnessId, rfl, candidate, ?_, ?_⟩
  · refine ⟨hconf.settled, hconf.published, ?_, congrArg UInt64.toNat hstamp, ?_⟩
    · have hnext := (advanceGeneration_eq_ok hadv).1
      rw [← hgen] at hnext
      exact hnext
    · exact ⟨howner, hbound, hdigest, hpred, hencoded, hpublishable, buildAnchor_digest hbuild, hsigns _ _ _ hbuild⟩
  · rw [World.pair_write, hagrees.pair]
    rfl

theorem Committed.agrees {world : World} (h : Committed signed before logical next) (hagrees : world.Agrees before) :
    Committed signed world logical next := by
  obtain ⟨hwitness, hvalue, hstep⟩ := h
  rw [hagrees.pair, hagrees.witnessId] at hstep
  exact ⟨hwitness.trans hagrees.witnessId, hvalue, hstep⟩

-- How an attempt to write a logical state ends: nothing has happened, or its next generation is in the
-- database and on its way to publication.
inductive Written (signed : WitnessStateAnchorV1 → Prop) (logical : WitnessLogicalState) (nowMs : UInt64)
    (world next : World) : Prop where
  | kept (hagrees : world.Agrees next)
  | committed {advanced : WitnessLogicalState} {committed : World}
      (hadv : advanceGeneration logical nowMs = .ok advanced)
      (hcomm : Committed signed world advanced committed) (hpubl : committed.Publishing next)

theorem commitAndPublish_final (hsigns : Signs identity signed) (logical : WitnessLogicalState) (nowMs : UInt64)
    (world : World) (hconf : Confirmed identity world) : Written signed logical nowMs world
      (finalState (commitAndPublish identity { world.store with logical } nowMs world)) := by
  refine final_bind_of (fun _ _ h => ?_) fun advanced _ hcheck => ?_
  · obtain ⟨-, rfl⟩ := check_eq_error.mp h
    exact .kept (.refl world)
  obtain ⟨hadv, rfl⟩ := check_eq_ok.mp hcheck
  refine final_bind_of (fun _ _ h => ?_) fun candidate _ hcheck => ?_
  · obtain ⟨-, rfl⟩ := check_eq_error.mp h
    exact .kept (.refl world)
  obtain ⟨hbuild, rfl⟩ := check_eq_ok.mp hcheck
  clear hcheck
  have hensure := ensurePublishable_final candidate world
  refine final_bind_of (fun _ _ h => ?_) fun _ ensured h => ?_
  · rw [h] at hensure
    exact .kept hensure
  obtain ⟨hagrees, hpublishable⟩ := readCall_ok h
  have hconf := hconf.agrees hagrees
  rw [← hagrees.store] at hbuild ⊢
  refine final_bind_of (fun _ failed h => ?_) fun _ committed h => ?_
  · rcases writeCall_error h with hkept | ⟨before, _, hbefore, hchange⟩
    · exact .kept (hagrees.trans hkept)
    · simp only [eq_ok, Prod.mk.injEq, true_and] at hchange
      obtain ⟨store, hcommit, rfl⟩ := hchange
      have hcomm := committed_of_storeCommit hsigns hconf hadv hbuild hpublishable hbefore hcommit
      exact .committed hadv (hcomm.agrees hagrees) (.refl _)
  · obtain ⟨before, hbefore, hchange⟩ := writeCall_ok h
    simp only [eq_ok, Prod.mk.injEq, true_and] at hchange
    obtain ⟨store, hcommit, rfl⟩ := hchange
    have hcomm := committed_of_storeCommit hsigns hconf hadv hbuild hpublishable hbefore hcommit
    exact .committed hadv (hcomm.agrees hagrees) (readyState_final identity _)

theorem commitAndPublish_ok (hsigns : Signs identity signed) (hconf : Confirmed identity world)
    (h : commitAndPublish identity { world.store with logical } nowMs world = .ok state next) :
    state = next.store ∧ Confirmed identity next ∧ ∃ advanced committed,
      advanceGeneration logical nowMs = .ok advanced ∧ Committed signed world advanced committed ∧
        committed.Publishing next := by
  obtain ⟨advanced, _, hcheck, h⟩ := state_bind_eq_ok.mp h
  obtain ⟨hadv, rfl⟩ := check_eq_ok.mp hcheck
  obtain ⟨candidate, _, hcheck, h⟩ := state_bind_eq_ok.mp h
  obtain ⟨hbuild, rfl⟩ := check_eq_ok.mp hcheck
  clear hcheck
  obtain ⟨_, ensured, hensure, h⟩ := state_bind_eq_ok.mp h
  obtain ⟨hagrees, hpublishable⟩ := readCall_ok hensure
  rw [← hagrees.store] at hbuild h
  obtain ⟨_, committed, hcommit, hready⟩ := state_bind_eq_ok.mp h
  obtain ⟨before, hbefore, hchange⟩ := writeCall_ok hcommit
  simp only [eq_ok, Prod.mk.injEq, true_and] at hchange
  obtain ⟨store, hstore, rfl⟩ := hchange
  obtain ⟨hpubl, rfl, hnext⟩ := readyState_ok hready
  have hcomm := committed_of_storeCommit hsigns (hconf.agrees hagrees) hadv hbuild hpublishable hbefore hstore
  exact ⟨rfl, hnext, advanced, _, hadv, hcomm.agrees hagrees, hpubl⟩

section Perform

variable {α : Type}

structure Prepared (context : EngineContext) (planner : PersistedWitnessState → Drawing (Plan α))
    (world ready : World) (plan : Plan α) : Prop where
  publishing : world.Publishing ready
  confirmed : Confirmed context.identity ready
  clock : requireSafeClock ready.store context.wallTimeMs = .ok ()
  planned : (planner ready.store).value context.entropy = .ok plan

variable {context : EngineContext} {world : World}

-- How an operation can end: it has published at most, or written what it planned.
inductive Performed (signed : WitnessStateAnchorV1 → Prop) (context : EngineContext)
    (planner : PersistedWitnessState → Drawing (Plan α)) (world next : World) : Prop where
  | kept (hpubl : world.Publishing next)
  | written {ready : World} {logical : WitnessLogicalState}
      {reply : PersistedWitnessState → Except WitnessEngineError α}
      (hprep : Prepared context planner world ready (.write logical reply))
      (hwritten : Written signed logical context.wallTimeMs ready next)

theorem perform_final (hsigns : Signs context.identity signed) (planner : PersistedWitnessState → Drawing (Plan α))
    (world : World) : Performed signed context planner world (finalState (perform context planner world)) := by
  have hfinal := readyState_final context.identity world
  refine final_bind_of (fun _ _ h => ?_) fun _ ready h => ?_
  · rw [h] at hfinal
    exact .kept hfinal
  obtain ⟨hpubl, rfl, hconf⟩ := readyState_ok h
  refine final_bind_of (fun _ _ h => ?_) fun _ _ h => ?_
  · obtain ⟨-, rfl⟩ := check_eq_error.mp h
    exact .kept hpubl
  obtain ⟨hclock, rfl⟩ := check_eq_ok.mp h
  refine final_bind_of (fun _ _ h => ?_) fun plan _ h => ?_
  · obtain ⟨-, rfl⟩ := check_eq_error.mp h
    exact .kept hpubl
  obtain ⟨hplan, rfl⟩ := check_eq_ok.mp h
  cases plan with
  | answer reply => exact .kept hpubl
  | write logical reply =>
    have hprep : Prepared context planner world ready (.write logical reply) :=
      ⟨hpubl, hconf, hclock, hplan⟩
    have hcommit := commitAndPublish_final hsigns logical context.wallTimeMs ready hconf
    refine final_bind_of (fun _ _ h => ?_) fun state published h => ?_
    · rw [h] at hcommit
      exact .written hprep hcommit
    · rw [h] at hcommit
      rw [finalState_check]
      exact .written hprep hcommit

-- How an operation returns: with the answer it planned, or with the one that was due once the state it
-- planned was published.
inductive Answered (signed : WitnessStateAnchorV1 → Prop) (context : EngineContext)
    (planner : PersistedWitnessState → Drawing (Plan α)) (world : World) (a : α) (next : World) : Prop where
  | read (hprep : Prepared context planner world next (.answer a))
  | wrote {ready committed : World} {logical advanced : WitnessLogicalState}
      {reply : PersistedWitnessState → Except WitnessEngineError α}
      (hprep : Prepared context planner world ready (.write logical reply))
      (hadv : advanceGeneration logical context.wallTimeMs = .ok advanced)
      (hcomm : Committed signed ready advanced committed) (hpubl : committed.Publishing next)
      (hconf : Confirmed context.identity next) (hreply : reply next.store = .ok a)

theorem perform_ok (hsigns : Signs context.identity signed) (h : perform context planner world = .ok a next) :
    Answered signed context planner world a next := by
  obtain ⟨_, ready, hready, h⟩ := state_bind_eq_ok.mp h
  obtain ⟨hpubl, rfl, hconf⟩ := readyState_ok hready
  obtain ⟨_, _, hcheck, h⟩ := state_bind_eq_ok.mp h
  obtain ⟨hclock, rfl⟩ := check_eq_ok.mp hcheck
  obtain ⟨plan, _, hcheck, h⟩ := state_bind_eq_ok.mp h
  obtain ⟨hplan, rfl⟩ := check_eq_ok.mp hcheck
  have hprep : Prepared context planner world ready plan := ⟨hpubl, hconf, hclock, hplan⟩
  cases plan with
  | answer reply =>
    obtain ⟨rfl, rfl⟩ := state_pure_eq_ok.mp h
    exact .read hprep
  | write logical reply =>
    obtain ⟨_, published, hcommit, h⟩ := state_bind_eq_ok.mp h
    obtain ⟨hreply, rfl⟩ := check_eq_ok.mp h
    obtain ⟨rfl, hnext, advanced, committed, hadv, hcomm, hpubl⟩ :=
      commitAndPublish_ok hsigns hconf hcommit
    exact .wrote hprep hadv hcomm hpubl hnext hreply

variable {before : World}

theorem Prepared.agrees (hagrees : before.Agrees world) (h : Prepared context planner world ready plan) :
    Prepared context planner before ready plan :=
  ⟨hagrees.publishing.trans h.publishing, h.confirmed, h.clock, h.planned⟩

theorem Performed.agrees (hagrees : before.Agrees world) (h : Performed signed context planner world next) :
    Performed signed context planner before next := by
  cases h with
  | kept hpubl => exact .kept (hagrees.publishing.trans hpubl)
  | written hprep hwritten => exact .written (hprep.agrees hagrees) hwritten

theorem Answered.agrees (hagrees : before.Agrees world) (h : Answered signed context planner world a next) :
    Answered signed context planner before a next := by
  cases h with
  | read hprep => exact .read (hprep.agrees hagrees)
  | wrote hprep hadv hcomm hpubl hconf hreply =>
    exact .wrote (hprep.agrees hagrees) hadv hcomm hpubl hconf hreply

theorem Committed.steps (h : Committed signed world logical next) :
    (protocol signed world.witnessId).Steps world.pair next.pair := by
  obtain ⟨candidate, hcommit, hpair⟩ := h.step
  exact hpair ▸ .single (.commit hcommit)

theorem World.Publishing.steps (h : world.Publishing next) :
    (protocol signed world.witnessId).Steps world.pair next.pair :=
  Protocol.steps_of_publishes _ h.publishes

theorem Written.steps (h : Written signed logical nowMs world next) :
    next.witnessId = world.witnessId ∧ (protocol signed world.witnessId).Steps world.pair next.pair := by
  cases h with
  | kept hagrees => exact ⟨hagrees.witnessId, hagrees.publishing.steps⟩
  | committed _ hcomm hpubl =>
    refine ⟨hpubl.witnessId.trans hcomm.witnessId, hcomm.steps.trans ?_⟩
    exact hcomm.witnessId ▸ hpubl.steps

theorem Performed.steps (h : Performed signed context planner world next) :
    next.witnessId = world.witnessId ∧ (protocol signed world.witnessId).Steps world.pair next.pair := by
  cases h with
  | kept hpubl => exact ⟨hpubl.witnessId, hpubl.steps⟩
  | written hprep hwritten =>
    obtain ⟨hwitness, hsteps⟩ := hwritten.steps
    refine ⟨hwitness.trans hprep.publishing.witnessId, hprep.publishing.steps.trans ?_⟩
    exact hprep.publishing.witnessId ▸ hsteps

end Perform

end Jury.Engine
