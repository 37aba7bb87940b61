import Jury.Engine.Run

-- The anchors of a witness form one chain. A database that is put back to an earlier moment stays where it was put:
-- no operation returns, and neither storage is written again.
namespace Jury.Engine

open Lib Lib.SplitWrite Protocol Witness Policy

theorem World.eq_of_pair_eq {world next : World} (h : next.pair = world.pair) :
    next.store = world.store ∧ next.anchor = world.anchor :=
  ⟨PersistedWitnessState.record_inj (congrArg Pair.store h), congrArg Pair.anchor h⟩

variable [Crypto]

-- Whatever the storages do, each anchor covers a state of the witness as the successor of the anchor before it.
theorem anchors_form_chain (witnessId : PrincipalId) (calls later : List Call) :
    Relation.ReflTransGen (protocol unsigned witnessId).Succeeds
      (engine.final (World.initial witnessId) calls).anchor
      (engine.final (World.initial witnessId) (calls ++ later)).anchor := by
  obtain ⟨howner, hcoh⟩ := final_coherent witnessId fun (call : Call) (_ : call ∈ calls) =>
    signs_unsigned call.context.identity
  rw [Machine.final_append]
  generalize engine.final (World.initial witnessId) calls = start at howner hcoh ⊢
  have hsteps : (protocol unsigned witnessId).Steps start.pair (engine.final start later).pair := by
    refine (Machine.final_preserves (P := fun world : World =>
      world.witnessId = witnessId ∧ (protocol unsigned witnessId).Steps start.pair world.pair) ⟨howner, .refl⟩ ?_).2
    rintro world call - ⟨rfl, hreached⟩
    obtain ⟨hkept, hround⟩ := serve_steps (signs_unsigned call.context.identity) world
    exact ⟨hkept, hreached.trans hround⟩
  exact hsteps.anchors hcoh

theorem serve_rolledBack {world : World} (h : (protocol unsigned world.witnessId).RolledBack world.pair)
    (call : Call) :
    (∃ error, (world.serve call).1 = .error error) ∧ (world.serve call).2.witnessId = world.witnessId ∧
      (world.serve call).2.pair = world.pair := by
  obtain ⟨hwitness, hsteps⟩ := serve_steps (signs_unsigned call.context.identity) world
  refine ⟨?_, hwitness, h.eq_of_steps hsteps⟩
  match hserve : world.serve call with
  | (.error error, _) => exact ⟨error, rfl⟩
  | (.ok reply, next) =>
    -- An answer comes from a confirmed state, which a rolled-back one never becomes.
    obtain ⟨-, hanswered⟩ := serve_ok (signs_unsigned call.context.identity) hserve
    obtain ⟨ready, plan, hprep⟩ : ∃ ready plan,
        Prepared call.context (call.operation.planner call.context) world ready plan := by
      cases hanswered with
      | read hprep => exact ⟨_, _, hprep⟩
      | wrote hprep => exact ⟨_, _, hprep⟩
    have hpair : ready.pair = world.pair := h.eq_of_steps hprep.publishing.steps
    have hpubd : ready.pair.anchor = ready.pair.store.published := hprep.confirmed.published
    rw [hpair] at hpubd
    exact absurd hpubd h.anchor_ne_published

theorem trace_rolledBack {restored : World} (h : (protocol unsigned restored.witnessId).RolledBack restored.pair)
    (later : List Call) :
    ∀ event ∈ engine.trace restored later, (∃ error, event.output = .error error) ∧
      event.after.store = restored.store ∧ event.after.anchor = restored.anchor := by
  have hstep : ∀ (next : World) (call : Call),
      next.witnessId = restored.witnessId ∧ next.pair = restored.pair →
        (∃ error, (next.serve call).1 = .error error) ∧
          (next.serve call).2.witnessId = restored.witnessId ∧ (next.serve call).2.pair = restored.pair := by
    rintro next call ⟨hwitness, hpair⟩
    rw [← hwitness, ← hpair] at h ⊢
    exact serve_rolledBack h call
  refine Machine.forall_trace
    (P := fun next : World => next.witnessId = restored.witnessId ∧ next.pair = restored.pair) ⟨rfl, rfl⟩
    (fun next call _ hnext => (hstep next call hnext).2) fun next call _ hnext => ?_
  obtain ⟨herror, -, hpair⟩ := hstep next call hnext
  exact ⟨herror, World.eq_of_pair_eq hpair⟩

-- Any state that the database ever had, below the anchor's generation: from then on every call fails,
-- and the restored state and the anchor are never touched.
theorem rollback_detected (witnessId : PrincipalId) (calls later : List Call) (snapshot : PersistedWitnessState)
    (anchor : WitnessStateAnchorV1)
    (hsnapshot : snapshot ∈ (engine.final (World.initial witnessId) calls).history)
    (hanchor : (engine.final (World.initial witnessId) calls).anchor = some anchor)
    (hbehind : snapshot.logical.stateGeneration < anchor.stateGeneration) :
    ∀ event ∈ engine.trace { engine.final (World.initial witnessId) calls with store := snapshot } later,
      (∃ error, event.output = .error error) ∧
        event.after.store = snapshot ∧ event.after.anchor = some anchor := by
  obtain ⟨hwitness, hcoh⟩ := final_coherent witnessId fun (call : Call) (_ : call ∈ calls) =>
    signs_unsigned call.context.identity
  generalize engine.final (World.initial witnessId) calls = world at *
  subst hwitness
  have hrolled : (protocol unsigned world.witnessId).RolledBack { world with store := snapshot }.pair := by
    refine ⟨hcoh.sound _ (List.mem_map_of_mem hsnapshot), ?_⟩
    have hstamp : snapshot.logical.stateGeneration.toNat < anchor.stateGeneration.toNat :=
      UInt64.lt_iff_toNat_lt.mp hbehind
    simp only [World.pair, hanchor]
    exact hstamp
  intro event hevent
  obtain ⟨herror, hstore, hafter⟩ := trace_rolledBack hrolled later event hevent
  exact ⟨herror, hstore, hafter.trans hanchor⟩

end Jury.Engine

namespace Jury.Engine

open Protocol.Sample Engine.Sample

theorem rollback_detected_registered :
    ∃ anchor, (engine.final home [registering]).anchor = some anchor ∧
      .empty home.witnessId ∈ (engine.final home [registering]).history ∧
      WitnessLogicalState.stateGeneration (.empty home.witnessId) < anchor.stateGeneration ∧
      ∀ event ∈ engine.trace { engine.final home [registering] with store := .empty home.witnessId }
          [registering, call 10001 .operationalStatus []],
        (∃ error, event.output = .error error) ∧
          event.after.store = .empty home.witnessId ∧ event.after.anchor = some anchor := by
  have hanchor : (engine.final home [registering]).anchor.map (·.stateGeneration) = some 1 := by decide +kernel
  have hhistory : .empty home.witnessId ∈ (engine.final home [registering]).history := by decide +kernel
  obtain ⟨anchor, hanchor, hgen⟩ := Option.map_eq_some_iff.mp hanchor
  have hbehind : WitnessLogicalState.stateGeneration (.empty home.witnessId) < anchor.stateGeneration := by
    rw [hgen]
    decide
  exact ⟨anchor, hanchor, hhistory, hbehind, rollback_detected _ _ _ _ anchor hhistory hanchor hbehind⟩

end Jury.Engine
