import Jury.Engine.Recovery

-- What an operation returns is covered by the anchor of that moment, and what it leaves behind when it
-- fails is one whole step or none.
namespace Jury.Engine

open Lib Lib.SplitWrite Protocol Vault Witness Policy

def Plan.Replies {α : Type} (P : PersistedWitnessState → α → Prop) (state : PersistedWitnessState) : Plan α → Prop
  | .answer reply => P state reply
  | .write _ due => ∀ written reply, due written = .ok reply → P written reply

theorem Plan.Replies.map {α β : Type} {P : PersistedWitnessState → β → Prop} {f : α → β} {plan : Plan α}
    (h : plan.Replies (fun written a => P written (f a)) state) : (plan.map f).Replies P state := by
  cases plan with
  | answer reply => exact h
  | write logical due =>
    intro written reply hreply
    obtain ⟨a, ha, rfl⟩ := map_eq_ok.mp hreply
    exact h written a ha

theorem Plan.Replies.imp {α : Type} {P Q : PersistedWitnessState → α → Prop} {plan : Plan α}
    (h : plan.Replies P state) (himp : ∀ written a, P written a → Q written a) : plan.Replies Q state := by
  cases plan with
  | answer reply => exact himp _ _ h
  | write logical due => exact fun written reply hreply => himp _ _ (h written reply hreply)

theorem Plan.Replies.of_forall {α : Type} {P : PersistedWitnessState → α → Prop} {plan : Plan α}
    (h : ∀ written a, P written a) : plan.Replies P state := by
  cases plan with
  | answer reply => exact h _ _
  | write logical due => exact fun written reply _ => h written reply

variable [Crypto]

variable {world : World} {descriptor : PrincipalDescriptorV1} {identity : WitnessEngineIdentity}

section Acknowledgements

def Acknowledges (state : PersistedWitnessState) (acknowledgement : WitnessCheckpointAcknowledgementV1) : Prop :=
  checkpointAcknowledgement state acknowledgement.vaultId = .ok acknowledgement

variable {acknowledgement : WitnessCheckpointAcknowledgementV1}

theorem checkpointAcknowledgement_eq_ok (h : checkpointAcknowledgement state vaultId = .ok acknowledgement) :
    Acknowledges state acknowledgement := by
  have hvault : acknowledgement.vaultId = vaultId := by
    simp only [checkpointAcknowledgement, eq_ok] at h
    obtain ⟨_, -, _, -, _, -, _, -, _, -, rfl⟩ := h
    rfl
  rw [Acknowledges, hvault]
  exact h

variable {context : EngineContext} {policy : PolicyState} {checkpoint : VaultPolicyCheckpointV1}
  {material : PolicyMaterialBytes}

theorem registerVaultPlan_acknowledges {registration : RegistrationBytes}
    (h : registerVaultPlan context.identity context.wallTimeMs policy registration checkpoint material state entropy =
      .ok plan rest) : plan.Replies Acknowledges state := by
  simp only [registerVaultPlan, state_eq_ok] at h
  obtain ⟨_, _, -, _, _, -, h⟩ := h
  cases hknown : state.logical.vaults[checkpoint.vaultId]? with
  | none =>
    simp only [hknown, state_pure_eq_ok] at h
    obtain ⟨rfl, -⟩ := h
    exact fun written reply hreply => checkpointAcknowledgement_eq_ok hreply
  | some current =>
    simp only [hknown, state_eq_ok] at h
    obtain ⟨_, _, -, acknowledgement, _, ⟨hacknowledgement, -⟩, rfl, -⟩ := h
    exact checkpointAcknowledgement_eq_ok hacknowledgement

theorem advanceCheckpointPlan_acknowledges
    (h : advanceCheckpointPlan context.identity context.wallTimeMs policy checkpoint material state entropy =
      .ok plan rest) : plan.Replies Acknowledges state := by
  simp only [advanceCheckpointPlan, state_eq_ok] at h
  obtain ⟨_, _, -, _, _, -, current, _, -, h⟩ := h
  by_cases hknown : current.currentCheckpoint = checkpoint
  · simp only [if_pos hknown, state_eq_ok] at h
    obtain ⟨_, _, -, acknowledgement, _, ⟨hacknowledgement, -⟩, rfl, -⟩ := h
    exact checkpointAcknowledgement_eq_ok hacknowledgement
  · simp only [if_neg hknown, state_eq_ok] at h
    obtain ⟨_, _, -, _, _, -, _, _, -, rfl, -⟩ := h
    exact fun written reply hreply => checkpointAcknowledgement_eq_ok hreply

def AcknowledgesIn (state : PersistedWitnessState) (reply : Reply) : Prop :=
  ∀ acknowledgement, reply = .acknowledgement acknowledgement → Acknowledges state acknowledgement

theorem planner_acknowledges {operation : Operation} {plan : Plan Reply}
    (h : (operation.planner context state).value entropy = .ok plan) : plan.Replies AcknowledgesIn state := by
  cases operation with
  | checkReady =>
    simp only [Operation.planner, Drawing.value_eq_ok, state_pure_eq_ok] at h
    obtain ⟨_, rfl, -⟩ := h
    rintro _ ⟨⟩
  | registerVault policy registration checkpoint material =>
    obtain ⟨plan, rest, hplan, rfl⟩ := Drawing.value_map_eq_ok.mp h
    refine .map ((registerVaultPlan_acknowledges hplan).imp ?_)
    rintro written acknowledgement hacknowledges _ ⟨⟩
    exact hacknowledges
  | advanceCheckpoint policy checkpoint material =>
    obtain ⟨plan, rest, hplan, rfl⟩ := Drawing.value_map_eq_ok.mp h
    refine .map ((advanceCheckpointPlan_acknowledges hplan).imp ?_)
    rintro written acknowledgement hacknowledges _ ⟨⟩
    exact hacknowledges
  | operationalStatus | compactReplay | cancel | reserve | decide =>
    simp only [Operation.planner, Drawing.value_map, map_eq_ok] at h
    obtain ⟨plan, -, rfl⟩ := h
    exact .map (.of_forall fun _ _ => by rintro _ ⟨⟩)

theorem serve_acknowledges {call : Call} (h : world.serve call = (.ok (.acknowledgement acknowledgement), next)) :
    Acknowledges next.store acknowledgement := by
  obtain ⟨-, hanswered⟩ := serve_ok (signs_unsigned call.context.identity) h
  cases hanswered with
  | read hprep => exact planner_acknowledges hprep.planned _ rfl
  | wrote hprep _ _ _ _ hreply => exact planner_acknowledges hprep.planned _ _ hreply _ rfl

end Acknowledgements

-- How the next attempt to get ready ends: whatever the storages do, the logical state stays; once it
-- succeeds, the state is published; and it succeeds when the storages answer.
structure Recovers (descriptor : PrincipalDescriptorV1) (world : World) (identity : WitnessEngineIdentity)
    (faults : List Fault) : Prop where
  kept : (finalState (readyState identity { world with faults })).store.logical = world.store.logical
  published : ∀ state next, readyState identity { world with faults } = .ok state next →
    state = next.store ∧ Confirmed identity next
  ready : faults = [] → identity.publicDescriptor = some descriptor →
    ∃ next, readyState identity { world with faults } = .ok next.store next

theorem Resting.recovers (h : Resting descriptor world)
    (hident : Holds descriptor identity) (faults : List Fault) :
    Recovers descriptor world identity faults where
  kept := (readyState_final identity { world with faults }).logical_eq
  published := by
    intro state next hready
    exact (readyState_ok hready).2
  ready := by
    intro hfaults hreach
    have hresting : Resting descriptor { world with faults } := h.agrees ⟨rfl, rfl, rfl, rfl⟩
    exact hresting.readyState_quiet hfaults hident.principalId hreach

structure Atomic (descriptor : PrincipalDescriptorV1) (event : EngineEvent) : Prop where
  response : ∀ response, responseOf event = some response →
    (∃ anchor, event.after.anchor = some anchor ∧
      Anchored event.input.context.identity event.after.store.logical anchor) ∧
    ∃ request entry, Delivered event.input.operation event.after.store.logical request entry response
  acknowledgement : ∀ acknowledgement, event.output = .ok (.acknowledgement acknowledgement) →
    event.after.anchor = some acknowledgement.exactAnchor ∧
    Anchored event.input.context.identity event.after.store.logical acknowledgement.exactAnchor ∧
    ∃ vault, event.after.store.logical.vaults[acknowledgement.vaultId]? = some vault ∧
      vault.currentCheckpoint.digest = .ok acknowledgement.checkpointDigest
  failure : ∀ error, event.output = .error error →
    (event.after.store.logical = event.before.store.logical ∨
      Stepped event.input event.before.store.logical event.after.store.logical ∧
        event.after.store.logical.stateGeneration.toNat = event.before.store.logical.stateGeneration.toNat + 1) ∧
    ∀ identity faults, Holds descriptor identity → Recovers descriptor event.after identity faults

theorem Stepped.stateGeneration {call : Call} (h : Stepped call before after) :
    after.stateGeneration.toNat = before.stateGeneration.toNat + 1 := by
  obtain ⟨-, hstep, hadv⟩ := h
  rw [(advanceGeneration_eq_ok hadv).1, hstep.generation]

theorem Confirmed.anchor_of_used (h : Confirmed identity world) (hresting : Resting descriptor world)
    (hused : world.store.logical ≠ .empty world.witnessId) :
    ∃ anchor, world.anchor = some anchor ∧ Anchored identity world.store.logical anchor := by
  cases hanchor : world.anchor with
  | none => exact absurd (hresting.unused (h.unanchored hanchor)) hused
  | some anchor => exact ⟨anchor, rfl, h.anchored anchor hanchor⟩

theorem serve_atomic {call : Call} (hafter : Resting descriptor (world.serve call).2) :
    Atomic descriptor (engine.event world call) where
  response := by
    intro response hresp
    obtain ⟨reply, houtput, hreply⟩ := responseOf_eq_some.mp hresp
    obtain ⟨hconf, hdelivers⟩ := serve_delivers (Prod.ext houtput rfl : world.serve call = (.ok reply, _))
    obtain ⟨request, entry, hdelivered⟩ := hdelivers response hreply
    refine ⟨hconf.anchor_of_used hafter fun hempty => ?_, request, entry, hdelivered⟩
    have hstored := hdelivered.stored
    rw [hempty] at hstored
    exact absurd hstored (by simp [WitnessLogicalState.empty])
  acknowledgement := by
    intro acknowledgement houtput
    have hserve : world.serve call = (.ok (.acknowledgement acknowledgement), (world.serve call).2) := Prod.ext houtput rfl
    obtain ⟨hconf, -⟩ := serve_delivers hserve
    have hacknowledges := serve_acknowledges hserve
    simp only [Acknowledges, checkpointAcknowledgement, eq_ok, orRefuse_eq_ok] at hacknowledges
    obtain ⟨vault, hvault, anchor, hpubd, digest, hdigest, _, -, _, -, heq⟩ := hacknowledges
    rw [← heq] at hvault ⊢
    have hanchor := hconf.published.trans hpubd
    exact ⟨hanchor, hconf.anchored anchor hanchor, vault, hvault, hdigest⟩
  failure := by
    intro error _
    refine ⟨?_, fun identity faults hident => hafter.recovers hident faults⟩
    rcases serve_logical world call with hkept | hstepped
    · exact .inl hkept
    · exact .inr ⟨hstepped, hstepped.stateGeneration⟩

theorem operation_published_or_recoverable (descriptor : PrincipalDescriptorV1) (calls : List Call)
    (hcalls : ∀ call ∈ calls, Holds descriptor call.context.identity) :
    ∀ event ∈ engine.trace (World.initial descriptor.principalId) calls, Atomic descriptor event := by
  intro event hevent
  obtain ⟨earlier, call, later, rfl, rfl⟩ := (Machine.mem_trace engine).mp hevent
  refine serve_atomic ?_
  have hresting : Resting descriptor (engine.final (World.initial descriptor.principalId) (earlier ++ [call])) := by
    refine final_resting fun other hother => hcalls other ?_
    rcases List.mem_append.mp hother with hother | hother
    · exact List.mem_append_left _ hother
    · obtain rfl := List.mem_singleton.mp hother
      exact List.mem_append_right _ List.mem_cons_self
  rwa [Machine.final_append] at hresting

end Jury.Engine

namespace Jury.Engine

open Protocol.Sample Policy.Sample Engine.Sample

theorem operation_published_or_recoverable_interrupted :
    ((engine.trace home [interrupted, registering]).map fun event => event.output.isOk) = [false, true] ∧
      ∀ event ∈ engine.trace home [interrupted, registering], Atomic (descriptor .witness 5) event := by
  refine ⟨by decide +kernel, operation_published_or_recoverable (descriptor .witness 5) _ fun call hcall => ?_⟩
  rcases List.mem_pair.mp hcall with rfl | rfl
  · exact holds_witness 5
  · exact holds_witness 5

end Jury.Engine
