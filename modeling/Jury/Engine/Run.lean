import Jury.Engine.Commitment
import Jury.Lib.Run

-- A witness as a machine: calls of the engine arrive in any order, each with its own clock reading,
-- random source and storage faults, and only the storages last from one call to the next.
namespace Jury.Engine

open Lib Lib.SplitWrite Protocol Witness Policy

inductive Reply where
  | ready
  | status (status : WitnessOperationalStatus)
  | compacted (removed : Nat)
  | acknowledgement (acknowledgement : WitnessCheckpointAcknowledgementV1)
  | cancellation (progress : CancellationProgress)
  | progress (progress : WitnessProgress)
deriving DecidableEq

def Reply.response? : Reply → Option WitnessResponseV1
  | .progress (.stable response) => some response
  | .cancellation (.cancelled response) => some response
  | .cancellation (.tooLate response) => some response
  | _ => none

def Plan.map {α β : Type} (f : α → β) : Plan α → Plan β
  | .answer reply => .answer (f reply)
  | .write logical reply => .write logical fun state => f <$> reply state

def World.initial (witnessId : PrincipalId) : World where
  witnessId
  store := .empty witnessId
  anchor := none
  faults := []
  history := [.empty witnessId]

variable [Crypto]

inductive Operation where
  | checkReady
  | operationalStatus
  | compactReplay
  | registerVault (policy : ReplayedPolicy) (acceptedRegistration : RegistrationBytes)
      (checkpoint : VaultPolicyCheckpointV1) (currentPolicyMaterial : PolicyMaterialBytes)
  | advanceCheckpoint (policy : ReplayedPolicy) (checkpoint : VaultPolicyCheckpointV1)
      (currentPolicyMaterial : PolicyMaterialBytes)
  | cancel (policy : ReplayedPolicy) (request : WitnessRequestV1) (cancellation : RequestCancellationV1)
  | reserve (policy : ReplayedPolicy) (request : WitnessRequestV1) (manifest : ActionManifestV1)
  | decide (policy : ReplayedPolicy) (request : WitnessRequestV1) (manifest : ActionManifestV1)
      (approvals : List ApprovalDecisionV1)

structure Call where
  context : EngineContext
  operation : Operation

namespace Operation

def run (context : EngineContext) : Operation → EngineM Reply
  | .checkReady => (fun _ => .ready) <$> WitnessEngine.checkReady context
  | .operationalStatus => .status <$> WitnessEngine.operationalStatus context
  | .compactReplay => .compacted <$> WitnessEngine.compactReplay context
  | .registerVault policy registration checkpoint material =>
    .acknowledgement <$> WitnessEngine.registerVault context policy.state registration checkpoint material
  | .advanceCheckpoint policy checkpoint material =>
    .acknowledgement <$> WitnessEngine.advanceCheckpoint context policy.state checkpoint material
  | .cancel policy request cancellation =>
    .cancellation <$> WitnessEngine.cancel context policy.state request cancellation
  | .reserve policy request manifest =>
    .progress <$> WitnessEngine.reserve context policy.state request manifest
  | .decide policy request manifest approvals =>
    .progress <$> WitnessEngine.decide context policy.state request manifest approvals

def request? : Operation → Option WitnessRequestV1
  | .cancel _ request _ | .reserve _ request _ | .decide _ request _ _ => some request
  | _ => none

def precheck : Operation → Except WitnessEngineError Unit
  | .registerVault _ registration _ material =>
    rejectIf (registration.isEmpty || material.isEmpty) (refused .invalid)
  | .advanceCheckpoint _ _ material => rejectIf material.isEmpty (refused .invalid)
  | .decide _ _ _ approvals =>
    rejectIf (Decidable.decide (approvals.length > MAX_RECORDED_APPROVALS)) (refused .capacityExhausted)
  | _ => .ok ()

def planner (context : EngineContext) (operation : Operation) (state : PersistedWitnessState) :
    Drawing (Plan Reply) :=
  match operation with
  | .checkReady => return .answer .ready
  | .operationalStatus => Plan.map .status <$> operationalStatusPlan context.wallTimeMs state
  | .compactReplay => Plan.map .compacted <$> compactReplayPlan context.wallTimeMs state
  | .registerVault policy registration checkpoint material =>
    Plan.map .acknowledgement <$>
      registerVaultPlan context.identity context.wallTimeMs policy.state registration checkpoint material state
  | .advanceCheckpoint policy checkpoint material =>
    Plan.map .acknowledgement <$>
      advanceCheckpointPlan context.identity context.wallTimeMs policy.state checkpoint material state
  | .cancel policy request cancellation =>
    Plan.map .cancellation <$>
      cancelPlan context.identity context.wallTimeMs policy.state request cancellation state
  | .reserve policy request manifest =>
    Plan.map .progress <$> reservePlan context.identity context.wallTimeMs policy.state request manifest state
  | .decide policy request manifest approvals =>
    Plan.map .progress <$>
      decidePlan context.identity context.wallTimeMs policy.state request manifest approvals state

theorem execute_map {α β : Type} (context : EngineContext) (state : PersistedWitnessState) (f : α → β)
    (plan : Plan α) : f <$> plan.execute context state = (plan.map f).execute context state := by
  cases plan with
  | answer reply => rfl
  | write logical reply => simp only [Plan.map, Plan.execute, map_bind, check_map]

theorem perform_map {α β : Type} (context : EngineContext) (planner : PersistedWitnessState → Drawing (Plan α))
    (f : α → β) : f <$> perform context planner = perform context fun state => Plan.map f <$> planner state := by
  simp only [perform, map_bind, execute_map, Drawing.value_map, check_map, bind_map_left]

-- Every operation has the frame around its plan, behind its own first check.
theorem run_eq (context : EngineContext) (operation : Operation) :
    operation.run context = (do check operation.precheck; perform context (operation.planner context)) := by
  cases operation with
  | checkReady => exact perform_map context _ _
  | operationalStatus => exact perform_map context _ _
  | compactReplay => exact perform_map context _ _
  | registerVault policy registration checkpoint material =>
    simp only [run, WitnessEngine.registerVault, map_bind, perform_map]
    rfl
  | advanceCheckpoint policy checkpoint material =>
    simp only [run, WitnessEngine.advanceCheckpoint, map_bind, perform_map]
    rfl
  | cancel policy request cancellation => exact perform_map context _ _
  | reserve policy request manifest => exact perform_map context _ _
  | decide policy request manifest approvals =>
    simp only [run, WitnessEngine.decide, map_bind, perform_map]
    rfl

end Operation

def World.serve (world : World) (call : Call) : Except WitnessEngineError Reply × World :=
  match call.operation.run call.context { world with faults := call.context.faults } with
  | .ok reply next => (.ok reply, next)
  | .error error next => (.error error, next)

def engine : Machine World Call (Except WitnessEngineError Reply) := ⟨World.serve⟩

abbrev EngineEvent := Event World Call (Except WitnessEngineError Reply)

def responseOf (event : EngineEvent) : Option WitnessResponseV1 :=
  match event.output with
  | .ok reply => reply.response?
  | .error _ => none

theorem responseOf_eq_some :
    responseOf event = some response ↔ ∃ reply, event.output = .ok reply ∧ reply.response? = some response := by
  unfold responseOf
  cases event.output <;> simp

def unsigned (_ : WitnessStateAnchorV1) : Prop := True

theorem signs_unsigned (identity : WitnessEngineIdentity) : Signs identity unsigned := fun _ _ _ _ => trivial

section Serve

variable {world : World} {call : Call}

section Signed

variable (hsigns : Signs call.context.identity signed)

include hsigns

theorem serve_final (world : World) :
    Performed signed call.context (call.operation.planner call.context) world (world.serve call).2 := by
  have hbegin : world.Agrees { world with faults := call.context.faults } := ⟨rfl, rfl, rfl, rfl⟩
  have hserve : (world.serve call).2 =
      finalState (call.operation.run call.context { world with faults := call.context.faults }) := by
    unfold World.serve
    cases call.operation.run call.context { world with faults := call.context.faults } <;> rfl
  rw [hserve, Operation.run_eq]
  refine Performed.agrees hbegin ?_
  refine final_bind_of (fun _ _ h => ?_) fun _ _ h => ?_
  · obtain ⟨-, rfl⟩ := check_eq_error.mp h
    exact .kept (.refl _)
  · obtain ⟨-, rfl⟩ := check_eq_ok.mp h
    exact perform_final hsigns _ _

theorem serve_ok (h : world.serve call = (.ok reply, next)) :
    call.operation.precheck = .ok () ∧
      Answered signed call.context (call.operation.planner call.context) world reply next := by
  have hbegin : world.Agrees { world with faults := call.context.faults } := ⟨rfl, rfl, rfl, rfl⟩
  have hrun : call.operation.run call.context { world with faults := call.context.faults } = .ok reply next := by
    unfold World.serve at h
    split at h <;> simp_all
  rw [Operation.run_eq] at hrun
  obtain ⟨_, _, hcheck, hperform⟩ := state_bind_eq_ok.mp hrun
  obtain ⟨hprecheck, rfl⟩ := check_eq_ok.mp hcheck
  exact ⟨hprecheck, (perform_ok hsigns hperform).agrees hbegin⟩

theorem serve_steps (world : World) :
    (world.serve call).2.witnessId = world.witnessId ∧
      (protocol signed world.witnessId).Steps world.pair (world.serve call).2.pair :=
  (serve_final hsigns world).steps

end Signed

theorem final_coherent {signed : WitnessStateAnchorV1 → Prop} (witnessId : PrincipalId) {calls : List Call}
    (hsigns : ∀ call ∈ calls, Signs call.context.identity signed) :
    (engine.final (World.initial witnessId) calls).witnessId = witnessId ∧
      (protocol signed witnessId).Coherent (engine.final (World.initial witnessId) calls).pair := by
  refine Machine.final_preserves
    (P := fun world : World => world.witnessId = witnessId ∧ (protocol signed witnessId).Coherent world.pair) ⟨rfl, ?_⟩ ?_
  · exact Protocol.initial_coherent _ rfl
  · rintro world call hcall ⟨rfl, hcoh⟩
    obtain ⟨hwitness, hsteps⟩ := serve_steps (hsigns call hcall) world
    exact ⟨hwitness, hsteps.coherent hcoh⟩

end Serve

end Jury.Engine

-- A witness to run the engine on.
namespace Jury.Engine.Sample

open Lib Protocol.Witness Protocol.Sample Policy.Sample

def witness (byte : UInt8) : WitnessEngineIdentity where
  principalId := identifier .principal byte
  publicDescriptor := some (descriptor .witness byte)
  signWitnessStatement message := some (sign (verificationKey byte) message)
  sealWitnessContribution _ capsule target _ := some {
    schema := 1
    responseId := target.responseId
    shareIndex := capsule.shareIndex
    shareCommitment := capsule.shareCommitment
    capsuleContextDigest := capsule.contextDigest
    capsuleSetDigest := target.capsuleSetDigest
    requestSessionKeyFingerprint := target.sessionFingerprint
    encapsulation := FixedBytes.replicate 1120 1
    ciphertext := FixedBytes.replicate 49 1 }

def call (wallTimeMs : UInt64) (operation : Operation) (faults : List Fault) : Call where
  context := {
    identity := witness 5
    wallTimeMs
    faults
    entropy := [some (FixedBytes.replicate 32 (UInt8.ofNat wallTimeMs.toNat))] }
  operation

def registration : RegistrationBytes := ⟨u8 1, by decide⟩

def material : PolicyMaterialBytes := ⟨u8 1, by decide⟩

def registering : Call := call 10000 (.registerVault policy registration checkpoint material) []

def reserving (wallTimeMs : UInt64) (signer : UInt8) (manifest : ActionManifestV1) : Call :=
  call wallTimeMs (.reserve policy (request signer manifest) manifest) []

def deciding (wallTimeMs : UInt64) (manifest : ActionManifestV1) (approvals : List ApprovalDecisionV1) : Call :=
  call wallTimeMs (.decide policy (request 1 manifest) manifest approvals) []

def home : World := World.initial (identifier .principal 5)

def repeated : List Call :=
  let manifest := manifest 1 10000 20000
  [registering, reserving 10001 1 manifest, deciding 10003 manifest [approval 3 1 manifest .approve 15000],
    deciding 30000 manifest []]

def shown (event : EngineEvent) : UInt64 × Option WitnessRequestV1 × Option WitnessDecisionKindV1 :=
  (event.input.context.wallTimeMs, event.input.operation.request?, (responseOf event).map (·.decision.decision))

end Jury.Engine.Sample
