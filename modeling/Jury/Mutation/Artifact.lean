import Jury.LocalState.Candidate
import Jury.Mutation.AuthorityTransition

-- The complete validation of a vault file that mutations and imports run on what they start from and on
-- what they lead to.
namespace Jury.Mutation

open Lib Protocol Vault Policy LocalState

def isCapacity : FormatError → Bool
  | .artifactTooLarge | .capacityExhausted _ => true
  | _ => false

def mapCurrentFormatError (error : FormatError) : MutationErrorKind :=
  if isCapacity error then .capacityExhausted else .invalidCurrentState

def mapTargetFormatError (error : FormatError) : MutationErrorKind :=
  if isCapacity error then .capacityExhausted else .invalidPlan

def mapReplayError (kind : PolicyErrorKind) (current : Bool) : MutationErrorKind :=
  match kind, current with
  | .capacityExhausted, _ => .capacityExhausted
  | .unauthorized, false | .invalidRole, false => .unauthorized
  | _, true => .invalidCurrentState
  | _, false => .invalidPlan

variable [Crypto]

def validateComplete (vault : VaultFileV1) (witnessPolicies : List WitnessPolicy) (current : Bool) :
    Except MutationErrorKind PolicyState := do
  vault.validate.mapError fun error => if current then mapCurrentFormatError error else mapTargetFormatError error
  let policy ← (replayPolicyWithWitnessPolicies vault.policy witnessPolicies).mapError fun kind =>
    mapReplayError kind current
  let _ ← (CheckpointCandidate.fromValidated policy vault.policy vault.items).mapError fun _ =>
    if current then MutationErrorKind.invalidCurrentState else .invalidPlan
  return policy

structure ValidatedComplete (vault : VaultFileV1) (witnessPolicies : List WitnessPolicy) (policy : PolicyState) :
    Prop where
  format : vault.validate = .ok ()
  replayed : replayPolicyWithWitnessPolicies vault.policy witnessPolicies = .ok policy
  candidate : ∃ candidate, CheckpointCandidate.fromValidated policy vault.policy vault.items = .ok candidate

theorem validateComplete_eq_ok :
    validateComplete vault witnessPolicies current = .ok policy ↔ ValidatedComplete vault witnessPolicies policy := by
  simp only [validateComplete, eq_ok]
  constructor
  · rintro ⟨_, hformat, replayed, hreplayed, candidate, hcand, rfl⟩
    exact ⟨hformat, hreplayed, candidate, hcand⟩
  · rintro ⟨hformat, hreplayed, candidate, hcand⟩
    exact ⟨(), hformat, policy, hreplayed, candidate, hcand, rfl⟩

end Jury.Mutation
