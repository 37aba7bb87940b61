import Jury.Engine.Types
import Jury.Protocol.Witness.Json

-- The text that the database keeps of a state, and its limit.
namespace Jury.Engine

open Lib Protocol Witness

def MAX_PERSISTED_WITNESS_STATE_BYTES : Nat := 64 * 1024 * 1024

def boundedJsonSize {max : Nat} (bytes : BoundedBytes max) : Nat := fixedJsonSize bytes.asBytes.length

def RegisteredWitnessVault.jsonSize (vault : RegisteredWitnessVault) : Nat :=
  sequenceJsonSize [
    fieldJsonSize 21 (boundedJsonSize vault.acceptedRegistration),  -- accepted_registration
    fieldJsonSize 18 vault.currentCheckpoint.jsonSize,  -- current_checkpoint
    fieldJsonSize 23 (boundedJsonSize vault.currentPolicyMaterial)]  -- current_policy_material

def WitnessReplayEntry.jsonSize (entry : WitnessReplayEntry) : Nat :=
  sequenceJsonSize [
    fieldJsonSize 7 entry.request.jsonSize,  -- request
    fieldJsonSize 22 (fixedJsonSize 32),  -- action_manifest_digest
    fieldJsonSize 5 (nameJsonSize entry.state.nameLength),  -- state
    fieldJsonSize 17 (u64JsonSize entry.retainThroughMs),  -- retain_through_ms
    fieldJsonSize 9 (sequenceJsonSize (entry.approvals.map (·.jsonSize))),  -- approvals
    fieldJsonSize 12 (optionJsonSize (entry.cancellation.map boundedJsonSize)),  -- cancellation
    fieldJsonSize 8 (optionJsonSize (entry.response.map (·.jsonSize)))]  -- response

-- Vaults are an object with their identifiers as names; replay records are a list, each with its key in
-- its request.
def WitnessLogicalState.jsonSize (logical : WitnessLogicalState) : Nat :=
  sequenceJsonSize [
    fieldJsonSize 10 identifierJsonSize,  -- witness_id
    fieldJsonSize 16 (u64JsonSize logical.stateGeneration),  -- state_generation
    -- vaults
    fieldJsonSize 6 (sequenceJsonSize (logical.vaults.toList.map fun record => identifierJsonSize + 1 + record.2.jsonSize)),
    fieldJsonSize 6 (sequenceJsonSize (logical.replay.toList.map fun record => record.2.jsonSize)),  -- replay
    fieldJsonSize 26 (u64JsonSize logical.lastAcceptedWallTimeMs)]  -- last_accepted_wall_time_ms

def PersistedWitnessState.jsonSize (state : PersistedWitnessState) : Nat :=
  sequenceJsonSize [
    fieldJsonSize 7 state.logical.jsonSize,  -- logical
    fieldJsonSize 16 (optionJsonSize (state.publishedAnchor.map (·.jsonSize))),  -- published_anchor
    fieldJsonSize 14 (optionJsonSize (state.pendingAnchor.map (·.jsonSize)))]  -- pending_anchor

def encodePersistedState (state : PersistedWitnessState) : Except StorageErrorKind Unit := do
  rejectIf
    (decide (state.logical.replay.size > MAX_REPLAY_RECORDS_PER_SERVICE)
      || state.logical.replay.toList.any fun record => record.1 != requestKey record.2.request)
    .unavailable
  rejectIf (decide (state.jsonSize > MAX_PERSISTED_WITNESS_STATE_BYTES)) .capacityExhausted

-- The keys of the replay records and their number are as the text needs them.
structure WitnessLogicalState.Listable (logical : WitnessLogicalState) : Prop where
  size : logical.replay.size ≤ MAX_REPLAY_RECORDS_PER_SERVICE
  keyed : ∀ record ∈ logical.replay.toList, record.1 = requestKey record.2.request

theorem encodePersistedState_eq_ok :
    encodePersistedState state = .ok u ↔
      state.logical.Listable ∧ state.jsonSize ≤ MAX_PERSISTED_WITNESS_STATE_BYTES := by
  simp only [encodePersistedState, eq_ok, passed, not_lt, List.any_eq_false, bne_iff_ne, ne_eq, not_not]
  constructor
  · rintro ⟨_, ⟨hsize, hkeyed⟩, hlen⟩
    exact ⟨⟨hsize, hkeyed⟩, hlen⟩
  · rintro ⟨hlistable, hlen⟩
    exact ⟨(), ⟨hlistable.size, hlistable.keyed⟩, hlen⟩

theorem PersistedWitnessState.jsonSize_published_le (logical : WitnessLogicalState)
    (published : Option WitnessStateAnchorV1) (candidate : WitnessStateAnchorV1) :
    jsonSize ⟨logical, some candidate, none⟩ ≤ jsonSize ⟨logical, published, some candidate⟩ := by
  have hpubd : 4 ≤ optionJsonSize (published.map (·.jsonSize)) := by
    cases published with
    | none => exact le_rfl
    | some anchor =>
      simp only [Option.map_some, optionJsonSize, WitnessStateAnchorV1.jsonSize, sequenceJsonSize, List.length_cons,
        List.length_nil]
      omega
  simp only [jsonSize, sequenceJsonSize, fieldJsonSize, Option.map_some, Option.map_none, optionJsonSize, List.sum_cons,
    List.sum_nil, List.length_cons, List.length_nil] at hpubd ⊢
  omega

end Jury.Engine
