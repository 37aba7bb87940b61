import Jury.Protocol.Witness.State

-- How long the JSON text of a message is. Storages keep and services exchange JSON, each up to a limit
-- on its length. The texts are written without spaces, and nothing in them has to be escaped. A name
-- counts with its length, in kebab case where it is a value; the name of a field stands next to it.
namespace Jury.Protocol.Vault

def ItemAccessMode.nameLength : ItemAccessMode → Nat
  | .directOnly => 11
  | .witnessedOnly => 14
  | .mixed => 5

def ContentRole.nameLength : ContentRole → Nat
  | .descriptor => 10
  | .body => 4

def AccessRole.nameLength : AccessRole → Nat
  | .reader => 6
  | .writer => 6
  | .owner => 5

end Jury.Protocol.Vault

namespace Jury.Protocol.Witness

open Protocol

def MAX_ANCHOR_HTTP_BYTES : Nat := 1024 * 1024

def decimalSize (value : Nat) : Nat → Nat
  | 0 => 1
  | fuel + 1 => if value < 10 then 1 else decimalSize (value / 10) fuel + 1

def u8JsonSize (value : UInt8) : Nat := decimalSize value.toNat 20

def u16JsonSize (value : UInt16) : Nat := decimalSize value.toNat 20

def u64JsonSize (value : UInt64) : Nat := decimalSize value.toNat 20

-- Identifiers are written in hexadecimal, other byte strings in base 64, both between quotes.
def identifierJsonSize : Nat := 2 * 32 + 2

def fixedJsonSize (length : Nat) : Nat := 4 * ((length + 2) / 3) + 2

def nameJsonSize (nameLength : Nat) : Nat := nameLength + 2

def fieldJsonSize (nameLength size : Nat) : Nat := nameLength + 3 + size

-- Brackets around the elements and commas between them, for objects and for lists.
def sequenceJsonSize (elements : List Nat) : Nat := 2 + elements.sum + (elements.length - 1)

def optionJsonSize : Option Nat → Nat
  | none => 4
  | some size => size

def WitnessOperationV1.nameLength : WitnessOperationV1 → Nat
  | .readStdout => 11
  | .writePrivateFile => 18
  | .templateInjection => 18
  | .childEnvironment => 17
  | .childStdin => 11
  | .itemMutation => 13
  | .backup => 6
  | .recovery => 8
  | .administrativeRekey => 20

def ApprovalModeV1.nameLength : ApprovalModeV1 → Nat
  | .human => 5
  | .automatic => 9

def ApprovalDecisionKindV1.nameLength : ApprovalDecisionKindV1 → Nat
  | .approve => 7
  | .deny => 4

def WitnessDecisionKindV1.nameLength : WitnessDecisionKindV1 → Nat
  | .approve => 7
  | .deny => 4
  | .error => 5

def WitnessReasonV1.nameLength : WitnessReasonV1 → Nat
  | .none => 4
  | .policyDenied => 13
  | .missingApproval => 16
  | .approvalDenied => 15
  | .approvalConflict => 17
  | .stalePolicy => 12
  | .witnessBehind => 14
  | .checkpointFork => 15
  | .replayConflict => 15
  | .expired => 7
  | .notYetValid => 13
  | .cancelled => 9
  | .wrongScope => 11
  | .wrongOperation => 15
  | .workloadExceeded => 17
  | .directDowngrade => 16
  | .invalid => 7
  | .unsupportedVersion => 19
  | .invalidSignature => 17
  | .invalidContribution => 20
  | .insufficientQuorum => 19
  | .unavailable => 11
  | .unsafeClock => 12
  | .anchorConflict => 15
  | .capacityExhausted => 18
  | .restoredStateUnsafe => 21
  | .internalFailure => 16
  | .cancellationTooLate => 21

def ReplayStateV1.nameLength : ReplayStateV1 → Nat
  | .reserved => 8
  | .approved => 8
  | .denied => 6
  | .cancelled => 9

def IntendedWitnessV1.jsonSize (witness : IntendedWitnessV1) : Nat :=
  sequenceJsonSize [
    fieldJsonSize 10 identifierJsonSize,  -- witness_id
    fieldJsonSize 11 (u8JsonSize witness.shareIndex),  -- share_index
    fieldJsonSize 23 (fixedJsonSize 32),  -- signing_key_fingerprint
    fieldJsonSize 28 (fixedJsonSize 32)]  -- contribution_key_fingerprint

def WitnessRequestV1.jsonSize (request : WitnessRequestV1) : Nat :=
  sequenceJsonSize [
    fieldJsonSize 6 (u16JsonSize request.schema),  -- schema
    fieldJsonSize 16 (u16JsonSize request.protocolVersion),  -- protocol_version
    fieldJsonSize 12 (u16JsonSize request.construction),  -- construction
    fieldJsonSize 10 identifierJsonSize,  -- request_id
    fieldJsonSize 12 identifierJsonSize,  -- client_nonce
    fieldJsonSize 8 identifierJsonSize,  -- vault_id
    fieldJsonSize 19 (fixedJsonSize 32),  -- genesis_fingerprint
    fieldJsonSize 7 identifierJsonSize,  -- item_id
    fieldJsonSize 9 (u64JsonSize request.keyEpoch),  -- key_epoch
    fieldJsonSize 16 (nameJsonSize request.itemAccessMode.nameLength),  -- item_access_mode
    fieldJsonSize 7 identifierJsonSize,  -- slot_id
    fieldJsonSize 12 (nameJsonSize request.contentRole.nameLength),  -- content_role
    fieldJsonSize 8 (u64JsonSize request.revision),  -- revision
    fieldJsonSize 16 identifierJsonSize,  -- revision_seal_id
    fieldJsonSize 21 (u64JsonSize request.vaultPolicySequence),  -- vault_policy_sequence
    fieldJsonSize 17 (fixedJsonSize 32),  -- vault_policy_hash
    fieldJsonSize 24 (fixedJsonSize 32),  -- policy_checkpoint_digest
    fieldJsonSize 17 identifierJsonSize,  -- witness_policy_id
    fieldJsonSize 23 (u64JsonSize request.witnessPolicyRevision),  -- witness_policy_revision
    fieldJsonSize 21 (fixedJsonSize 32),  -- witness_policy_digest
    fieldJsonSize 22 identifierJsonSize,  -- requester_principal_id
    fieldJsonSize 33 (fixedJsonSize 32),  -- requester_signing_key_fingerprint
    fieldJsonSize 27 (u64JsonSize request.requesterSigningKeyEpoch),  -- requester_signing_key_epoch
    fieldJsonSize 21 (nameJsonSize request.requestedAccessRole.nameLength),  -- requested_access_role
    fieldJsonSize 9 (nameJsonSize request.operation.nameLength),  -- operation
    fieldJsonSize 22 (fixedJsonSize 32),  -- approval_target_digest
    fieldJsonSize 22 (fixedJsonSize 32),  -- action_manifest_digest
    fieldJsonSize 15 (fixedJsonSize 32),  -- workload_digest
    fieldJsonSize 12 (u64JsonSize request.issuedAtMs),  -- issued_at_ms
    fieldJsonSize 13 (optionJsonSize (request.notBeforeMs.map u64JsonSize)),  -- not_before_ms
    fieldJsonSize 13 (u64JsonSize request.expiresAtMs),  -- expires_at_ms
    fieldJsonSize 26 (fixedJsonSize 1216),  -- request_session_public_key
    fieldJsonSize 31 (fixedJsonSize 32),  -- request_session_key_fingerprint
    fieldJsonSize 20 (sequenceJsonSize (request.intendedWitnessSet.map (·.jsonSize))),  -- intended_witness_set
    fieldJsonSize 16 (fixedJsonSize 64)]  -- client_signature

def ApprovalDecisionV1.jsonSize (approval : ApprovalDecisionV1) : Nat :=
  sequenceJsonSize [
    fieldJsonSize 6 (u16JsonSize approval.schema),  -- schema
    fieldJsonSize 11 identifierJsonSize,  -- approval_id
    fieldJsonSize 10 identifierJsonSize,  -- request_id
    fieldJsonSize 14 (fixedJsonSize 32),  -- request_digest
    fieldJsonSize 22 (fixedJsonSize 32),  -- action_manifest_digest
    fieldJsonSize 19 (fixedJsonSize 32),  -- presentation_digest
    fieldJsonSize 17 identifierJsonSize,  -- witness_policy_id
    fieldJsonSize 23 (u64JsonSize approval.witnessPolicyRevision),  -- witness_policy_revision
    fieldJsonSize 21 (fixedJsonSize 32),  -- witness_policy_digest
    fieldJsonSize 11 identifierJsonSize,  -- approver_id
    fieldJsonSize 24 (fixedJsonSize 32),  -- approver_key_fingerprint
    fieldJsonSize 18 (u64JsonSize approval.approverKeyEpoch),  -- approver_key_epoch
    fieldJsonSize 13 (nameJsonSize approval.approvalMode.nameLength),  -- approval_mode
    fieldJsonSize 8 (nameJsonSize approval.decision.nameLength),  -- decision
    fieldJsonSize 6 (nameJsonSize approval.reason.nameLength),  -- reason
    fieldJsonSize 12 (u64JsonSize approval.issuedAtMs),  -- issued_at_ms
    fieldJsonSize 13 (optionJsonSize (approval.notBeforeMs.map u64JsonSize)),  -- not_before_ms
    fieldJsonSize 13 (u64JsonSize approval.expiresAtMs),  -- expires_at_ms
    fieldJsonSize 5 identifierJsonSize,  -- nonce
    fieldJsonSize 27 (fixedJsonSize 32),  -- intended_witness_set_digest
    fieldJsonSize 9 (fixedJsonSize 64)]  -- signature

def WitnessContributionEnvelopeV1.jsonSize (contribution : WitnessContributionEnvelopeV1) : Nat :=
  sequenceJsonSize [
    fieldJsonSize 6 (u16JsonSize contribution.schema),  -- schema
    fieldJsonSize 11 identifierJsonSize,  -- response_id
    fieldJsonSize 11 (u8JsonSize contribution.shareIndex),  -- share_index
    fieldJsonSize 16 (fixedJsonSize 32),  -- share_commitment
    fieldJsonSize 22 (fixedJsonSize 32),  -- capsule_context_digest
    fieldJsonSize 18 (fixedJsonSize 32),  -- capsule_set_digest
    fieldJsonSize 31 (fixedJsonSize 32),  -- request_session_key_fingerprint
    fieldJsonSize 13 (fixedJsonSize 1120),  -- encapsulation
    fieldJsonSize 10 (fixedJsonSize 49)]  -- ciphertext

def WitnessDecisionV1.jsonSize (decision : WitnessDecisionV1) : Nat :=
  sequenceJsonSize [
    fieldJsonSize 6 (u16JsonSize decision.schema),  -- schema
    fieldJsonSize 11 identifierJsonSize,  -- response_id
    fieldJsonSize 10 identifierJsonSize,  -- request_id
    fieldJsonSize 14 (fixedJsonSize 32),  -- request_digest
    fieldJsonSize 22 (fixedJsonSize 32),  -- action_manifest_digest
    fieldJsonSize 10 identifierJsonSize,  -- witness_id
    fieldJsonSize 31 (fixedJsonSize 32),  -- witness_signing_key_fingerprint
    fieldJsonSize 25 (u64JsonSize decision.witnessSigningKeyEpoch),  -- witness_signing_key_epoch
    fieldJsonSize 17 identifierJsonSize,  -- witness_policy_id
    fieldJsonSize 23 (u64JsonSize decision.witnessPolicyRevision),  -- witness_policy_revision
    fieldJsonSize 21 (fixedJsonSize 32),  -- witness_policy_digest
    fieldJsonSize 24 (fixedJsonSize 32),  -- policy_checkpoint_digest
    fieldJsonSize 16 (u64JsonSize decision.stateGeneration),  -- state_generation
    fieldJsonSize 8 (nameJsonSize decision.decision.nameLength),  -- decision
    fieldJsonSize 6 (nameJsonSize decision.reason.nameLength),  -- reason
    fieldJsonSize 12 (u64JsonSize decision.issuedAtMs),  -- issued_at_ms
    fieldJsonSize 13 (u64JsonSize decision.expiresAtMs),  -- expires_at_ms
    -- contribution_digest
    fieldJsonSize 19 (optionJsonSize (decision.contributionDigest.map fun _ => fixedJsonSize 32)),
    fieldJsonSize 11 (optionJsonSize (decision.shareIndex.map u8JsonSize)),  -- share_index
    -- share_commitment
    fieldJsonSize 16 (optionJsonSize (decision.shareCommitment.map fun _ => fixedJsonSize 32)),
    fieldJsonSize 9 (fixedJsonSize 64)]  -- signature

def WitnessResponseV1.jsonSize (response : WitnessResponseV1) : Nat :=
  sequenceJsonSize [
    fieldJsonSize 8 response.decision.jsonSize,  -- decision
    fieldJsonSize 12 (optionJsonSize (response.contribution.map (·.jsonSize)))]  -- contribution

def VaultPolicyCheckpointV1.jsonSize (checkpoint : VaultPolicyCheckpointV1) : Nat :=
  sequenceJsonSize [
    fieldJsonSize 6 (u16JsonSize checkpoint.schema),  -- schema
    fieldJsonSize 8 identifierJsonSize,  -- vault_id
    fieldJsonSize 19 (fixedJsonSize 32),  -- genesis_fingerprint
    fieldJsonSize 21 (u64JsonSize checkpoint.vaultPolicySequence),  -- vault_policy_sequence
    fieldJsonSize 17 (fixedJsonSize 32),  -- vault_policy_hash
    fieldJsonSize 32 (fixedJsonSize 32),  -- active_witness_policy_set_digest
    fieldJsonSize 29 (fixedJsonSize 32),  -- predecessor_checkpoint_digest
    fieldJsonSize 12 (u64JsonSize checkpoint.issuedAtMs),  -- issued_at_ms
    fieldJsonSize 15 identifierJsonSize,  -- issuer_owner_id
    fieldJsonSize 22 (fixedJsonSize 32),  -- issuer_key_fingerprint
    fieldJsonSize 16 (u64JsonSize checkpoint.issuerKeyEpoch),  -- issuer_key_epoch
    fieldJsonSize 9 (fixedJsonSize 64)]  -- signature

def VaultHighWatermarkV1.jsonSize (watermark : VaultHighWatermarkV1) : Nat :=
  sequenceJsonSize [
    fieldJsonSize 8 identifierJsonSize,  -- vault_id
    fieldJsonSize 19 (fixedJsonSize 32),  -- genesis_fingerprint
    fieldJsonSize 15 (u64JsonSize watermark.policySequence),  -- policy_sequence
    fieldJsonSize 17 (fixedJsonSize 32),  -- checkpoint_digest
    -- highest_retained_request_expiry_ms
    fieldJsonSize 34 (u64JsonSize watermark.highestRetainedRequestExpiryMs)]

def WitnessStateAnchorV1.jsonSize (anchor : WitnessStateAnchorV1) : Nat :=
  sequenceJsonSize [
    fieldJsonSize 6 (u16JsonSize anchor.schema),  -- schema
    fieldJsonSize 10 identifierJsonSize,  -- witness_id
    fieldJsonSize 31 (fixedJsonSize 32),  -- witness_signing_key_fingerprint
    fieldJsonSize 25 (u64JsonSize anchor.witnessSigningKeyEpoch),  -- witness_signing_key_epoch
    fieldJsonSize 16 (u64JsonSize anchor.stateGeneration),  -- state_generation
    fieldJsonSize 21 (fixedJsonSize 32),  -- database_state_digest
    fieldJsonSize 21 (sequenceJsonSize (anchor.vaultHighWatermarks.map (·.jsonSize))),  -- vault_high_watermarks
    fieldJsonSize 24 (u64JsonSize anchor.replayRetainThroughMs),  -- replay_retain_through_ms
    fieldJsonSize 26 (u64JsonSize anchor.lastAcceptedWallTimeMs),  -- last_accepted_wall_time_ms
    fieldJsonSize 25 (fixedJsonSize 32),  -- predecessor_anchor_digest
    fieldJsonSize 12 (u64JsonSize anchor.issuedAtMs),  -- issued_at_ms
    fieldJsonSize 9 (fixedJsonSize 64)]  -- signature

inductive AnchorCasOutcome where
  | applied
  | conflict
deriving DecidableEq

structure AnchorCasRequest where
  expectedAnchorDigest : Option Digest32
  nextExactAnchor : WitnessStateAnchorV1

structure AnchorCasResponse where
  outcome : AnchorCasOutcome
  exactAnchor : Option WitnessStateAnchorV1

def AnchorCasRequest.jsonSize (request : AnchorCasRequest) : Nat :=
  sequenceJsonSize [
    -- expected_anchor_digest
    fieldJsonSize 22 (optionJsonSize (request.expectedAnchorDigest.map fun _ => fixedJsonSize 32)),
    fieldJsonSize 17 request.nextExactAnchor.jsonSize]  -- next_exact_anchor

def AnchorCasOutcome.nameLength : AnchorCasOutcome → Nat
  | .applied => 7
  | .conflict => 8

def AnchorCasResponse.jsonSize (response : AnchorCasResponse) : Nat :=
  sequenceJsonSize [
    fieldJsonSize 7 (nameJsonSize response.outcome.nameLength),  -- outcome
    fieldJsonSize 12 (optionJsonSize (response.exactAnchor.map (·.jsonSize)))]  -- exact_anchor

theorem AnchorCasRequest.jsonSize_le (expected : Option Digest32) (digest : Digest32) (anchor : WitnessStateAnchorV1) :
    (AnchorCasRequest.mk expected anchor).jsonSize ≤ (AnchorCasRequest.mk (some digest) anchor).jsonSize := by
  cases expected with
  | some => exact le_rfl
  | none => simp [AnchorCasRequest.jsonSize, sequenceJsonSize, fieldJsonSize, optionJsonSize, fixedJsonSize]

theorem WitnessStateAnchorV1.jsonSize_le_response (anchor : WitnessStateAnchorV1) :
    anchor.jsonSize ≤ (AnchorCasResponse.mk .applied (some anchor)).jsonSize := by
  simp only [AnchorCasResponse.jsonSize, sequenceJsonSize, fieldJsonSize, optionJsonSize, Option.map_some, List.sum_cons,
    List.sum_nil]
  omega

end Jury.Protocol.Witness
