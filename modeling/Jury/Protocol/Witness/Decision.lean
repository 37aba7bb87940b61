import Jury.Protocol.Witness.Request

-- Approvals, cancellations, checkpoints and the witness's own signed decision.
namespace Jury.Protocol.Witness

open Lib Protocol Vault

structure ApprovalDecisionV1 where
  schema : UInt16
  approvalId : ApprovalId
  requestId : RequestId
  requestDigest : Digest32
  actionManifestDigest : Digest32
  presentationDigest : Digest32
  witnessPolicyId : WitnessPolicyId
  witnessPolicyRevision : UInt64
  witnessPolicyDigest : Digest32
  approverId : PrincipalId
  approverKeyFingerprint : Digest32
  approverKeyEpoch : UInt64
  approvalMode : ApprovalModeV1
  decision : ApprovalDecisionKindV1
  reason : WitnessReasonV1
  issuedAtMs : UInt64
  notBeforeMs : Option UInt64
  expiresAtMs : UInt64
  nonce : ApprovalId
  intendedWitnessSetDigest : Digest32
  signature : Signature64
deriving DecidableEq

namespace ApprovalDecisionV1

def fields (approval : ApprovalDecisionV1) : Bytes :=
  u16be approval.schema ++
  (approval.approvalId.asBytes.bytes ++
  (approval.requestId.asBytes.bytes ++
  (approval.requestDigest.bytes ++
  (approval.actionManifestDigest.bytes ++
  (approval.presentationDigest.bytes ++
  (approval.witnessPolicyId.asBytes.bytes ++
  (u64be approval.witnessPolicyRevision ++
  (approval.witnessPolicyDigest.bytes ++
  (approval.approverId.asBytes.bytes ++
  (approval.approverKeyFingerprint.bytes ++
  (u64be approval.approverKeyEpoch ++
  (octets [approval.approvalMode.tag, approval.decision.tag, approval.reason.tag] ++
  (u64be approval.issuedAtMs ++
  (optionalU64 approval.notBeforeMs ++
  (u64be approval.expiresAtMs ++
  (approval.nonce.asBytes.bytes ++
  approval.intendedWitnessSetDigest.bytes))))))))))))))))

def reasonValid (approval : ApprovalDecisionV1) : Bool :=
  match approval.decision with
  | .approve => approval.reason == .none
  | .deny => approval.reason != .none

def validateShape (approval : ApprovalDecisionV1) : Except WitnessProtocolErrorKind Unit :=
  rejectIf
    (approval.schema != 1
      || approval.witnessPolicyRevision == 0
      || approval.approverKeyEpoch == 0
      || !approval.reasonValid
      || !validInterval approval.issuedAtMs approval.notBeforeMs approval.expiresAtMs)
    .invalidFormat

def signaturePreimage (approval : ApprovalDecisionV1) : Except WitnessProtocolErrorKind Bytes :=
  signedPreimage approval.validateShape "jury-witness-v1/approval-decision/signature" (.ok approval.fields)

def canonicalBytes (approval : ApprovalDecisionV1) : Except WitnessProtocolErrorKind Bytes :=
  atMost MAX_APPROVAL_BYTES (signedBytes approval.validateShape (.ok approval.fields) approval.signature)

end ApprovalDecisionV1

inductive CancellerRoleV1 where
  | originalRequester
  | currentOwner
deriving DecidableEq

def CancellerRoleV1.tag : CancellerRoleV1 → UInt8
  | originalRequester => 1
  | currentOwner => 2

structure RequestCancellationV1 where
  schema : UInt16
  cancellationId : CancellationId
  requestSignaturePreimage : RequestBytes
  clientSignature : Signature64
  requestId : RequestId
  requestDigest : Digest32
  cancellerId : PrincipalId
  cancellerKeyFingerprint : Digest32
  cancellerKeyEpoch : UInt64
  cancellerRole : CancellerRoleV1
  issuedAtMs : UInt64
  reason : WitnessReasonV1
  nonce : CancellationId
  signature : Signature64
deriving DecidableEq

namespace RequestCancellationV1

def fields (cancellation : RequestCancellationV1) : Except WitnessProtocolErrorKind Bytes := do
  let preimage ← orReject (bytesField cancellation.requestSignaturePreimage.asBytes) .capacityExhausted
  return u16be cancellation.schema ++
    (cancellation.cancellationId.asBytes.bytes ++
    (preimage ++
    (cancellation.clientSignature.bytes ++
    (cancellation.requestId.asBytes.bytes ++
    (cancellation.requestDigest.bytes ++
    (cancellation.cancellerId.asBytes.bytes ++
    (cancellation.cancellerKeyFingerprint.bytes ++
    (u64be cancellation.cancellerKeyEpoch ++
    (octets [cancellation.cancellerRole.tag] ++
    (u64be cancellation.issuedAtMs ++
    (octets [cancellation.reason.tag] ++
    cancellation.nonce.asBytes.bytes)))))))))))

def validateShape (cancellation : RequestCancellationV1) : Except WitnessProtocolErrorKind Unit :=
  rejectIf
    (cancellation.schema != 1
      || cancellation.cancellerKeyEpoch == 0
      || cancellation.issuedAtMs == 0
      || cancellation.reason != .cancelled
      || cancellation.requestSignaturePreimage.asBytes.length == 0)
    .invalidFormat

def signaturePreimage (cancellation : RequestCancellationV1) : Except WitnessProtocolErrorKind Bytes :=
  signedPreimage cancellation.validateShape "jury-witness-v1/cancellation/signature" cancellation.fields

def canonicalBytes (cancellation : RequestCancellationV1) : Except WitnessProtocolErrorKind Bytes :=
  atMost (48 * 1024) (signedBytes cancellation.validateShape cancellation.fields cancellation.signature)

end RequestCancellationV1

structure VaultPolicyCheckpointV1 where
  schema : UInt16
  vaultId : VaultId
  genesisFingerprint : Digest32
  vaultPolicySequence : UInt64
  vaultPolicyHash : Digest32
  activeWitnessPolicySetDigest : Digest32
  predecessorCheckpointDigest : Digest32
  issuedAtMs : UInt64
  issuerOwnerId : PrincipalId
  issuerKeyFingerprint : Digest32
  issuerKeyEpoch : UInt64
  signature : Signature64
deriving DecidableEq

namespace VaultPolicyCheckpointV1

def fields (checkpoint : VaultPolicyCheckpointV1) : Bytes :=
  u16be checkpoint.schema ++
  (checkpoint.vaultId.asBytes.bytes ++
  (checkpoint.genesisFingerprint.bytes ++
  (u64be checkpoint.vaultPolicySequence ++
  (checkpoint.vaultPolicyHash.bytes ++
  (checkpoint.activeWitnessPolicySetDigest.bytes ++
  (checkpoint.predecessorCheckpointDigest.bytes ++
  (u64be checkpoint.issuedAtMs ++
  (checkpoint.issuerOwnerId.asBytes.bytes ++
  (checkpoint.issuerKeyFingerprint.bytes ++
  u64be checkpoint.issuerKeyEpoch)))))))))

def validateShape (checkpoint : VaultPolicyCheckpointV1) : Except WitnessProtocolErrorKind Unit :=
  rejectIf
    (checkpoint.schema != 1
      || checkpoint.vaultPolicySequence == 0
      || checkpoint.issuedAtMs == 0
      || checkpoint.issuerKeyEpoch == 0)
    .invalidFormat

def signaturePreimage (checkpoint : VaultPolicyCheckpointV1) : Except WitnessProtocolErrorKind Bytes :=
  signedPreimage checkpoint.validateShape "jury-witness-v1/checkpoint/signature" (.ok checkpoint.fields)

def canonicalBytes (checkpoint : VaultPolicyCheckpointV1) : Except WitnessProtocolErrorKind Bytes :=
  signedBytes checkpoint.validateShape (.ok checkpoint.fields) checkpoint.signature

variable [Crypto]

def digest (checkpoint : VaultPolicyCheckpointV1) : Except WitnessProtocolErrorKind Digest32 := do
  let preimage ← checkpoint.signaturePreimage
  hashSigned "jury-witness-v1/checkpoint/hash" preimage checkpoint.signature

end VaultPolicyCheckpointV1

structure WitnessContributionEnvelopeV1 where
  schema : UInt16
  responseId : ResponseId
  shareIndex : UInt8
  shareCommitment : Digest32
  capsuleContextDigest : Digest32
  capsuleSetDigest : Digest32
  requestSessionKeyFingerprint : Digest32
  encapsulation : Encapsulation1120
  ciphertext : ShareCiphertext49
deriving DecidableEq

namespace WitnessContributionEnvelopeV1

def canonicalBytes (contribution : WitnessContributionEnvelopeV1) : Bytes :=
  u16be contribution.schema ++
  (contribution.responseId.asBytes.bytes ++
  (octets [contribution.shareIndex] ++
  (contribution.shareCommitment.bytes ++
  (contribution.capsuleContextDigest.bytes ++
  (contribution.capsuleSetDigest.bytes ++
  (contribution.requestSessionKeyFingerprint.bytes ++
  (contribution.encapsulation.bytes ++
  contribution.ciphertext.bytes)))))))

variable [Crypto]

def digest (contribution : WitnessContributionEnvelopeV1) : Except WitnessProtocolErrorKind Digest32 := do
  rejectIf
    (contribution.schema != 1 || contribution.shareIndex == 0 || decide (contribution.shareIndex > 32))
    .invalidFormat
  hashBytes "jury-witness-v1/contribution/hash" contribution.canonicalBytes

end WitnessContributionEnvelopeV1

structure WitnessDecisionV1 where
  schema : UInt16
  responseId : ResponseId
  requestId : RequestId
  requestDigest : Digest32
  actionManifestDigest : Digest32
  witnessId : PrincipalId
  witnessSigningKeyFingerprint : Digest32
  witnessSigningKeyEpoch : UInt64
  witnessPolicyId : WitnessPolicyId
  witnessPolicyRevision : UInt64
  witnessPolicyDigest : Digest32
  policyCheckpointDigest : Digest32
  stateGeneration : UInt64
  decision : WitnessDecisionKindV1
  reason : WitnessReasonV1
  issuedAtMs : UInt64
  expiresAtMs : UInt64
  contributionDigest : Option Digest32
  shareIndex : Option UInt8
  shareCommitment : Option Digest32
  signature : Signature64
deriving DecidableEq

namespace WitnessDecisionV1

def fields (decision : WitnessDecisionV1) : Bytes :=
  u16be decision.schema ++
  (decision.responseId.asBytes.bytes ++
  (decision.requestId.asBytes.bytes ++
  (decision.requestDigest.bytes ++
  (decision.actionManifestDigest.bytes ++
  (decision.witnessId.asBytes.bytes ++
  (decision.witnessSigningKeyFingerprint.bytes ++
  (u64be decision.witnessSigningKeyEpoch ++
  (decision.witnessPolicyId.asBytes.bytes ++
  (u64be decision.witnessPolicyRevision ++
  (decision.witnessPolicyDigest.bytes ++
  (decision.policyCheckpointDigest.bytes ++
  (u64be decision.stateGeneration ++
  (octets [decision.decision.tag, decision.reason.tag] ++
  (u64be decision.issuedAtMs ++
  (u64be decision.expiresAtMs ++
  (optionalFixed (decision.contributionDigest.map (·.bytes)) ++
  (optionalU8 decision.shareIndex ++
  optionalFixed (decision.shareCommitment.map (·.bytes)))))))))))))))))))

def validateShape (decision : WitnessDecisionV1) : Except WitnessProtocolErrorKind Unit :=
  let approving := decision.decision == .approve
  let contribution :=
    decision.contributionDigest.isSome && decision.shareIndex.isSome && decision.shareCommitment.isSome
  rejectIf
    (decision.schema != 1
      || decision.witnessSigningKeyEpoch == 0
      || decision.witnessPolicyRevision == 0
      || decision.stateGeneration == 0
      || decision.issuedAtMs == 0
      || decision.expiresAtMs == 0
      || (approving && decide (decision.expiresAtMs ≤ decision.issuedAtMs))
      || approving != contribution
      || (approving && decision.reason != .none)
      || (!approving && decision.reason == .none)
      || decision.shareIndex.any (fun index => index == 0 || decide (index > 32)))
    .invalidFormat

def signaturePreimage (decision : WitnessDecisionV1) : Except WitnessProtocolErrorKind Bytes :=
  signedPreimage decision.validateShape "jury-witness-v1/decision/signature" (.ok decision.fields)

def canonicalBytes (decision : WitnessDecisionV1) : Except WitnessProtocolErrorKind Bytes :=
  signedBytes decision.validateShape (.ok decision.fields) decision.signature

end WitnessDecisionV1

structure WitnessResponseV1 where
  decision : WitnessDecisionV1
  contribution : Option WitnessContributionEnvelopeV1
deriving DecidableEq

section Crypto

variable [Crypto]

-- A decision and its contribution travel together, bound by the digest in the decision.
def WitnessResponseV1.canonicalBytes (response : WitnessResponseV1) :
    Except WitnessProtocolErrorKind Bytes := atMost MAX_RESPONSE_BYTES do
  let decision ← response.decision.canonicalBytes
  match response.decision.contributionDigest, response.contribution with
  | some expected, some contribution => do
    let digest ← contribution.digest
    rejectIf (digest != expected) .invalidDigest
    return decision ++ contribution.canonicalBytes
  | none, none => return decision
  | _, _ => .error .invalidDigest

def MAX_CURRENT_SLOTS : Nat := 16384

def activeWitnessPolicySetDigest (policies : List Digest32) : Except WitnessProtocolErrorKind Digest32 := do
  rejectIf
    (decide (policies.length > MAX_CURRENT_SLOTS)
      || policies.any (· == ZERO_DIGEST)
      || !strictlySortedUnique policies)
    .invalidFormat
  let digests ← orReject (listFixed policies (·.bytes)) .capacityExhausted
  return sha256 (jce "jury-witness-v1/active-policy-set/hash" ++ digests)

end Crypto

end Jury.Protocol.Witness
