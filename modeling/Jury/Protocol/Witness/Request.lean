import Jury.Protocol.Witness.Base

-- The action manifest and the signed request that names it.
namespace Jury.Protocol.Witness

open Lib Protocol Vault

structure ActionManifestV1 where
  schema : UInt16
  requestId : RequestId
  vaultId : VaultId
  genesisFingerprint : Digest32
  itemId : ItemId
  keyEpoch : UInt64
  itemAccessMode : ItemAccessMode
  slotId : SlotId
  contentRole : ContentRole
  revision : UInt64
  revisionSealId : RevisionSealId
  vaultPolicySequence : UInt64
  vaultPolicyHash : Digest32
  witnessPolicyId : WitnessPolicyId
  witnessPolicyRevision : UInt64
  witnessPolicyDigest : Digest32
  requesterPrincipalId : PrincipalId
  requestedAccessRole : AccessRole
  operation : WitnessOperationV1
  operationContext : OperationContextV1
  approvalTarget : ApprovalTargetV1
  approvalTargetDigest : Digest32
  executableIdentity : Option OperationBytes
  arguments : List ManifestArgumentV1
  workingDirectoryCommitment : Option Digest32
  environmentInjections : List EnvironmentInjectionV1
  stdinTarget : Option WitnessTargetV1
  stdinMode : StdinModeV1
  outputSink : OutputSinkV1
  outputSinkCommitment : Option Digest32
  platformAssurance : PlatformAssuranceV1
  timeoutMs : UInt64
  outputLimitBytes : UInt32
  issuedAtMs : UInt64
  notBeforeMs : Option UInt64
  expiresAtMs : UInt64
  presentationDigest : Digest32
deriving DecidableEq

namespace ActionManifestV1

def targetIsApproved (manifest : ActionManifestV1) (target : WitnessTargetV1) : Bool :=
  manifest.approvalTarget.entries.any fun entry =>
    entry.itemId == target.itemId && entry.fieldId == target.fieldId

def noChild (manifest : ActionManifestV1) : Bool :=
  manifest.executableIdentity.isNone
    && manifest.arguments.isEmpty
    && manifest.workingDirectoryCommitment.isNone
    && manifest.environmentInjections.isEmpty
    && manifest.stdinTarget.isNone
    && manifest.stdinMode == .none

def secretArgumentsMatch (manifest : ActionManifestV1) : Bool :=
  manifest.arguments.all fun argument =>
    match argument with
    | .publicLiteral _ => true
    | .secretPlaceholder target => manifest.targetIsApproved target

def sinkShape (manifest : ActionManifestV1) : Bool :=
  match manifest.outputSink with
  | .privateFile => manifest.outputSinkCommitment.isSome
  | .stdout | .childStdin | .childEnvironment | .none => manifest.outputSinkCommitment.isNone

def targetsWholeItem (manifest : ActionManifestV1) : Bool :=
  match manifest.approvalTarget.entries with
  | [entry] => entry.fieldId.isNone
  | _ => false

def workloadShape (manifest : ActionManifestV1) : Bool :=
  match manifest.operation with
  | .readStdout =>
    manifest.noChild && manifest.outputSink == .stdout && manifest.outputSinkCommitment.isNone
  | .writePrivateFile =>
    manifest.noChild && manifest.outputSink == .privateFile && manifest.outputSinkCommitment.isSome
  | .templateInjection =>
    manifest.executableIdentity.isSome
      && !manifest.arguments.isEmpty
      && manifest.workingDirectoryCommitment.isSome
      && manifest.environmentInjections.isEmpty
      && manifest.stdinTarget.isNone
      && manifest.stdinMode == .none
      && manifest.outputSink != .none
      && manifest.sinkShape
      && manifest.secretArgumentsMatch
      && manifest.arguments.any fun argument =>
        match argument with
        | .secretPlaceholder _ => true
        | .publicLiteral _ => false
  | .childEnvironment =>
    manifest.executableIdentity.isSome
      && !manifest.arguments.isEmpty
      && !manifest.environmentInjections.isEmpty
      && manifest.stdinTarget.isNone
      && manifest.stdinMode == .none
      && manifest.outputSink != .none
      && manifest.sinkShape
      && manifest.secretArgumentsMatch
      && manifest.environmentInjections.all fun entry => manifest.targetIsApproved entry.target
  | .childStdin =>
    manifest.executableIdentity.isSome
      && !manifest.arguments.isEmpty
      && manifest.approvalTarget.entries.length == 1
      && manifest.environmentInjections.isEmpty
      && manifest.stdinTarget.any (fun target => manifest.targetIsApproved target)
      && manifest.stdinMode == .secretBytes
      && manifest.outputSink != .none
      && manifest.sinkShape
      && manifest.secretArgumentsMatch
  | .itemMutation =>
    manifest.noChild
      && manifest.outputSink == .none
      && manifest.outputSinkCommitment.isNone
      && (match manifest.operationContext with
        | .itemMutation mutationKind affectedFieldIds _ =>
          affectedFieldIds == manifest.approvalTarget.entries.filterMap (·.fieldId)
            && ((mutationKind == 1 || mutationKind == 4) == affectedFieldIds.isEmpty)
        | _ => false)
  | .backup =>
    manifest.noChild
      && manifest.targetsWholeItem
      && manifest.outputSink == .privateFile
      && (match manifest.operationContext with
        | .backup _ _ destinationCommitment => manifest.outputSinkCommitment == some destinationCommitment
        | _ => false)
  | .recovery =>
    manifest.noChild
      && manifest.targetsWholeItem
      && manifest.outputSink == .privateFile
      && (match manifest.operationContext with
        | .recovery _ destinationCommitment _ => manifest.outputSinkCommitment == some destinationCommitment
        | _ => false)
  | .administrativeRekey =>
    manifest.noChild
      && manifest.targetsWholeItem
      && manifest.outputSink == .none
      && manifest.outputSinkCommitment.isNone

def validateWorkloadShape (manifest : ActionManifestV1) : Except WitnessProtocolErrorKind Unit :=
  rejectIf (!manifest.workloadShape) .invalidScope

variable [Crypto]

def validateShape (manifest : ActionManifestV1) : Except WitnessProtocolErrorKind Unit := do
  rejectIf
    (manifest.schema != 1
      || manifest.keyEpoch == 0
      || manifest.revision == 0
      || manifest.vaultPolicySequence == 0
      || manifest.witnessPolicyRevision == 0
      || !(manifest.itemAccessMode == .witnessedOnly || manifest.itemAccessMode == .mixed)
      || manifest.operation != manifest.operationContext.operation)
    .invalidFormat
  let targetDigest ← manifest.approvalTarget.digest
  rejectIf
    (manifest.approvalTargetDigest != targetDigest
      || manifest.presentationDigest != manifest.approvalTarget.presentationDigest
      || decide (manifest.arguments.length > MAX_ARGUMENTS)
      || decide (manifest.environmentInjections.length > MAX_ENVIRONMENT_NAMES)
      || !validInterval manifest.issuedAtMs manifest.notBeforeMs manifest.expiresAtMs
      || manifest.approvalTarget.entries.any (fun entry => entry.itemId != manifest.itemId)
      || (manifest.contentRole == .descriptor
        && manifest.approvalTarget.entries.any (fun entry => entry.fieldId.isSome))
      || manifest.environmentInjections.any (fun entry => !entry.validName)
      || !sortedByKey manifest.environmentInjections (·.name.asBytes))
    .invalidFormat
  manifest.validateWorkloadShape

-- Operation, context and everything that says how the released bytes are used.
def workloadFields (manifest : ActionManifestV1) : Except WitnessProtocolErrorKind (Bytes × Bytes) := do
  let arguments ← manifest.arguments.mapM (·.canonicalBytes)
  let environment ← manifest.environmentInjections.mapM (·.canonicalBytes)
  let executable ← orReject (optionalBytes (manifest.executableIdentity.map (·.asBytes))) .capacityExhausted
  let arguments ← orReject (listBytes arguments) .capacityExhausted
  let environment ← orReject (listBytes environment) .capacityExhausted
  let stdin ← orReject (optionalBytes (manifest.stdinTarget.map (·.canonicalBytes))) .capacityExhausted
  return (executable ++ (arguments ++
      (optionalFixed (manifest.workingDirectoryCommitment.map (·.bytes)) ++ (environment ++ stdin))),
    octets [manifest.stdinMode.tag, manifest.outputSink.tag] ++
      (optionalFixed (manifest.outputSinkCommitment.map (·.bytes)) ++
      (octets [manifest.platformAssurance.tag] ++ (u64be manifest.timeoutMs ++ u32be manifest.outputLimitBytes))))

def canonicalBody (manifest : ActionManifestV1) : Except WitnessProtocolErrorKind Bytes := do
  manifest.validateShape
  let context ← manifest.operationContext.canonicalBytes
  let target ← manifest.approvalTarget.canonicalBytes
  let (child, sink) ← manifest.workloadFields
  let context ← orReject (bytesField context) .capacityExhausted
  let target ← orReject (bytesField target) .capacityExhausted
  let output :=
    u16be manifest.schema ++
    (manifest.requestId.asBytes.bytes ++
    (manifest.vaultId.asBytes.bytes ++
    (manifest.genesisFingerprint.bytes ++
    (manifest.itemId.asBytes.bytes ++
    (u64be manifest.keyEpoch ++
    (octets [manifest.itemAccessMode.tag] ++
    (manifest.slotId.asBytes.bytes ++
    (octets [manifest.contentRole.tag] ++
    (u64be manifest.revision ++
    (manifest.revisionSealId.asBytes.bytes ++
    (u64be manifest.vaultPolicySequence ++
    (manifest.vaultPolicyHash.bytes ++
    (manifest.witnessPolicyId.asBytes.bytes ++
    (u64be manifest.witnessPolicyRevision ++
    (manifest.witnessPolicyDigest.bytes ++
    (manifest.requesterPrincipalId.asBytes.bytes ++
    (octets [manifest.requestedAccessRole.tag, manifest.operation.tag] ++
    (context ++
    (target ++
    (manifest.approvalTargetDigest.bytes ++
    (child ++
    (sink ++
    (u64be manifest.issuedAtMs ++
    (optionalU64 manifest.notBeforeMs ++
    (u64be manifest.expiresAtMs ++
    manifest.presentationDigest.bytes)))))))))))))))))))))))))
  rejectIf (decide (output.length > MAX_MANIFEST_BYTES)) .capacityExhausted
  return output

def digest (manifest : ActionManifestV1) : Except WitnessProtocolErrorKind Digest32 := do
  let body ← manifest.canonicalBody
  hashBytes "jury-witness-v1/action-manifest/hash" body

def workloadDigest (manifest : ActionManifestV1) : Except WitnessProtocolErrorKind Digest32 := do
  manifest.validateShape
  let context ← manifest.operationContext.canonicalBytes
  let (child, sink) ← manifest.workloadFields
  let context ← orReject (bytesField context) .capacityExhausted
  return sha256 (jce "jury-witness-v1/workload/hash" ++
    (octets [manifest.operation.tag] ++ (context ++ (child ++ sink))))

end ActionManifestV1

structure IntendedWitnessV1 where
  witnessId : PrincipalId
  shareIndex : UInt8
  signingKeyFingerprint : Digest32
  contributionKeyFingerprint : Digest32
deriving DecidableEq

def IntendedWitnessV1.canonicalBytes (witness : IntendedWitnessV1) : Bytes :=
  witness.witnessId.asBytes.bytes ++
  (octets [witness.shareIndex] ++
  (witness.signingKeyFingerprint.bytes ++
  witness.contributionKeyFingerprint.bytes))

structure WitnessRequestV1 where
  schema : UInt16
  protocolVersion : UInt16
  construction : UInt16
  requestId : RequestId
  clientNonce : RequestId
  vaultId : VaultId
  genesisFingerprint : Digest32
  itemId : ItemId
  keyEpoch : UInt64
  itemAccessMode : ItemAccessMode
  slotId : SlotId
  contentRole : ContentRole
  revision : UInt64
  revisionSealId : RevisionSealId
  vaultPolicySequence : UInt64
  vaultPolicyHash : Digest32
  policyCheckpointDigest : Digest32
  witnessPolicyId : WitnessPolicyId
  witnessPolicyRevision : UInt64
  witnessPolicyDigest : Digest32
  requesterPrincipalId : PrincipalId
  requesterSigningKeyFingerprint : Digest32
  requesterSigningKeyEpoch : UInt64
  requestedAccessRole : AccessRole
  operation : WitnessOperationV1
  approvalTargetDigest : Digest32
  actionManifestDigest : Digest32
  workloadDigest : Digest32
  issuedAtMs : UInt64
  notBeforeMs : Option UInt64
  expiresAtMs : UInt64
  requestSessionPublicKey : RecipientPublicKey1216
  requestSessionKeyFingerprint : Digest32
  intendedWitnessSet : List IntendedWitnessV1
  clientSignature : Signature64
deriving DecidableEq

namespace WitnessRequestV1

def fields (request : WitnessRequestV1) : Except WitnessProtocolErrorKind Bytes := do
  let witnesses ← orReject (listFixed request.intendedWitnessSet (·.canonicalBytes)) .capacityExhausted
  return u16be request.schema ++
    (u16be request.protocolVersion ++
    (u16be request.construction ++
    (request.requestId.asBytes.bytes ++
    (request.clientNonce.asBytes.bytes ++
    (request.vaultId.asBytes.bytes ++
    (request.genesisFingerprint.bytes ++
    (request.itemId.asBytes.bytes ++
    (u64be request.keyEpoch ++
    (octets [request.itemAccessMode.tag] ++
    (request.slotId.asBytes.bytes ++
    (octets [request.contentRole.tag] ++
    (u64be request.revision ++
    (request.revisionSealId.asBytes.bytes ++
    (u64be request.vaultPolicySequence ++
    (request.vaultPolicyHash.bytes ++
    (request.policyCheckpointDigest.bytes ++
    (request.witnessPolicyId.asBytes.bytes ++
    (u64be request.witnessPolicyRevision ++
    (request.witnessPolicyDigest.bytes ++
    (request.requesterPrincipalId.asBytes.bytes ++
    (request.requesterSigningKeyFingerprint.bytes ++
    (u64be request.requesterSigningKeyEpoch ++
    (octets [request.requestedAccessRole.tag, request.operation.tag] ++
    (request.approvalTargetDigest.bytes ++
    (request.actionManifestDigest.bytes ++
    (request.workloadDigest.bytes ++
    (u64be request.issuedAtMs ++
    (optionalU64 request.notBeforeMs ++
    (u64be request.expiresAtMs ++
    (request.requestSessionPublicKey.bytes ++
    (request.requestSessionKeyFingerprint.bytes ++
    witnesses)))))))))))))))))))))))))))))))

def witnessesDistinct : List IntendedWitnessV1 → Bool
  | [] => true
  | entry :: rest =>
    rest.all (fun other =>
      entry.shareIndex != other.shareIndex
        && entry.signingKeyFingerprint != other.signingKeyFingerprint
        && entry.contributionKeyFingerprint != other.contributionKeyFingerprint)
      && witnessesDistinct rest

variable [Crypto]

def validateShape (request : WitnessRequestV1) : Except WitnessProtocolErrorKind Unit :=
  rejectIf
    (request.schema != 1
      || request.protocolVersion != PROTOCOL_VERSION
      || request.construction != CONSTRUCTION
      || request.keyEpoch == 0
      || request.revision == 0
      || request.vaultPolicySequence == 0
      || request.witnessPolicyRevision == 0
      || request.requesterSigningKeyEpoch == 0
      || !(request.itemAccessMode == .witnessedOnly || request.itemAccessMode == .mixed)
      || !validInterval request.issuedAtMs request.notBeforeMs request.expiresAtMs
      || decide (request.intendedWitnessSet.length < 2)
      || decide (request.intendedWitnessSet.length > MAX_POLICY_ACTORS)
      || !sortedByKey request.intendedWitnessSet (·.witnessId)
      || request.intendedWitnessSet.any (fun entry => entry.shareIndex == 0 || decide (entry.shareIndex > 32))
      || !witnessesDistinct request.intendedWitnessSet
      || request.requestSessionKeyFingerprint
        != recipientPublicKeyFingerprint request.requestSessionPublicKey)
    .invalidFormat

def signaturePreimage (request : WitnessRequestV1) : Except WitnessProtocolErrorKind Bytes :=
  signedPreimage request.validateShape "jury-witness-v1/request/signature" request.fields

def canonicalBytes (request : WitnessRequestV1) : Except WitnessProtocolErrorKind Bytes :=
  atMost MAX_REQUEST_BYTES (signedBytes request.validateShape request.fields request.clientSignature)

def digest (request : WitnessRequestV1) : Except WitnessProtocolErrorKind Digest32 := do
  let preimage ← request.signaturePreimage
  hashSigned "jury-witness-v1/request/hash" preimage request.clientSignature

def intendedWitnessSetDigest (request : WitnessRequestV1) : Except WitnessProtocolErrorKind Digest32 := do
  let witnesses ← orReject (listFixed request.intendedWitnessSet (·.canonicalBytes)) .capacityExhausted
  return sha256 (jce "jury-witness-v1/intended-witness-set/hash" ++ witnesses)

end WitnessRequestV1

end Jury.Protocol.Witness
