import Jury.Protocol.Vault.Validate

-- Vocabulary of the witness protocol: operations, reasons, and the action manifest with the pieces it
-- is made of. The policy code of the source has its own enumerations of operations, approval modes
-- and platform assurances, bridged variant by variant to the ones here; the model has one of each.
namespace Jury.Protocol.Witness

open Lib Protocol Vault

def PROTOCOL_VERSION : UInt16 := 1
def CONSTRUCTION : UInt16 := 1
def ACCEPTED_CLOCK_SKEW_MS : UInt64 := 60000
def REPLAY_RETENTION_MS : UInt64 := 86400000
def MAX_REQUEST_LIFETIME_MS : UInt64 := 900000
def MAX_POLICY_ACTORS : Nat := 32
def MAX_RECORDED_APPROVALS : Nat := MAX_POLICY_ACTORS * 2
def MAX_MANIFEST_TARGETS : Nat := 64
def MAX_ARGUMENTS : Nat := 128
def MAX_ENVIRONMENT_NAMES : Nat := 64
def MAX_REQUEST_BYTES : Nat := 32 * 1024
def MAX_MANIFEST_BYTES : Nat := 64 * 1024
def MAX_APPROVAL_BYTES : Nat := 16 * 1024
def MAX_RESPONSE_BYTES : Nat := 16 * 1024
def MAX_REPLAY_RECORDS_PER_VAULT : Nat := 65536
def MAX_REPLAY_RECORDS_PER_SERVICE : Nat := 1048576

abbrev OperationBytes := BoundedBytes 4096
abbrev RequestBytes := BoundedBytes MAX_REQUEST_BYTES
abbrev ApprovalBytes := BoundedBytes MAX_APPROVAL_BYTES
abbrev ResponseBytes := BoundedBytes MAX_RESPONSE_BYTES

inductive WitnessProtocolErrorKind where
  | invalidFormat
  | invalidOrdering
  | invalidDigest
  | invalidScope
  | invalidTime
  | capacityExhausted
deriving DecidableEq

inductive WitnessOperationV1 where
  | readStdout
  | writePrivateFile
  | templateInjection
  | childEnvironment
  | childStdin
  | itemMutation
  | backup
  | recovery
  | administrativeRekey
deriving DecidableEq

def WitnessOperationV1.tag : WitnessOperationV1 → UInt8
  | readStdout => 1
  | writePrivateFile => 2
  | templateInjection => 3
  | childEnvironment => 4
  | childStdin => 5
  | itemMutation => 6
  | backup => 7
  | recovery => 8
  | administrativeRekey => 9

instance : Ord WitnessOperationV1 := keyOrd WitnessOperationV1.tag

instance : Std.TransOrd WitnessOperationV1 := keyOrd_trans _

inductive ApprovalModeV1 where
  | human
  | automatic
deriving DecidableEq

def ApprovalModeV1.tag : ApprovalModeV1 → UInt8
  | human => 1
  | automatic => 2

inductive ApprovalDecisionKindV1 where
  | approve
  | deny
deriving DecidableEq

def ApprovalDecisionKindV1.tag : ApprovalDecisionKindV1 → UInt8
  | approve => 1
  | deny => 2

inductive WitnessDecisionKindV1 where
  | approve
  | deny
  | error
deriving DecidableEq

def WitnessDecisionKindV1.tag : WitnessDecisionKindV1 → UInt8
  | approve => 1
  | deny => 2
  | error => 3

inductive WitnessReasonV1 where
  | none
  | policyDenied
  | missingApproval
  | approvalDenied
  | approvalConflict
  | stalePolicy
  | witnessBehind
  | checkpointFork
  | replayConflict
  | expired
  | notYetValid
  | cancelled
  | wrongScope
  | wrongOperation
  | workloadExceeded
  | directDowngrade
  | invalid
  | unsupportedVersion
  | invalidSignature
  | invalidContribution
  | insufficientQuorum
  | unavailable
  | unsafeClock
  | anchorConflict
  | capacityExhausted
  | restoredStateUnsafe
  | internalFailure
  | cancellationTooLate
deriving DecidableEq

def WitnessReasonV1.tag : WitnessReasonV1 → UInt8
  | none => 0x00
  | policyDenied => 0x01
  | missingApproval => 0x02
  | approvalDenied => 0x03
  | approvalConflict => 0x04
  | stalePolicy => 0x05
  | witnessBehind => 0x06
  | checkpointFork => 0x07
  | replayConflict => 0x08
  | expired => 0x09
  | notYetValid => 0x0a
  | cancelled => 0x0b
  | wrongScope => 0x0c
  | wrongOperation => 0x0d
  | workloadExceeded => 0x0e
  | directDowngrade => 0x0f
  | invalid => 0x10
  | unsupportedVersion => 0x11
  | invalidSignature => 0x12
  | invalidContribution => 0x13
  | insufficientQuorum => 0x14
  | unavailable => 0x15
  | unsafeClock => 0x16
  | anchorConflict => 0x17
  | capacityExhausted => 0x18
  | restoredStateUnsafe => 0x19
  | internalFailure => 0x1a
  | cancellationTooLate => 0x1b

inductive PlatformAssuranceV1 where
  | normalizedPathOnly
  | stableExecutableIdentity
deriving DecidableEq

def PlatformAssuranceV1.tag : PlatformAssuranceV1 → UInt8
  | normalizedPathOnly => 1
  | stableExecutableIdentity => 2

inductive StdinModeV1 where
  | none
  | secretBytes
  | publicBytes
deriving DecidableEq

def StdinModeV1.tag : StdinModeV1 → UInt8
  | none => 1
  | secretBytes => 2
  | publicBytes => 3

inductive OutputSinkV1 where
  | stdout
  | privateFile
  | childStdin
  | childEnvironment
  | none
deriving DecidableEq

def OutputSinkV1.tag : OutputSinkV1 → UInt8
  | stdout => 1
  | privateFile => 2
  | childStdin => 3
  | childEnvironment => 4
  | none => 5

inductive OwnerChangeKindV1 where
  | grant
  | revoke
deriving DecidableEq

def OwnerChangeKindV1.tag : OwnerChangeKindV1 → UInt8
  | grant => 1
  | revoke => 2

-- Every signed message has a shape check, fields and a signature. It is signed over its fields behind
-- a domain, and travels as its fields with the signature behind them.
def signedPreimage (shape : Except WitnessProtocolErrorKind Unit) (domain : String)
    (fields : Except WitnessProtocolErrorKind Bytes) : Except WitnessProtocolErrorKind Bytes := do
  shape
  let fields ← fields
  return jce domain ++ fields

def signedBytes (shape : Except WitnessProtocolErrorKind Unit)
    (fields : Except WitnessProtocolErrorKind Bytes) (signature : Signature64) :
    Except WitnessProtocolErrorKind Bytes := do
  shape
  let fields ← fields
  return fields ++ signature.bytes

def atMost (maximum : Nat) (output : Except WitnessProtocolErrorKind Bytes) :
    Except WitnessProtocolErrorKind Bytes := do
  let output ← output
  rejectIf (decide (output.length > maximum)) .capacityExhausted
  return output

section Crypto

variable [Crypto]

def signingKeyFingerprint (role : UInt8) (subjectId : PrincipalId) (epoch : UInt64)
    (publicKey : VerificationPublicKey32) : Digest32 :=
  sha256 (jce "jury-witness-v1/signing-key/fingerprint" ++
    (octets [role] ++ (subjectId.asBytes.bytes ++ (u64be epoch ++ publicKey.bytes))))

def hashBytes (domain : String) (body : Bytes) : Except WitnessProtocolErrorKind Digest32 := do
  let field ← orReject (bytesField body) .capacityExhausted
  return sha256 (jce domain ++ field)

def hashSigned (domain : String) (signaturePreimage : Bytes) (signature : Signature64) :
    Except WitnessProtocolErrorKind Digest32 := do
  let field ← orReject (bytesField signaturePreimage) .capacityExhausted
  return sha256 (jce domain ++ (field ++ signature.bytes))

end Crypto

-- A lifetime of one millisecond to fifteen minutes that starts after time zero.
def validInterval (issuedAtMs : UInt64) (notBeforeMs : Option UInt64) (expiresAtMs : UInt64) : Bool :=
  decide (issuedAtMs > 0)
    && (decide (issuedAtMs < expiresAtMs) && decide (expiresAtMs - issuedAtMs ≤ MAX_REQUEST_LIFETIME_MS))
    && notBeforeMs.all fun notBefore => decide (issuedAtMs ≤ notBefore) && decide (notBefore ≤ expiresAtMs)

structure WitnessTargetV1 where
  itemId : ItemId
  fieldId : Option FieldId
deriving DecidableEq

def WitnessTargetV1.canonicalBytes (target : WitnessTargetV1) : Bytes :=
  target.itemId.asBytes.bytes ++ optionalFixed (target.fieldId.map (·.asBytes.bytes))

inductive ManifestArgumentV1 where
  | publicLiteral (bytes : OperationBytes)
  | secretPlaceholder (target : WitnessTargetV1)
deriving DecidableEq

def ManifestArgumentV1.canonicalBytes :
    ManifestArgumentV1 → Except WitnessProtocolErrorKind Bytes
  | publicLiteral bytes => do
    let field ← orReject (bytesField bytes.asBytes) .capacityExhausted
    return octets [1] ++ field
  | secretPlaceholder target => return octets [2] ++ target.canonicalBytes

structure EnvironmentInjectionV1 where
  name : BoundedBytes 128
  target : WitnessTargetV1
deriving DecidableEq

def isAsciiAlphabetic (byte : UInt8) : Bool :=
  (decide (0x41 ≤ byte) && decide (byte ≤ 0x5a)) || (decide (0x61 ≤ byte) && decide (byte ≤ 0x7a))

def isAsciiDigit (byte : UInt8) : Bool := decide (0x30 ≤ byte) && decide (byte ≤ 0x39)

namespace EnvironmentInjectionV1

def canonicalBytes (entry : EnvironmentInjectionV1) : Except WitnessProtocolErrorKind Bytes := do
  let name ← orReject (bytesField entry.name.asBytes) .capacityExhausted
  return name ++ entry.target.canonicalBytes

-- A letter or underscore, then letters, digits and underscores.
def validName (entry : EnvironmentInjectionV1) : Bool :=
  match entry.name.asBytes.toList with
  | [] => false
  | first :: rest =>
    (isAsciiAlphabetic first || first == 0x5f)
      && rest.all fun byte => isAsciiAlphabetic byte || isAsciiDigit byte || byte == 0x5f

end EnvironmentInjectionV1

inductive OperationContextV1 where
  | readStdout
  | writePrivateFile
  | templateInjection
  | childEnvironment
  | childStdin
  | itemMutation (mutationKind : UInt8) (affectedFieldIds : List FieldId)
      (proposedPublicRevisionDigest : Digest32)
  | backup (scope : UInt8) (archiveFormat : UInt16) (destinationCommitment : Digest32)
  | recovery (mode : UInt8) (destinationCommitment : Digest32) (nextItemAccessMode : ItemAccessMode)
  | ownerChange (change : OwnerChangeKindV1) (targetPrincipalId : PrincipalId)
      (nextVaultPolicySequence : UInt64)
  | administrativeRekey (nextVaultPolicySequence : UInt64) (nextVaultPolicyHash : Digest32)
      (nextWitnessPolicyId : WitnessPolicyId) (nextWitnessPolicyRevision : UInt64)
      (nextWitnessPolicyDigest rotationRecordDigest : Digest32)
deriving DecidableEq

namespace OperationContextV1

def operation : OperationContextV1 → WitnessOperationV1
  | readStdout => .readStdout
  | writePrivateFile => .writePrivateFile
  | templateInjection => .templateInjection
  | childEnvironment => .childEnvironment
  | childStdin => .childStdin
  | itemMutation .. => .itemMutation
  | backup .. => .backup
  | recovery .. => .recovery
  | administrativeRekey .. => .administrativeRekey
  | ownerChange .. => .administrativeRekey

def domain : OperationContextV1 → String
  | readStdout => "jury-witness-v1/operation-context/read-stdout"
  | writePrivateFile => "jury-witness-v1/operation-context/write-private-file"
  | templateInjection => "jury-witness-v1/operation-context/template-injection"
  | childEnvironment => "jury-witness-v1/operation-context/child-environment"
  | childStdin => "jury-witness-v1/operation-context/child-stdin"
  | itemMutation .. => "jury-witness-v1/operation-context/item-mutation"
  | backup .. => "jury-witness-v1/operation-context/backup"
  | recovery .. => "jury-witness-v1/operation-context/recovery"
  | administrativeRekey .. => "jury-witness-v1/operation-context/administrative-rekey"
  | ownerChange .. => "jury-witness-v1/operation-context/owner-change"

def fields : OperationContextV1 → Except WitnessProtocolErrorKind Bytes
  | itemMutation mutationKind affectedFieldIds proposedPublicRevisionDigest => do
    rejectIf
      (!(decide (1 ≤ mutationKind) && decide (mutationKind ≤ 4)) || !strictlySortedUnique affectedFieldIds)
      .invalidOrdering
    let ids ← orReject (listFixed affectedFieldIds (·.asBytes.bytes)) .capacityExhausted
    return octets [mutationKind] ++ (ids ++ proposedPublicRevisionDigest.bytes)
  | backup scope archiveFormat destinationCommitment => do
    rejectIf (!(decide (1 ≤ scope) && decide (scope ≤ 2)) || archiveFormat == 0) .invalidFormat
    return octets [scope] ++ (u16be archiveFormat ++ destinationCommitment.bytes)
  | recovery mode destinationCommitment nextItemAccessMode => do
    rejectIf (!(decide (1 ≤ mode) && decide (mode ≤ 2))) .invalidFormat
    return octets [mode] ++ (destinationCommitment.bytes ++ octets [nextItemAccessMode.tag])
  | ownerChange change targetPrincipalId nextVaultPolicySequence => do
    rejectIf (nextVaultPolicySequence == 0) .invalidFormat
    return octets [change.tag] ++ (targetPrincipalId.asBytes.bytes ++ u64be nextVaultPolicySequence)
  | administrativeRekey nextVaultPolicySequence nextVaultPolicyHash nextWitnessPolicyId
      nextWitnessPolicyRevision nextWitnessPolicyDigest rotationRecordDigest => do
    rejectIf (nextVaultPolicySequence == 0 || nextWitnessPolicyRevision == 0) .invalidFormat
    return u64be nextVaultPolicySequence ++ (nextVaultPolicyHash.bytes ++
      (nextWitnessPolicyId.asBytes.bytes ++ (u64be nextWitnessPolicyRevision ++
      (nextWitnessPolicyDigest.bytes ++ rotationRecordDigest.bytes))))
  | readStdout | writePrivateFile | templateInjection | childEnvironment | childStdin => return ∅

def canonicalBytes (context : OperationContextV1) : Except WitnessProtocolErrorKind Bytes := do
  let fields ← context.fields
  return jce context.domain ++ (u16be 1 ++ fields)

end OperationContextV1

structure ApprovalTargetEntryV1 where
  itemId : ItemId
  fieldId : Option FieldId
  presentationCommitment : Digest32
deriving DecidableEq

def ApprovalTargetEntryV1.canonicalBytes (entry : ApprovalTargetEntryV1) : Bytes :=
  entry.itemId.asBytes.bytes ++
  (optionalFixed (entry.fieldId.map (·.asBytes.bytes)) ++
  entry.presentationCommitment.bytes)

def compareFields : Option FieldId → Option FieldId → Ordering
  | none, none => .eq
  | none, some _ => .lt
  | some _, none => .gt
  | some a, some b => compare a b

structure ApprovalTargetV1 where
  entries : List ApprovalTargetEntryV1
  presentationDigest : Digest32
deriving DecidableEq

namespace ApprovalTargetV1

def entriesSorted (entries : List ApprovalTargetEntryV1) : Bool :=
  (entries.zip entries.tail).all fun pair =>
    ((compare pair.1.itemId pair.2.itemId).then (compareFields pair.1.fieldId pair.2.fieldId)).isLT

def canonicalBytes (target : ApprovalTargetV1) : Except WitnessProtocolErrorKind Bytes := do
  rejectIf
    (target.entries.isEmpty
      || decide (target.entries.length > MAX_MANIFEST_TARGETS)
      || !entriesSorted target.entries)
    .invalidOrdering
  let entries ← orReject (listBytes (target.entries.map (·.canonicalBytes))) .capacityExhausted
  return entries ++ target.presentationDigest.bytes

variable [Crypto]

def digest (target : ApprovalTargetV1) : Except WitnessProtocolErrorKind Digest32 := do
  let bytes ← target.canonicalBytes
  hashBytes "jury-witness-v1/approval-target/hash" bytes

end ApprovalTargetV1

end Jury.Protocol.Witness
