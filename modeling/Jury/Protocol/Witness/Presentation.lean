import Jury.Protocol.Witness.Base

-- What an approver is shown of a request: names that the owner has put on its subjects for review.
namespace Jury.Protocol.Witness

open Lib Protocol

def MAX_PRESENTATION_BYTES : Nat := 64 * 1024
def MAX_PUBLIC_REVIEW_LABEL_BYTES : Nat := 256

abbrev ReviewLabelBytes := BoundedBytes MAX_PUBLIC_REVIEW_LABEL_BYTES

inductive PresentationSubjectV1 where
  | item
  | field
  | workingDirectory
  | outputSink
deriving DecidableEq

def PresentationSubjectV1.tag : PresentationSubjectV1 → UInt8
  | item => 1
  | field => 2
  | workingDirectory => 3
  | outputSink => 4

structure OwnerReviewLabelV1 where
  schema : UInt16
  labelId : LabelId
  labelRevision : UInt64
  subjectKind : PresentationSubjectV1
  vaultId : VaultId
  genesisFingerprint : Digest32
  itemId : Option ItemId
  fieldId : Option FieldId
  subjectCommitment : Option Digest32
  publicLabel : ReviewLabelBytes
  vaultPolicySequence : UInt64
  issuedAtMs : UInt64
  expiresAtMs : Option UInt64
  issuerOwnerId : PrincipalId
  issuerKeyFingerprint : Digest32
  issuerKeyEpoch : UInt64
  signature : Signature64
deriving DecidableEq

def isUtf8 (bytes : Bytes) : Bool := ByteArray.validateUTF8 ⟨bytes.toList.toArray⟩

namespace OwnerReviewLabelV1

def fields (label : OwnerReviewLabelV1) : Except WitnessProtocolErrorKind Bytes := do
  let publicLabel ← orReject (bytesField label.publicLabel.asBytes) .capacityExhausted
  return u16be label.schema ++
    (label.labelId.asBytes.bytes ++
    (u64be label.labelRevision ++
    (octets [label.subjectKind.tag] ++
    (label.vaultId.asBytes.bytes ++
    (label.genesisFingerprint.bytes ++
    (optionalFixed (label.itemId.map (·.asBytes.bytes)) ++
    (optionalFixed (label.fieldId.map (·.asBytes.bytes)) ++
    (optionalFixed (label.subjectCommitment.map (·.bytes)) ++
    (publicLabel ++
    (u64be label.vaultPolicySequence ++
    (u64be label.issuedAtMs ++
    (optionalU64 label.expiresAtMs ++
    (label.issuerOwnerId.asBytes.bytes ++
    (label.issuerKeyFingerprint.bytes ++
    u64be label.issuerKeyEpoch))))))))))))))

-- An item and a field are named by identifier, a directory and a sink by a commitment.
def subjectValid (label : OwnerReviewLabelV1) : Bool :=
  match label.subjectKind with
  | .item => label.itemId.isSome && label.fieldId.isNone && label.subjectCommitment.isNone
  | .field => label.itemId.isSome && label.fieldId.isSome && label.subjectCommitment.isNone
  | .workingDirectory | .outputSink =>
    label.itemId.isNone && label.fieldId.isNone && label.subjectCommitment.isSome

def validateShape (label : OwnerReviewLabelV1) : Except WitnessProtocolErrorKind Unit :=
  rejectIf
    (label.schema != 1
      || label.labelRevision == 0
      || label.vaultPolicySequence == 0
      || label.issuerKeyEpoch == 0
      || label.publicLabel.isEmpty
      || !isUtf8 label.publicLabel.asBytes
      || label.expiresAtMs.any (fun expiresAt => decide (expiresAt ≤ label.issuedAtMs))
      || !label.subjectValid)
    .invalidFormat

def signaturePreimage (label : OwnerReviewLabelV1) : Except WitnessProtocolErrorKind Bytes :=
  signedPreimage label.validateShape "jury-witness-v1/review-label/signature" label.fields

def canonicalBytes (label : OwnerReviewLabelV1) : Except WitnessProtocolErrorKind Bytes :=
  atMost MAX_PRESENTATION_BYTES (signedBytes label.validateShape label.fields label.signature)

end OwnerReviewLabelV1

end Jury.Protocol.Witness
