import Jury.Protocol.Witness.RequestInput

-- The portable record of a decision: the request as it was signed, the decisions that were taken on it,
-- and the policy they were taken under. It carries no contribution and nothing that was presented.
namespace Jury.Protocol.Witness

open Lib Protocol Vault

inductive ReceiptOutcomeV1 where
  | approved
  | denied
deriving DecidableEq

def ReceiptOutcomeV1.tag : ReceiptOutcomeV1 → UInt8
  | approved => 1
  | denied => 2

-- An approval has no reason and a denial has one.
def ReceiptOutcomeV1.matchesReason (outcome : ReceiptOutcomeV1) (reason : WitnessReasonV1) : Bool :=
  match outcome with
  | .approved => reason == .none
  | .denied => reason != .none

structure PublicReceiptScopeV1 where
  schema : UInt16
  requestId : RequestId
  vaultId : VaultId
  genesisFingerprint : Digest32
  itemId : ItemId
  keyEpoch : UInt64
  itemAccessMode : ItemAccessMode
  slotId : SlotId
  contentRole : ContentRole
  revision : UInt64
  revisionSealId : RevisionSealId
  vaultPolicySequence : UInt64
  vaultPolicyHash : Digest32
  witnessPolicyId : WitnessPolicyId
  witnessPolicyRevision : UInt64
  witnessPolicyDigest : Digest32
  requesterPrincipalId : PrincipalId
  requestedAccessRole : AccessRole
  operation : WitnessOperationV1
  approvalTargetDigest : Digest32
  actionManifestDigest : Digest32
  workloadDigest : Digest32
  issuedAtMs : UInt64
  notBeforeMs : Option UInt64
  expiresAtMs : UInt64
deriving DecidableEq

namespace PublicReceiptScopeV1

def fromRequest (request : WitnessRequestV1) : PublicReceiptScopeV1 where
  schema := 1
  requestId := request.requestId
  vaultId := request.vaultId
  genesisFingerprint := request.genesisFingerprint
  itemId := request.itemId
  keyEpoch := request.keyEpoch
  itemAccessMode := request.itemAccessMode
  slotId := request.slotId
  contentRole := request.contentRole
  revision := request.revision
  revisionSealId := request.revisionSealId
  vaultPolicySequence := request.vaultPolicySequence
  vaultPolicyHash := request.vaultPolicyHash
  witnessPolicyId := request.witnessPolicyId
  witnessPolicyRevision := request.witnessPolicyRevision
  witnessPolicyDigest := request.witnessPolicyDigest
  requesterPrincipalId := request.requesterPrincipalId
  requestedAccessRole := request.requestedAccessRole
  operation := request.operation
  approvalTargetDigest := request.approvalTargetDigest
  actionManifestDigest := request.actionManifestDigest
  workloadDigest := request.workloadDigest
  issuedAtMs := request.issuedAtMs
  notBeforeMs := request.notBeforeMs
  expiresAtMs := request.expiresAtMs

def fields (scope : PublicReceiptScopeV1) : Bytes :=
  u16be scope.schema ++
  (scope.requestId.asBytes.bytes ++
  (scope.vaultId.asBytes.bytes ++
  (scope.genesisFingerprint.bytes ++
  (scope.itemId.asBytes.bytes ++
  (u64be scope.keyEpoch ++
  (octets [scope.itemAccessMode.tag] ++
  (scope.slotId.asBytes.bytes ++
  (octets [scope.contentRole.tag] ++
  (u64be scope.revision ++
  (scope.revisionSealId.asBytes.bytes ++
  (u64be scope.vaultPolicySequence ++
  (scope.vaultPolicyHash.bytes ++
  (scope.witnessPolicyId.asBytes.bytes ++
  (u64be scope.witnessPolicyRevision ++
  (scope.witnessPolicyDigest.bytes ++
  (scope.requesterPrincipalId.asBytes.bytes ++
  (octets [scope.requestedAccessRole.tag, scope.operation.tag] ++
  (scope.approvalTargetDigest.bytes ++
  (scope.actionManifestDigest.bytes ++
  (scope.workloadDigest.bytes ++
  (u64be scope.issuedAtMs ++
  (optionalU64 scope.notBeforeMs ++
  u64be scope.expiresAtMs))))))))))))))))))))))

def canonicalBytes (scope : PublicReceiptScopeV1) : Except WitnessProtocolErrorKind Bytes := do
  rejectIf
    (scope.schema != 1
      || scope.keyEpoch == 0
      || scope.revision == 0
      || scope.vaultPolicySequence == 0
      || scope.witnessPolicyRevision == 0
      || !(scope.itemAccessMode == .witnessedOnly || scope.itemAccessMode == .mixed)
      || !validInterval scope.issuedAtMs scope.notBeforeMs scope.expiresAtMs)
    .invalidFormat
  return scope.fields

end PublicReceiptScopeV1

structure ReceiptAcknowledgementV1 where
  schema : UInt16
  receiptId : ReceiptId
  receiptCoreDigest : Digest32
  requestDigest : Digest32
  endpointPrincipalId : PrincipalId
  endpointKeyFingerprint : Digest32
  endpointKeyEpoch : UInt64
  startedAtMs : UInt64
  signature : Signature64
deriving DecidableEq

namespace ReceiptAcknowledgementV1

def fields (acknowledgement : ReceiptAcknowledgementV1) : Bytes :=
  u16be acknowledgement.schema ++
  (acknowledgement.receiptId.asBytes.bytes ++
  (acknowledgement.receiptCoreDigest.bytes ++
  (acknowledgement.requestDigest.bytes ++
  (acknowledgement.endpointPrincipalId.asBytes.bytes ++
  (acknowledgement.endpointKeyFingerprint.bytes ++
  (u64be acknowledgement.endpointKeyEpoch ++
  u64be acknowledgement.startedAtMs))))))

def validateShape (acknowledgement : ReceiptAcknowledgementV1) : Except WitnessProtocolErrorKind Unit :=
  rejectIf
    (acknowledgement.schema != 1 || acknowledgement.endpointKeyEpoch == 0 || acknowledgement.startedAtMs == 0)
    .invalidFormat

def signaturePreimage (acknowledgement : ReceiptAcknowledgementV1) : Except WitnessProtocolErrorKind Bytes :=
  signedPreimage acknowledgement.validateShape "jury-witness-v1/receipt/acknowledgement" (.ok acknowledgement.fields)

def canonicalBytes (acknowledgement : ReceiptAcknowledgementV1) : Except WitnessProtocolErrorKind Bytes :=
  signedBytes acknowledgement.validateShape (.ok acknowledgement.fields) acknowledgement.signature

def digest [Crypto] (acknowledgement : ReceiptAcknowledgementV1) : Except WitnessProtocolErrorKind Digest32 := do
  let preimage ← acknowledgement.signaturePreimage
  hashSigned "jury-witness-v1/receipt/acknowledgement/hash" preimage acknowledgement.signature

end ReceiptAcknowledgementV1

structure ReceiptCompletionV1 where
  schema : UInt16
  receiptId : ReceiptId
  receiptCoreDigest : Digest32
  acknowledgementDigest : Option Digest32
  endpointPrincipalId : PrincipalId
  endpointKeyFingerprint : Digest32
  endpointKeyEpoch : UInt64
  outcome : ReceiptOutcomeV1
  reason : WitnessReasonV1
  completedAtMs : UInt64
  signature : Signature64
deriving DecidableEq

namespace ReceiptCompletionV1

def fields (completion : ReceiptCompletionV1) : Bytes :=
  u16be completion.schema ++
  (completion.receiptId.asBytes.bytes ++
  (completion.receiptCoreDigest.bytes ++
  (optionalFixed (completion.acknowledgementDigest.map (·.bytes)) ++
  (completion.endpointPrincipalId.asBytes.bytes ++
  (completion.endpointKeyFingerprint.bytes ++
  (u64be completion.endpointKeyEpoch ++
  (octets [completion.outcome.tag, completion.reason.tag] ++
  u64be completion.completedAtMs)))))))

def validateShape (completion : ReceiptCompletionV1) : Except WitnessProtocolErrorKind Unit :=
  rejectIf
    (completion.schema != 1
      || completion.endpointKeyEpoch == 0
      || completion.completedAtMs == 0
      || !completion.outcome.matchesReason completion.reason)
    .invalidFormat

def signaturePreimage (completion : ReceiptCompletionV1) : Except WitnessProtocolErrorKind Bytes :=
  signedPreimage completion.validateShape "jury-witness-v1/receipt/completion" (.ok completion.fields)

def canonicalBytes (completion : ReceiptCompletionV1) : Except WitnessProtocolErrorKind Bytes :=
  signedBytes completion.validateShape (.ok completion.fields) completion.signature

end ReceiptCompletionV1

structure WitnessReceiptV1 where
  schema : UInt16
  receiptId : ReceiptId
  requestSignaturePreimage : RequestBytes
  clientSignature : Signature64
  requestDigest : Digest32
  actionManifestDigest : Digest32
  presentationDigest : Digest32
  publicScope : PublicReceiptScopeV1
  approvalDecisions : List ApprovalDecisionV1
  witnessDecisions : List WitnessDecisionV1
  policyCheckpoint : VaultPolicyCheckpointV1
  witnessPolicyMaterial : PolicyMaterialBytes
  approvalThreshold : UInt8
  witnessThreshold : UInt8
  countedApproverIds : List PrincipalId
  countedWitnessIds : List PrincipalId
  outcome : ReceiptOutcomeV1
  reason : WitnessReasonV1
  issuedAtMs : UInt64
  expiresAtMs : UInt64
  endpointAcknowledgement : Option ReceiptAcknowledgementV1
  endpointCompletion : Option ReceiptCompletionV1
deriving DecidableEq

namespace WitnessReceiptV1

def coreBytesUnchecked (receipt : WitnessReceiptV1) : Except WitnessProtocolErrorKind Bytes := do
  let approvals ← receipt.approvalDecisions.mapM (·.canonicalBytes)
  let decisions ← receipt.witnessDecisions.mapM (·.canonicalBytes)
  let checkpoint ← receipt.policyCheckpoint.canonicalBytes
  let publicScope ← receipt.publicScope.canonicalBytes
  let preimage ← orReject (bytesField receipt.requestSignaturePreimage.asBytes) .capacityExhausted
  let publicScope ← orReject (bytesField publicScope) .capacityExhausted
  let approvals ← orReject (listBytes approvals) .capacityExhausted
  let decisions ← orReject (listBytes decisions) .capacityExhausted
  let checkpoint ← orReject (bytesField checkpoint) .capacityExhausted
  let material ← orReject (bytesField receipt.witnessPolicyMaterial.asBytes) .capacityExhausted
  let approvers ← orReject (listFixed receipt.countedApproverIds (·.asBytes.bytes)) .capacityExhausted
  let witnesses ← orReject (listFixed receipt.countedWitnessIds (·.asBytes.bytes)) .capacityExhausted
  return u16be receipt.schema ++
    (receipt.receiptId.asBytes.bytes ++
    (preimage ++
    (receipt.clientSignature.bytes ++
    (receipt.requestDigest.bytes ++
    (receipt.actionManifestDigest.bytes ++
    (receipt.presentationDigest.bytes ++
    (publicScope ++
    (approvals ++
    (decisions ++
    (checkpoint ++
    (material ++
    (octets [receipt.approvalThreshold, receipt.witnessThreshold] ++
    (approvers ++
    (witnesses ++
    (octets [receipt.outcome.tag, receipt.reason.tag] ++
    (u64be receipt.issuedAtMs ++
    u64be receipt.expiresAtMs))))))))))))))))

def wellFormed (receipt : WitnessReceiptV1) : Bool :=
  receipt.schema == 1
    && receipt.requestSignaturePreimage.asBytes.length != 0
    && receipt.witnessPolicyMaterial.asBytes.length != 0
    && decide (receipt.approvalThreshold.toNat ≤ MAX_POLICY_ACTORS)
    && (decide (2 ≤ receipt.witnessThreshold.toNat) && decide (receipt.witnessThreshold.toNat ≤ MAX_POLICY_ACTORS))
    && decide (receipt.approvalDecisions.length ≤ MAX_RECORDED_APPROVALS)
    && decide (receipt.witnessDecisions.length ≤ MAX_POLICY_ACTORS)
    && decide (receipt.countedApproverIds.length ≤ MAX_POLICY_ACTORS)
    && decide (receipt.countedWitnessIds.length ≤ MAX_POLICY_ACTORS)
    && sortedByKey receipt.approvalDecisions (·.approverId)
    && sortedByKey receipt.witnessDecisions (·.witnessId)
    && strictlySortedUnique receipt.countedApproverIds
    && strictlySortedUnique receipt.countedWitnessIds
    && receipt.issuedAtMs != 0
    && receipt.expiresAtMs != 0
    && !(receipt.outcome == .approved && decide (receipt.expiresAtMs ≤ receipt.issuedAtMs))
    && receipt.outcome.matchesReason receipt.reason

variable [Crypto]

def validateAcknowledgement (receipt : WitnessReceiptV1) (coreDigest : Digest32)
    (acknowledgement : ReceiptAcknowledgementV1) : Except WitnessProtocolErrorKind Unit := do
  acknowledgement.validateShape
  rejectIf
    (acknowledgement.receiptId != receipt.receiptId
      || acknowledgement.receiptCoreDigest != coreDigest
      || acknowledgement.requestDigest != receipt.requestDigest)
    .invalidDigest

def validateCompletion (receipt : WitnessReceiptV1) (coreDigest : Digest32) (completion : ReceiptCompletionV1) :
    Except WitnessProtocolErrorKind Unit := do
  completion.validateShape
  let acknowledgementDigest ← receipt.endpointAcknowledgement.mapM (·.digest)
  rejectIf
    (completion.receiptId != receipt.receiptId
      || completion.receiptCoreDigest != coreDigest
      || completion.acknowledgementDigest != acknowledgementDigest
      || completion.outcome != receipt.outcome
      || completion.reason != receipt.reason)
    .invalidDigest

def validatedCore (receipt : WitnessReceiptV1) : Except WitnessProtocolErrorKind (Bytes × Digest32) := do
  rejectIf (!receipt.wellFormed) .invalidFormat
  let coreBytes ← receipt.coreBytesUnchecked
  let coreDigest ← hashBytes "jury-witness-v1/receipt/core-hash" coreBytes
  receipt.endpointAcknowledgement.forM (receipt.validateAcknowledgement coreDigest)
  receipt.endpointCompletion.forM (receipt.validateCompletion coreDigest)
  return (coreBytes, coreDigest)

def endpointRecords (receipt : WitnessReceiptV1) : Except WitnessProtocolErrorKind Bytes := do
  let acknowledgement ← receipt.endpointAcknowledgement.mapM (·.canonicalBytes)
  let completion ← receipt.endpointCompletion.mapM (·.canonicalBytes)
  let acknowledgement ← orReject (optionalBytes acknowledgement) .capacityExhausted
  let completion ← orReject (optionalBytes completion) .capacityExhausted
  return acknowledgement ++ completion

def validatedDigests (receipt : WitnessReceiptV1) : Except WitnessProtocolErrorKind (Digest32 × Digest32) := do
  let (coreBytes, coreDigest) ← receipt.validatedCore
  let records ← receipt.endpointRecords
  let completeDigest ← hashBytes "jury-witness-v1/receipt/hash" (coreBytes ++ records)
  return (coreDigest, completeDigest)

end WitnessReceiptV1

theorem listBytes_of_le {values : List Bytes} (hcount : values.length < 2 ^ 32) (hsize : size < 2 ^ 32)
    (h : ∀ value ∈ values, value.length ≤ size) :
    ∃ out, listBytes values = some out ∧ out.length ≤ 4 + values.length * (4 + size) := by
  suffices hfields : ∃ fields, values.mapM bytesField = some fields ∧
      (concat fields).length ≤ values.length * (4 + size) by
    obtain ⟨fields, hfields, hlen⟩ := hfields
    refine ⟨beBytes 4 values.length ++ concat fields, ?_, ?_⟩
    · simp only [listBytes, eq_some, lengthBe_eq_some]
      exact ⟨_, ⟨hcount, rfl⟩, fields, hfields, rfl⟩
    · rw [Bytes.length_append, length_beBytes]
      omega
  clear hcount
  induction values with
  | nil => exact ⟨[], rfl, by simp [concat]⟩
  | cons value rest ih =>
    obtain ⟨fields, hfields, hlen⟩ := ih fun value hvalue => h value (List.mem_cons_of_mem _ hvalue)
    have hvalue := h value List.mem_cons_self
    refine ⟨(beBytes 4 value.length ++ value) :: fields, ?_, ?_⟩
    · have hfirst : bytesField value = some (beBytes 4 value.length ++ value) :=
        bytesField_eq_some.mpr ⟨by omega, rfl⟩
      exact mapM_eq_some.mpr (.cons hfirst (mapM_eq_some.mp hfields))
    · simp only [concat, Bytes.length_append, length_beBytes, List.length_cons, Nat.succ_mul]
      omega

theorem listBytes_mapM {α : Type} {values : List α} {encode : α → Except WitnessProtocolErrorKind Bytes}
    (hcount : values.length < 2 ^ 32) (hsize : size < 2 ^ 32)
    (h : ∀ value ∈ values, ∃ bytes, encode value = .ok bytes ∧ bytes.length ≤ size) :
    ∃ encoded out, values.mapM encode = .ok encoded ∧ listBytes encoded = some out ∧
      out.length ≤ 4 + values.length * (4 + size) := by
  obtain ⟨encoded, hencoded⟩ := exists_mapM_eq_ok fun value hvalue => (h value hvalue).imp fun _ hbytes => hbytes.1
  have hpairs := mapM_eq_ok.mp hencoded
  have hbytes : ∀ bytes ∈ encoded, bytes.length ≤ size := by
    intro bytes hbytes
    obtain ⟨value, hvalue, hthis⟩ := forall₂_mem_right hpairs hbytes
    obtain ⟨_, hthat, hlen⟩ := h value hvalue
    obtain rfl := ok_unique hthis hthat
    exact hlen
  obtain ⟨out, hout, hlen⟩ := listBytes_of_le (hpairs.length_eq ▸ hcount) hsize hbytes
  exact ⟨encoded, out, hencoded, hout, hpairs.length_eq ▸ hlen⟩

theorem listFixed_identifiers (ids : List (Identifier kind)) (hcount : ids.length < 2 ^ 32) :
    ∃ out, listFixed ids (·.asBytes.bytes) = some out ∧ out.length = 4 + ids.length * 32 := by
  have hlen : (concat (ids.map (·.asBytes.bytes))).length = (ids.map (·.asBytes.bytes)).length * 32 := by
    refine length_concat fun bytes hbytes => ?_
    obtain ⟨id, -, rfl⟩ := List.mem_map.mp hbytes
    exact FixedBytes.length_bytes _
  refine ⟨beBytes 4 ids.length ++ concat (ids.map (·.asBytes.bytes)), ?_, ?_⟩
  · simp only [listFixed, eq_some, lengthBe_eq_some]
    exact ⟨_, ⟨hcount, rfl⟩, rfl⟩
  · rw [Bytes.length_append, length_beBytes, hlen, List.length_map]

theorem bytesField_of_lt (value : Bytes) (h : value.length < 2 ^ 32) :
    ∃ out, bytesField value = some out ∧ out.length = 4 + value.length :=
  ⟨_, bytesField_eq_some.mpr ⟨h, rfl⟩, rfl⟩

theorem ApprovalDecisionV1.length_fields_le (approval : ApprovalDecisionV1) : approval.fields.length ≤ 398 := by
  have htime := length_optionalU64_le approval.notBeforeMs
  simp only [fields, Bytes.length_append, length_u16be, length_u64be, length_octets, FixedBytes.length_bytes,
    List.length_cons, List.length_nil, ← Nat.add_assoc, Nat.reduceAdd]
  omega

theorem ApprovalDecisionV1.canonicalBytes_of_shape {approval : ApprovalDecisionV1}
    (h : approval.validateShape = .ok ()) : ∃ bytes, approval.canonicalBytes = .ok bytes ∧ bytes.length ≤ 462 := by
  have hfields := approval.length_fields_le
  have hlen : (approval.fields ++ approval.signature.bytes).length ≤ 462 := by
    rw [Bytes.length_append, FixedBytes.length_bytes]
    omega
  refine ⟨_, atMost_eq_ok.mpr ⟨signedBytes_eq_ok.mpr ⟨h, approval.fields, rfl, rfl⟩, ?_⟩, hlen⟩
  exact hlen.trans (by decide)

theorem WitnessDecisionV1.length_fields_le (decision : WitnessDecisionV1) : decision.fields.length ≤ 430 := by
  have hoptional : ∀ digest : Option Digest32, (optionalFixed (digest.map (·.bytes))).length ≤ 33 := by
    intro digest
    cases digest <;> simp [optionalFixed]
  have hcontrib := hoptional decision.contributionDigest
  have hcommit := hoptional decision.shareCommitment
  have hindex : (optionalU8 decision.shareIndex).length ≤ 2 := by
    cases decision.shareIndex <;> simp [optionalU8, optionalFixed]
  simp only [fields, Bytes.length_append, length_u16be, length_u64be, length_octets, FixedBytes.length_bytes,
    List.length_cons, List.length_nil, ← Nat.add_assoc, Nat.reduceAdd]
  omega

theorem WitnessDecisionV1.canonicalBytes_of_shape {decision : WitnessDecisionV1} (h : decision.validateShape = .ok ()) :
    ∃ bytes, decision.canonicalBytes = .ok bytes ∧ bytes.length ≤ 494 := by
  have hfields := decision.length_fields_le
  refine ⟨_, signedBytes_eq_ok.mpr ⟨h, decision.fields, rfl, rfl⟩, ?_⟩
  rw [Bytes.length_append, FixedBytes.length_bytes]
  omega

theorem VaultPolicyCheckpointV1.canonicalBytes_of_shape {checkpoint : VaultPolicyCheckpointV1}
    (h : checkpoint.validateShape = .ok ()) : ∃ bytes, checkpoint.canonicalBytes = .ok bytes ∧ bytes.length ≤ 400 := by
  refine ⟨_, signedBytes_eq_ok.mpr ⟨h, checkpoint.fields, rfl, rfl⟩, ?_⟩
  simp only [fields, Bytes.length_append, length_u16be, length_u64be, FixedBytes.length_bytes, Nat.reduceAdd,
    Nat.reduceLeDiff]

theorem PublicReceiptScopeV1.length_fields_le (scope : PublicReceiptScopeV1) : scope.fields.length ≤ 600 := by
  have htime := length_optionalU64_le scope.notBeforeMs
  simp only [fields, Bytes.length_append, length_u16be, length_u64be, length_octets, FixedBytes.length_bytes,
    List.length_cons, List.length_nil, ← Nat.add_assoc, Nat.reduceAdd]
  omega

namespace WitnessReceiptV1

structure WithinCapacity (receipt : WitnessReceiptV1) : Prop where
  approvals : receipt.approvalDecisions.length ≤ MAX_RECORDED_APPROVALS
  decisions : receipt.witnessDecisions.length ≤ MAX_POLICY_ACTORS
  approvers : receipt.countedApproverIds.length ≤ MAX_POLICY_ACTORS
  witnesses : receipt.countedWitnessIds.length ≤ MAX_POLICY_ACTORS

variable {receipt : WitnessReceiptV1}

theorem withinCapacity (h : receipt.wellFormed = true) : receipt.WithinCapacity := by
  simp only [wellFormed, holds, and_assoc] at h
  obtain ⟨-, -, -, -, -, -, happs, hdecisions, happrs, hwits, -⟩ := h
  exact ⟨happs, hdecisions, happrs, hwits⟩

structure Encodable (receipt : WitnessReceiptV1) : Prop where
  approvals : ∀ approval ∈ receipt.approvalDecisions, approval.validateShape = .ok ()
  decisions : ∀ decision ∈ receipt.witnessDecisions, decision.validateShape = .ok ()
  checkpoint : receipt.policyCheckpoint.validateShape = .ok ()
  scope : receipt.publicScope.canonicalBytes = .ok receipt.publicScope.fields

theorem coreBytesUnchecked_returns (hcapacity : receipt.WithinCapacity) (hparts : receipt.Encodable) :
    ∃ bytes, receipt.coreBytesUnchecked = .ok bytes ∧ bytes.length < 2 ^ 31 := by
  have hpreimageLength := receipt.requestSignaturePreimage.length_le
  have hmaterialLength := receipt.witnessPolicyMaterial.length_le
  have hscopeLength := receipt.publicScope.length_fields_le
  have hcapacityApprovals := hcapacity.approvals
  have hcapacityDecisions := hcapacity.decisions
  have hcapacityApprovers := hcapacity.approvers
  have hcapacityWitnesses := hcapacity.witnesses
  unfold MAX_RECORDED_APPROVALS at hcapacityApprovals
  unfold MAX_POLICY_ACTORS at hcapacityApprovals hcapacityDecisions hcapacityApprovers hcapacityWitnesses
  unfold MAX_REQUEST_BYTES at hpreimageLength
  obtain ⟨approvals, approvalList, happs, happrovalList, happrovalLength⟩ :=
    listBytes_mapM (by omega) (by omega) fun approval happ =>
      ApprovalDecisionV1.canonicalBytes_of_shape (hparts.approvals approval happ)
  obtain ⟨decisions, decisionList, hdecisions, hdecisionList, hdecisionLength⟩ :=
    listBytes_mapM (by omega) (by omega) fun decision hdec =>
      WitnessDecisionV1.canonicalBytes_of_shape (hparts.decisions decision hdec)
  obtain ⟨checkpoint, hckpt, hcheckpointLength⟩ :=
    VaultPolicyCheckpointV1.canonicalBytes_of_shape hparts.checkpoint
  obtain ⟨preimageField, hpre, hpreimageField⟩ :=
    bytesField_of_lt receipt.requestSignaturePreimage.asBytes (by omega)
  obtain ⟨scopeField, hscope, hscopeField⟩ := bytesField_of_lt receipt.publicScope.fields (by omega)
  obtain ⟨checkpointField, hcheckpointBytes, hcheckpointField⟩ := bytesField_of_lt checkpoint (by omega)
  obtain ⟨materialField, hmaterial, hmaterialField⟩ :=
    bytesField_of_lt receipt.witnessPolicyMaterial.asBytes (by omega)
  obtain ⟨approvers, happrs, happroversLength⟩ := listFixed_identifiers receipt.countedApproverIds (by omega)
  obtain ⟨witnesses, hwits, hwitnessesLength⟩ := listFixed_identifiers receipt.countedWitnessIds (by omega)
  simp only [coreBytesUnchecked, eq_ok]
  refine ⟨_, ⟨approvals, happs, decisions, hdecisions, checkpoint, hckpt, _, hparts.scope, preimageField,
    hpre, scopeField, hscope, approvalList, happrovalList, decisionList, hdecisionList, checkpointField,
    hcheckpointBytes, materialField, hmaterial, approvers, happrs, witnesses, hwits, rfl⟩, ?_⟩
  simp only [Bytes.length_append, length_u16be, length_u64be, length_octets, FixedBytes.length_bytes, List.length_cons,
    List.length_nil, ← Nat.add_assoc, Nat.reduceAdd]
  omega

variable [Crypto]

theorem hashBytes_of_lt (domain : String) {body : Bytes} (h : body.length < 2 ^ 32) :
    ∃ digest, hashBytes domain body = .ok digest := by
  obtain ⟨field, hfield, -⟩ := bytesField_of_lt body h
  simp only [hashBytes, eq_ok]
  exact ⟨_, field, hfield, rfl⟩

-- A well-formed receipt that no endpoint has signed yet has its digests.
theorem validatedDigests_returns (hformed : receipt.wellFormed = true) (hparts : receipt.Encodable)
    (hacknowledgement : receipt.endpointAcknowledgement = none) (hcompletion : receipt.endpointCompletion = none) :
    ∃ digests, receipt.validatedDigests = .ok digests := by
  obtain ⟨bytes, hbytes, hlen⟩ := coreBytesUnchecked_returns (withinCapacity hformed) hparts
  obtain ⟨coreDigest, hcore⟩ := hashBytes_of_lt "jury-witness-v1/receipt/core-hash" (hlen.trans (by decide))
  have hrecords : receipt.endpointRecords = .ok (u8 0 ++ u8 0) := by
    simp only [endpointRecords, hacknowledgement, hcompletion]
    rfl
  have hroom : (bytes ++ (u8 0 ++ u8 0)).length < 2 ^ 32 := by
    simp only [Bytes.length_append, length_u8]
    omega
  obtain ⟨digest, hdigest⟩ := hashBytes_of_lt "jury-witness-v1/receipt/hash" hroom
  have hvalidated : receipt.validatedCore = .ok (bytes, coreDigest) := by
    simp only [validatedCore, eq_ok, Bool.not_eq_false', hacknowledgement, hcompletion]
    exact ⟨(), hformed, bytes, hbytes, coreDigest, hcore, (), rfl, (), rfl, rfl⟩
  simp only [validatedDigests, eq_ok]
  exact ⟨_, _, hvalidated, _, hrecords, digest, hdigest, rfl⟩

end WitnessReceiptV1

end Jury.Protocol.Witness
