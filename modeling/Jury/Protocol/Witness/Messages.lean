import Jury.Protocol.Witness.Encoding
import Jury.Protocol.Witness.Presentation
import Jury.Protocol.Witness.Rotation

-- The signed messages of the witness protocol side by side: what a signature is made over can be read as one message
-- of one kind only.
namespace Jury.Protocol.Witness

open Lib Protocol

theorem CancellerRoleV1.tag_inj {a b : CancellerRoleV1} : a.tag = b.tag ↔ a = b := by
  cases a <;> cases b <;> decide

theorem WitnessDecisionKindV1.tag_inj {a b : WitnessDecisionKindV1} : a.tag = b.tag ↔ a = b := by
  cases a <;> cases b <;> decide

theorem PresentationSubjectV1.tag_inj {a b : PresentationSubjectV1} : a.tag = b.tag ↔ a = b := by
  cases a <;> cases b <;> decide

theorem WitnessRotationReasonV1.tag_inj {a b : WitnessRotationReasonV1} : a.tag = b.tag ↔ a = b := by
  cases a <;> cases b <;> decide

theorem RequestCancellationV1.fields_append_inj {a b : RequestCancellationV1} (ha : a.fields = .ok x)
    (hb : b.fields = .ok y) (h : x ++ r = y ++ s) : b = { a with signature := b.signature } ∧ r = s := by
  simp only [fields, eq_ok] at ha hb
  obtain ⟨u, hu, rfl⟩ := ha
  obtain ⟨v, hv, rfl⟩ := hb
  simp only [code_inj] at h
  obtain ⟨hschema, hid, h⟩ := h
  obtain ⟨hpre, h⟩ := bytesField_append_inj hu hv h
  simp only [code_inj, CancellerRoleV1.tag_inj, WitnessReasonV1.tag_inj] at h
  have hembedded := BoundedBytes.ext hpre
  cases a
  cases b
  simp_all

theorem VaultPolicyCheckpointV1.fields_append_inj {a b : VaultPolicyCheckpointV1} (h : a.fields ++ r = b.fields ++ s) :
    b = { a with signature := b.signature } ∧ r = s := by
  simp only [fields, code_inj] at h
  cases a
  cases b
  simp_all

theorem WitnessDecisionV1.fields_append_inj {a b : WitnessDecisionV1} (h : a.fields ++ r = b.fields ++ s) :
    b = { a with signature := b.signature } ∧ r = s := by
  simp only [fields, code_inj, optionalDigest_append_inj, optionalU8_append_inj, WitnessDecisionKindV1.tag_inj,
    WitnessReasonV1.tag_inj] at h
  cases a
  cases b
  simp_all

theorem OwnerReviewLabelV1.fields_append_inj {a b : OwnerReviewLabelV1} (ha : a.fields = .ok x)
    (hb : b.fields = .ok y) (h : x ++ r = y ++ s) : b = { a with signature := b.signature } ∧ r = s := by
  simp only [fields, eq_ok] at ha hb
  obtain ⟨u, hu, rfl⟩ := ha
  obtain ⟨v, hv, rfl⟩ := hb
  simp only [code_inj, optionalDigest_append_inj, Identifier.optional_append_inj, PresentationSubjectV1.tag_inj] at h
  obtain ⟨hschema, hid, hrev, hkind, hvault, hgen, hitem, hfield, hcommit, h⟩ := h
  obtain ⟨hlabel, h⟩ := bytesField_append_inj hu hv h
  simp only [code_inj, optionalU64_append_inj] at h
  have hpublic := BoundedBytes.ext hlabel
  cases a
  cases b
  simp_all

theorem WitnessRotationItemV1.canonicalBytes_inj {a b : WitnessRotationItemV1} (ha : a.canonicalBytes = .ok bytes)
    (hb : b.canonicalBytes = .ok bytes) : a = b := by
  simp only [canonicalBytes, eq_ok] at ha hb
  obtain ⟨-, -, rfl⟩ := ha
  obtain ⟨-, -, h⟩ := hb
  simp only [code_inj, FixedBytes.bytes_inj] at h
  cases a
  cases b
  simp_all

theorem rotationItems_inj {as bs : List WitnessRotationItemV1} (ha : as.mapM (·.canonicalBytes) = .ok encoded)
    (hb : bs.mapM (·.canonicalBytes) = .ok encoded) : as = bs := by
  replace ha := mapM_eq_ok.mp ha
  replace hb := mapM_eq_ok.mp hb
  induction ha generalizing bs with
  | nil =>
    cases hb
    rfl
  | cons hfirst _ ih =>
    cases hb with
    | cons hother hrest => rw [WitnessRotationItemV1.canonicalBytes_inj hfirst hother, ih hrest]

theorem WitnessPolicyRotationV1.fields_append_inj {a b : WitnessPolicyRotationV1} (ha : a.fields = .ok x)
    (hb : b.fields = .ok y) (h : x ++ r = y ++ s) : b = { a with signature := b.signature } ∧ r = s := by
  simp only [fields, eq_ok] at ha hb
  obtain ⟨us, hus, u, hu, rfl⟩ := ha
  obtain ⟨vs, hvs, v, hv, rfl⟩ := hb
  simp only [code_inj, WitnessRotationReasonV1.tag_inj] at h
  iterate 15 obtain ⟨_, h⟩ := h
  obtain ⟨rfl, h⟩ := listBytes_append_inj hu hv h
  have hitems := rotationItems_inj hus hvs
  simp only [code_inj] at h
  cases a
  cases b
  simp_all

theorem WitnessRecoveryV1.fields_append_inj {a b : WitnessRecoveryV1} (ha : a.fields = .ok x) (hb : b.fields = .ok y)
    (h : x ++ r = y ++ s) : b = { a with signature := b.signature } ∧ r = s := by
  simp only [fields, eq_ok] at ha hb
  obtain ⟨u, hu, rfl⟩ := ha
  obtain ⟨v, hv, rfl⟩ := hb
  simp only [code_inj, Identifier.optional_append_inj] at h
  obtain ⟨hschema, hid, hvault, hgen, hprior, h⟩ := h
  obtain ⟨hdesc, h⟩ := bytesField_append_inj hu hv h
  simp only [code_inj] at h
  have hbytes := BoundedBytes.ext hdesc
  cases a
  cases b
  simp_all

inductive SignedMessageKind where
  | request
  | approval
  | cancellation
  | checkpoint
  | decision
  | reviewLabel
  | rotation
  | recovery
  | stateAnchor
deriving DecidableEq

def SignedMessageKind.domain : SignedMessageKind → String
  | request => "jury-witness-v1/request/signature"
  | approval => "jury-witness-v1/approval-decision/signature"
  | cancellation => "jury-witness-v1/cancellation/signature"
  | checkpoint => "jury-witness-v1/checkpoint/signature"
  | decision => "jury-witness-v1/decision/signature"
  | reviewLabel => "jury-witness-v1/review-label/signature"
  | rotation => "jury-witness-v1/rotation/signature"
  | recovery => "jury-witness-v1/recovery/signature"
  | stateAnchor => "jury-witness-v1/state-anchor/signature"

theorem SignedMessageKind.domain_inj {a b : SignedMessageKind} (h : a.domain = b.domain) : a = b := by
  revert h
  cases a <;> cases b <;> decide

-- No domain holds the byte that ends a domain.
theorem SignedMessageKind.domain_terminated (kind : SignedMessageKind) : 0 ∉ kind.domain.toUTF8.data.toList := by
  cases kind <;> decide

inductive SignedMessage where
  | request (message : WitnessRequestV1)
  | approval (message : ApprovalDecisionV1)
  | cancellation (message : RequestCancellationV1)
  | checkpoint (message : VaultPolicyCheckpointV1)
  | decision (message : WitnessDecisionV1)
  | reviewLabel (message : OwnerReviewLabelV1)
  | rotation (message : WitnessPolicyRotationV1)
  | recovery (message : WitnessRecoveryV1)
  | stateAnchor (message : WitnessStateAnchorV1)
deriving DecidableEq

namespace SignedMessage

def kind : SignedMessage → SignedMessageKind
  | request _ => .request
  | approval _ => .approval
  | cancellation _ => .cancellation
  | checkpoint _ => .checkpoint
  | decision _ => .decision
  | reviewLabel _ => .reviewLabel
  | rotation _ => .rotation
  | recovery _ => .recovery
  | stateAnchor _ => .stateAnchor

def signature : SignedMessage → Signature64
  | request message => message.clientSignature
  | approval message => message.signature
  | cancellation message => message.signature
  | checkpoint message => message.signature
  | decision message => message.signature
  | reviewLabel message => message.signature
  | rotation message => message.signature
  | recovery message => message.signature
  | stateAnchor message => message.signature

def withSignature (signature : Signature64) : SignedMessage → SignedMessage
  | request message => request { message with clientSignature := signature }
  | approval message => approval { message with signature }
  | cancellation message => cancellation { message with signature }
  | checkpoint message => checkpoint { message with signature }
  | decision message => decision { message with signature }
  | reviewLabel message => reviewLabel { message with signature }
  | rotation message => rotation { message with signature }
  | recovery message => recovery { message with signature }
  | stateAnchor message => stateAnchor { message with signature }

def fields : SignedMessage → Except WitnessProtocolErrorKind Bytes
  | request message => message.fields
  | approval message => .ok message.fields
  | cancellation message => message.fields
  | checkpoint message => .ok message.fields
  | decision message => .ok message.fields
  | reviewLabel message => message.fields
  | rotation message => message.fields
  | recovery message => message.fields
  | stateAnchor message => message.fields

theorem fields_inj {a b : SignedMessage} (hkind : a.kind = b.kind) (ha : a.fields = .ok content)
    (hb : b.fields = .ok content) : b = a.withSignature b.signature := by
  have hend : content ++ (∅ : Bytes) = content ++ ∅ := rfl
  cases a <;> cases b <;> simp only [kind, reduceCtorEq] at hkind
  case request.request => exact congrArg request (WitnessRequestV1.fields_append_inj ha hb hend).1
  case approval.approval =>
    have hcontent := Except.ok.inj (ha.trans hb.symm)
    exact congrArg approval (ApprovalDecisionV1.fields_append_inj (congrArg (· ++ ∅) hcontent)).1
  case cancellation.cancellation => exact congrArg cancellation (RequestCancellationV1.fields_append_inj ha hb hend).1
  case checkpoint.checkpoint =>
    have hcontent := Except.ok.inj (ha.trans hb.symm)
    exact congrArg checkpoint (VaultPolicyCheckpointV1.fields_append_inj (congrArg (· ++ ∅) hcontent)).1
  case decision.decision =>
    have hcontent := Except.ok.inj (ha.trans hb.symm)
    exact congrArg decision (WitnessDecisionV1.fields_append_inj (congrArg (· ++ ∅) hcontent)).1
  case reviewLabel.reviewLabel => exact congrArg reviewLabel (OwnerReviewLabelV1.fields_append_inj ha hb hend).1
  case rotation.rotation => exact congrArg rotation (WitnessPolicyRotationV1.fields_append_inj ha hb hend).1
  case recovery.recovery => exact congrArg recovery (WitnessRecoveryV1.fields_append_inj ha hb hend).1
  case stateAnchor.stateAnchor => exact congrArg stateAnchor (WitnessStateAnchorV1.fields_append_inj ha hb hend).1

variable [Crypto]

def signaturePreimage : SignedMessage → Except WitnessProtocolErrorKind Bytes
  | request message => message.signaturePreimage
  | approval message => message.signaturePreimage
  | cancellation message => message.signaturePreimage
  | checkpoint message => message.signaturePreimage
  | decision message => message.signaturePreimage
  | reviewLabel message => message.signaturePreimage
  | rotation message => message.signaturePreimage
  | recovery message => message.signaturePreimage
  | stateAnchor message => message.signaturePreimage

theorem signaturePreimage_eq_ok {message : SignedMessage} (h : message.signaturePreimage = .ok preimage) :
    ∃ content, message.fields = .ok content ∧ jce message.kind.domain ++ content = preimage := by
  cases message <;> exact (signedPreimage_eq_ok.mp h).2

theorem signaturePreimage_inj {a b : SignedMessage} (ha : a.signaturePreimage = .ok preimage)
    (hb : b.signaturePreimage = .ok preimage) : b = a.withSignature b.signature := by
  obtain ⟨content, hcontent, rfl⟩ := signaturePreimage_eq_ok ha
  obtain ⟨other, hother, h⟩ := signaturePreimage_eq_ok hb
  obtain ⟨hdomain, rfl⟩ := jce_append_inj b.kind.domain_terminated a.kind.domain_terminated h
  exact fields_inj (SignedMessageKind.domain_inj hdomain).symm hcontent hother

end SignedMessage

def RequestCancellationV1.Embeds [Crypto] (cancellation : RequestCancellationV1) (request : WitnessRequestV1) : Prop :=
  request.signaturePreimage = .ok cancellation.requestSignaturePreimage.asBytes ∧
    request.clientSignature = cancellation.clientSignature

theorem signed_message_unambiguous [Crypto] (a b : SignedMessage) (preimage : Bytes)
    (ha : a.signaturePreimage = .ok preimage) (hb : b.signaturePreimage = .ok preimage) :
    a.kind = b.kind ∧ b = a.withSignature b.signature ∧
    ∀ first second request other, a = .cancellation first → b = .cancellation second → first.Embeds request →
      second.Embeds other → request = other := by
  have hsame := SignedMessage.signaturePreimage_inj ha hb
  refine ⟨?_, hsame, ?_⟩
  · rw [hsame]
    cases a <;> rfl
  · rintro first second request other rfl rfl ⟨hrequest, hsig⟩ ⟨hother, hothers⟩
    have hcanc : second = { first with signature := second.signature } :=
      SignedMessage.cancellation.inj hsame
    rw [hcanc] at hother hothers
    have hembedded : SignedMessage.request other = .request { request with clientSignature := other.clientSignature } :=
      SignedMessage.signaturePreimage_inj (a := .request request) (b := .request other) hrequest hother
    rw [SignedMessage.request.inj hembedded, hothers, ← hsig]

end Jury.Protocol.Witness

namespace Jury.Protocol.Witness.Sample

open Lib Protocol Vault Protocol.Sample

def intendedWitness (byte : UInt8) : IntendedWitnessV1 where
  witnessId := identifier .principal byte
  shareIndex := byte
  signingKeyFingerprint := FixedBytes.replicate 32 byte
  contributionKeyFingerprint := FixedBytes.replicate 32 byte

def request : WitnessRequestV1 where
  schema := 1
  protocolVersion := PROTOCOL_VERSION
  construction := CONSTRUCTION
  requestId := identifier .request 1
  clientNonce := identifier .request 2
  vaultId := identifier .vault 1
  genesisFingerprint := FixedBytes.replicate 32 1
  itemId := identifier .item 1
  keyEpoch := 1
  itemAccessMode := .witnessedOnly
  slotId := identifier .slot 1
  contentRole := .body
  revision := 1
  revisionSealId := identifier .revisionSeal 1
  vaultPolicySequence := 1
  vaultPolicyHash := FixedBytes.replicate 32 2
  policyCheckpointDigest := FixedBytes.replicate 32 3
  witnessPolicyId := identifier .witnessPolicy 1
  witnessPolicyRevision := 1
  witnessPolicyDigest := FixedBytes.replicate 32 4
  requesterPrincipalId := identifier .principal 1
  requesterSigningKeyFingerprint := FixedBytes.replicate 32 5
  requesterSigningKeyEpoch := 1
  requestedAccessRole := .reader
  operation := .readStdout
  approvalTargetDigest := FixedBytes.replicate 32 6
  actionManifestDigest := FixedBytes.replicate 32 7
  workloadDigest := FixedBytes.replicate 32 8
  issuedAtMs := 1000
  notBeforeMs := none
  expiresAtMs := 2000
  requestSessionPublicKey := FixedBytes.replicate 1216 9
  requestSessionKeyFingerprint := recipientPublicKeyFingerprint (FixedBytes.replicate 1216 9)
  intendedWitnessSet := [intendedWitness 1, intendedWitness 2]
  clientSignature := FixedBytes.replicate 64 1

def embedded : RequestBytes :=
  ((BoundedBytes.new MAX_REQUEST_BYTES (request.signaturePreimage.toOption.getD ∅)).toOption).getD ⟨∅, by decide⟩

def cancellation (byte : UInt8) : RequestCancellationV1 where
  schema := 1
  cancellationId := identifier .cancellation 1
  requestSignaturePreimage := embedded
  clientSignature := request.clientSignature
  requestId := request.requestId
  requestDigest := FixedBytes.replicate 32 1
  cancellerId := request.requesterPrincipalId
  cancellerKeyFingerprint := request.requesterSigningKeyFingerprint
  cancellerKeyEpoch := 1
  cancellerRole := .originalRequester
  issuedAtMs := 1500
  reason := .cancelled
  nonce := identifier .cancellation 2
  signature := FixedBytes.replicate 64 byte

theorem cancellation_unambiguous :
    (cancellation 1).Embeds request ∧
      ∀ other, (cancellation 2).Embeds other → request = other := by
  obtain ⟨preimage, hfirst, hsecond⟩ := returns_iff.mp
    (by decide +kernel : Returns (cancellation 1).signaturePreimage (fun preimage =>
      decide ((cancellation 2).signaturePreimage = .ok preimage)) = true)
  have hembeds : (cancellation 1).Embeds request := ⟨by decide +kernel, rfl⟩
  refine ⟨hembeds, fun other hother => ?_⟩
  exact (signed_message_unambiguous (.cancellation (cancellation 1)) (.cancellation (cancellation 2)) preimage hfirst
    (of_decide_eq_true hsecond)).2.2 _ _ _ _ rfl rfl hembeds hother

end Jury.Protocol.Witness.Sample
