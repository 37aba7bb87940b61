import Jury.Protocol.Witness.State

-- Exact messages: two values that are encoded by the same bytes are the same value. The comparisons of
-- encodings in the engine are therefore comparisons of values.
namespace Jury.Protocol.Witness

open Lib Protocol Vault

variable {fields : Except WitnessProtocolErrorKind Bytes}
variable {a anchor b : WitnessStateAnchorV1}

theorem signedBytes_eq_ok {signature : Signature64} :
    signedBytes shape fields signature = .ok bytes ↔
      shape = .ok () ∧ ∃ content, fields = .ok content ∧ content ++ signature.bytes = bytes := by
  simp [signedBytes, Unique.exists_iff]

theorem atMost_eq_ok : atMost maximum output = .ok bytes ↔ output = .ok bytes ∧ bytes.length ≤ maximum := by
  simp only [atMost, eq_ok, decide_eq_false_iff_not, not_lt]
  constructor
  · rintro ⟨_, hout, _, hlen, rfl⟩
    exact ⟨hout, hlen⟩
  · rintro ⟨hout, hlen⟩
    exact ⟨bytes, hout, (), hlen, rfl⟩

theorem VaultHighWatermarkV1.canonicalBytes_append_inj (a b : VaultHighWatermarkV1) (r s : Bytes)
    (h : a.canonicalBytes ++ r = b.canonicalBytes ++ s) : a = b ∧ r = s := by
  cases a
  cases b
  simp only [canonicalBytes, code_inj] at h
  simp_all

-- The fields of a signed record are a prefix code for all of it but the signature.
theorem WitnessStateAnchorV1.fields_append_inj (ha : a.fields = .ok x) (hb : b.fields = .ok y) (h : x ++ r = y ++ s) :
    b = { a with signature := b.signature } ∧ r = s := by
  simp only [fields, eq_ok] at ha hb
  obtain ⟨u, hu, rfl⟩ := ha
  obtain ⟨v, hv, rfl⟩ := hb
  simp only [code_inj] at h
  obtain ⟨hschema, hwitness, hfp, hepoch, hgen, hdigest, h⟩ := h
  obtain ⟨hwatermarks, h⟩ := listFixed_append_inj VaultHighWatermarkV1.canonicalBytes_append_inj hu hv h
  simp only [FixedBytes.append_inj, u64be_append_inj] at h
  cases a
  cases b
  simp_all

theorem WitnessStateAnchorV1.canonicalBytes_inj
    (ha : a.canonicalBytes = .ok bytes) (hb : b.canonicalBytes = .ok bytes) : a = b := by
  simp only [canonicalBytes, signedBytes_eq_ok] at ha hb
  obtain ⟨-, x, hx, rfl⟩ := ha
  obtain ⟨-, y, hy, h⟩ := hb
  obtain ⟨hfields, hsig⟩ := fields_append_inj hx hy h.symm
  rw [hfields, ← FixedBytes.bytes_inj.mp hsig]

theorem signedPreimage_eq_ok :
    signedPreimage shape domain fields = .ok preimage ↔
      shape = .ok () ∧ ∃ content, fields = .ok content ∧ jce domain ++ content = preimage := by
  simp [signedPreimage, Unique.exists_iff]

theorem WitnessStateAnchorV1.length_fields (h : anchor.fields = .ok content) :
    content.length = 174 + anchor.vaultHighWatermarks.length * 112 := by
  simp only [fields, eq_ok, listFixed, eq_some, lengthBe_eq_some] at h
  obtain ⟨_, ⟨_, ⟨-, rfl⟩, rfl⟩, rfl⟩ := h
  have hwatermarks : (concat (anchor.vaultHighWatermarks.map (·.canonicalBytes))).length =
      (anchor.vaultHighWatermarks.map (·.canonicalBytes)).length * 112 := by
    refine length_concat fun bytes hbytes => ?_
    obtain ⟨watermark, -, rfl⟩ := List.mem_map.mp hbytes
    simp [VaultHighWatermarkV1.canonicalBytes]
  simp only [Bytes.length_append, length_u16be, length_u64be, length_beBytes, FixedBytes.length_bytes, hwatermarks,
    List.length_map]
  omega

theorem WitnessStateAnchorV1.digest_of_fields [Crypto]
    (hshape : anchor.validateShape = .ok ()) (hfields : anchor.fields = .ok content)
    (hroom : 215 + anchor.vaultHighWatermarks.length * 112 < 2 ^ 32) : ∃ digest, anchor.digest = .ok digest := by
  have hdomain : (jce "jury-witness-v1/state-anchor/signature").length = 41 := by decide
  have hlen := anchor.length_fields hfields
  have hpre : anchor.signaturePreimage = .ok (jce "jury-witness-v1/state-anchor/signature" ++ content) :=
    signedPreimage_eq_ok.mpr ⟨hshape, content, hfields, rfl⟩
  obtain ⟨field, hfield⟩ : ∃ field, bytesField (jce "jury-witness-v1/state-anchor/signature" ++ content) = some field := by
    refine ⟨_, bytesField_eq_some.mpr ⟨?_, rfl⟩⟩
    rw [Bytes.length_append, hdomain, hlen]
    omega
  simp only [digest, hpre, hashSigned, eq_ok, Except.ok.injEq]
  exact ⟨_, _, rfl, field, hfield, rfl⟩

theorem WitnessVaultStateV1.le_length_canonicalBytes {vault : WitnessVaultStateV1}
    (h : vault.canonicalBytes = .ok bytes) : 78 + vault.currentCheckpoint.asBytes.length ≤ bytes.length := by
  simp only [canonicalBytes, eq_ok, bytesField_eq_some] at h
  obtain ⟨_, -, _, ⟨-, rfl⟩, _, ⟨-, rfl⟩, _, ⟨-, rfl⟩, rfl⟩ := h
  simp only [Bytes.length_append, length_u16be, length_beBytes, FixedBytes.length_bytes]
  omega

theorem WitnessDatabaseStateV1.le_length_canonicalBody {database : WitnessDatabaseStateV1}
    (h : database.canonicalBody = .ok body)
    (hsize : ∀ vault ∈ database.vaultStates, size ≤ vault.currentCheckpoint.asBytes.length) :
    database.vaultStates.length * (78 + size) ≤ body.length := by
  simp only [canonicalBody, eq_ok] at h
  obtain ⟨_, -, vaults, hvaults, _, -, field, hfield, _, -, rfl⟩ := h
  have hvaults := mapM_eq_ok.mp hvaults
  have hlen : vaults.length * (78 + size) ≤ field.length := by
    refine le_length_listBytes hfield fun bytes hbytes => ?_
    obtain ⟨vault, hvault, hencoded⟩ := forall₂_mem_right hvaults hbytes
    have hckpt := hsize vault hvault
    have hvault := vault.le_length_canonicalBytes hencoded
    omega
  rw [hvaults.length_eq]
  simp only [Bytes.length_append]
  omega

theorem IntendedWitnessV1.canonicalBytes_append_inj (a b : IntendedWitnessV1) (r s : Bytes)
    (h : a.canonicalBytes ++ r = b.canonicalBytes ++ s) : a = b ∧ r = s := by
  cases a
  cases b
  simp only [canonicalBytes, code_inj] at h
  simp_all

theorem itemAccessMode_tag_inj {a b : ItemAccessMode} : a.tag = b.tag ↔ a = b := by
  cases a <;> cases b <;> decide

theorem contentRole_tag_inj {a b : ContentRole} : a.tag = b.tag ↔ a = b := by
  cases a <;> cases b <;> decide

theorem accessRole_tag_inj {a b : AccessRole} : a.tag = b.tag ↔ a = b := by
  cases a <;> cases b <;> decide

theorem WitnessOperationV1.tag_inj {a b : WitnessOperationV1} : a.tag = b.tag ↔ a = b := by
  cases a <;> cases b <;> decide

theorem ApprovalModeV1.tag_inj {a b : ApprovalModeV1} : a.tag = b.tag ↔ a = b := by
  cases a <;> cases b <;> decide

theorem ApprovalDecisionKindV1.tag_inj {a b : ApprovalDecisionKindV1} : a.tag = b.tag ↔ a = b := by
  cases a <;> cases b <;> decide

-- Reasons are numbered in their order, so a reason can be read back from its number.
def WitnessReasonV1.ofTag (tag : UInt8) : WitnessReasonV1 :=
  [none, policyDenied, missingApproval, approvalDenied, approvalConflict, stalePolicy, witnessBehind,
    checkpointFork, replayConflict, expired, notYetValid, cancelled, wrongScope, wrongOperation,
    workloadExceeded, directDowngrade, invalid, unsupportedVersion, invalidSignature, invalidContribution,
    insufficientQuorum, unavailable, unsafeClock, anchorConflict, capacityExhausted, restoredStateUnsafe,
    internalFailure, cancellationTooLate].getD tag.toNat none

theorem WitnessReasonV1.ofTag_tag (reason : WitnessReasonV1) : ofTag reason.tag = reason := by
  cases reason <;> rfl

theorem WitnessReasonV1.tag_inj {a b : WitnessReasonV1} : a.tag = b.tag ↔ a = b :=
  ⟨fun h => by rw [← ofTag_tag a, ← ofTag_tag b, h], fun h => h ▸ rfl⟩

theorem WitnessRequestV1.fields_append_inj {a b : WitnessRequestV1} (ha : a.fields = .ok x)
    (hb : b.fields = .ok y) (h : x ++ r = y ++ s) : b = { a with clientSignature := b.clientSignature } ∧ r = s := by
  simp only [fields, eq_ok] at ha hb
  obtain ⟨u, hu, rfl⟩ := ha
  obtain ⟨v, hv, rfl⟩ := hb
  simp only [code_inj, optionalU64_append_inj, itemAccessMode_tag_inj, contentRole_tag_inj, accessRole_tag_inj,
    WitnessOperationV1.tag_inj] at h
  iterate 33 obtain ⟨_, h⟩ := h
  obtain ⟨hwits, hrest⟩ := listFixed_append_inj IntendedWitnessV1.canonicalBytes_append_inj hu hv h
  cases a
  cases b
  simp_all

theorem WitnessRequestV1.canonicalBytes_inj [Crypto] {a b : WitnessRequestV1}
    (ha : a.canonicalBytes = .ok bytes) (hb : b.canonicalBytes = .ok bytes) : a = b := by
  simp only [canonicalBytes, atMost_eq_ok, signedBytes_eq_ok] at ha hb
  obtain ⟨⟨-, x, hx, rfl⟩, -⟩ := ha
  obtain ⟨⟨-, y, hy, h⟩, -⟩ := hb
  obtain ⟨hfields, hsig⟩ := fields_append_inj hx hy h.symm
  rw [hfields, ← FixedBytes.bytes_inj.mp hsig]

theorem ApprovalDecisionV1.fields_append_inj {a b : ApprovalDecisionV1} (h : a.fields ++ r = b.fields ++ s) :
    b = { a with signature := b.signature } ∧ r = s := by
  simp only [fields, code_inj, optionalU64_append_inj, ApprovalModeV1.tag_inj, ApprovalDecisionKindV1.tag_inj,
    WitnessReasonV1.tag_inj] at h
  cases a
  cases b
  simp_all

theorem ApprovalDecisionV1.canonicalBytes_inj {a b : ApprovalDecisionV1}
    (ha : a.canonicalBytes = .ok bytes) (hb : b.canonicalBytes = .ok bytes) : a = b := by
  simp only [canonicalBytes, atMost_eq_ok, signedBytes_eq_ok, Except.ok.injEq] at ha hb
  obtain ⟨⟨-, _, rfl, rfl⟩, -⟩ := ha
  obtain ⟨⟨-, _, rfl, h⟩, -⟩ := hb
  obtain ⟨hfields, hsig⟩ := fields_append_inj h.symm
  rw [hfields, ← FixedBytes.bytes_inj.mp hsig]

end Jury.Protocol.Witness
