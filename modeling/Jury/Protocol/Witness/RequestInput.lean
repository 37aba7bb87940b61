import Jury.Lib.Reader
import Jury.Protocol.Witness.Encoding

-- Reading a request back from the bytes its signature covers. A receipt carries a request in that form
-- only, so whoever checks the receipt reads it with `fromSignaturePreimage`. The reader takes the
-- fields in the order in which `fields` writes them and at the end writes the request again and
-- compares; what it accepts is the preimage of what it returns.
namespace Jury.Protocol.Witness

open Lib Protocol Vault Reader

def itemAccessModeFromTag : UInt8 → Option ItemAccessMode
  | 1 => some .directOnly
  | 2 => some .witnessedOnly
  | 3 => some .mixed
  | _ => none

def contentRoleFromTag : UInt8 → Option ContentRole
  | 1 => some .descriptor
  | 2 => some .body
  | _ => none

def accessRoleFromTag : UInt8 → Option AccessRole
  | 1 => some .reader
  | 2 => some .writer
  | 3 => some .owner
  | _ => none

def witnessOperationFromTag : UInt8 → Option WitnessOperationV1
  | 1 => some .readStdout
  | 2 => some .writePrivateFile
  | 3 => some .templateInjection
  | 4 => some .childEnvironment
  | 5 => some .childStdin
  | 6 => some .itemMutation
  | 7 => some .backup
  | 8 => some .recovery
  | 9 => some .administrativeRekey
  | _ => none

@[simp] theorem itemAccessModeFromTag_tag (mode : ItemAccessMode) : itemAccessModeFromTag mode.tag = some mode := by
  cases mode <;> rfl

@[simp] theorem contentRoleFromTag_tag (role : ContentRole) : contentRoleFromTag role.tag = some role := by
  cases role <;> rfl

@[simp] theorem accessRoleFromTag_tag (role : AccessRole) : accessRoleFromTag role.tag = some role := by
  cases role <;> rfl

@[simp] theorem witnessOperationFromTag_tag (operation : WitnessOperationV1) :
    witnessOperationFromTag operation.tag = some operation := by
  cases operation <;> rfl

abbrev CanonicalInput := Reader WitnessProtocolErrorKind

namespace CanonicalInput

def domain (expected : String) : CanonicalInput Unit := do
  let bytes ← Reader.take .invalidFormat (jce expected).length
  liftM (rejectIf (bytes.bytes != jce expected) WitnessProtocolErrorKind.invalidFormat)

def u8 : CanonicalInput UInt8 := UInt8.ofNat <$> Reader.number .invalidFormat 1

def u16 : CanonicalInput UInt16 := UInt16.ofNat <$> Reader.number .invalidFormat 2

def u32 : CanonicalInput UInt32 := UInt32.ofNat <$> Reader.number .invalidFormat 4

def u64 : CanonicalInput UInt64 := UInt64.ofNat <$> Reader.number .invalidFormat 8

def optionalU64 : CanonicalInput (Option UInt64) := do
  match ← u8 with
  | 0 => return none
  | 1 => some <$> u64
  | _ => throw .invalidFormat

def fixed (n : Nat) : CanonicalInput (FixedBytes n) := Reader.take .invalidFormat n

def identifier {kind : IdentifierKind} : CanonicalInput (Identifier kind) := do
  let bytes ← Reader.take .invalidFormat 32
  liftM ((Identifier.fromBytes bytes).mapError fun _ => WitnessProtocolErrorKind.invalidFormat)

def tagged {α : Type} (fromTag : UInt8 → Option α) : CanonicalInput α := do
  liftM (orReject (fromTag (← u8)) WitnessProtocolErrorKind.invalidFormat)

def length (maximum : Nat) : CanonicalInput Nat := do
  let length := (← u32).toNat
  liftM (rejectIf (decide (length > maximum)) WitnessProtocolErrorKind.capacityExhausted)
  return length

def finish : CanonicalInput Unit := fun bytes => do
  rejectIf (bytes.length != 0) .invalidFormat
  return ((), bytes)

variable {α β : Type}

theorem run_map {reader : CanonicalInput α} {f : α → β} (h : reader.run bytes = .ok (a, rest)) :
    (f <$> reader).run bytes = .ok (f a, rest) := by
  rw [StateT.run_map, h]
  rfl

theorem run_liftM {x : Except WitnessProtocolErrorKind α} {a : α} (h : x = .ok a) (bytes : Bytes) :
    (liftM x : CanonicalInput α).run bytes = .ok (a, bytes) := by
  rw [h]
  rfl

theorem run_domain (expected : String) (rest : Bytes) : (domain expected).run (jce expected ++ rest) = .ok ((), rest) := by
  have htake := run_take WitnessProtocolErrorKind.invalidFormat
    (⟨jce expected, rfl⟩ : FixedBytes (jce expected).length) rest
  rw [domain, run_bind htake]
  exact run_liftM (by simp) rest

theorem run_u8 (value : UInt8) (rest : Bytes) : u8.run (Lib.u8 value ++ rest) = .ok (value, rest) := by
  have hcode : Lib.u8 value = beBytes 1 value.toNat := Bytes.ext rfl (Nat.mod_eq_of_lt value.toNat_lt).symm
  rw [hcode, u8, run_map (run_number _ value.toNat_lt rest), UInt8.ofNat_toNat]

theorem run_u16 (value : UInt16) (rest : Bytes) : u16.run (u16be value ++ rest) = .ok (value, rest) := by
  rw [u16be, u16, run_map (run_number _ value.toNat_lt rest), UInt16.ofNat_toNat]

theorem run_u64 (value : UInt64) (rest : Bytes) : u64.run (u64be value ++ rest) = .ok (value, rest) := by
  rw [u64be, u64, run_map (run_number _ value.toNat_lt rest), UInt64.ofNat_toNat]

theorem run_optionalU64 (value : Option UInt64) (rest : Bytes) :
    optionalU64.run (Lib.optionalU64 value ++ rest) = .ok (value, rest) := by
  cases value with
  | none => exact run_bind (run_u8 0 rest)
  | some number =>
    rw [Lib.optionalU64, Option.map_some, optionalFixed, Bytes.append_assoc, optionalU64, run_bind (run_u8 1 _)]
    exact run_map (run_u64 number rest)

theorem run_fixed (value : FixedBytes n) (rest : Bytes) : (fixed n).run (value.bytes ++ rest) = .ok (value, rest) :=
  run_take _ value rest

theorem run_identifier (value : Identifier kind) (rest : Bytes) :
    identifier.run (value.asBytes.bytes ++ rest) = .ok (value, rest) := by
  rw [identifier, run_bind (run_take _ value.asBytes rest)]
  refine run_liftM ?_ rest
  rw [mapError_eq_ok, Identifier.fromBytes, dif_neg value.nonzero]

theorem run_tagged {fromTag : UInt8 → Option α} (htag : fromTag tag = some value) (rest : Bytes) :
    (tagged fromTag).run (Lib.u8 tag ++ rest) = .ok (value, rest) := by
  rw [tagged, run_bind (run_u8 tag rest)]
  exact run_liftM (orReject_eq_ok.mpr htag) rest

theorem run_length {maximum count : Nat} (hcount : count ≤ maximum) (hrange : count < 2 ^ 32) (rest : Bytes) :
    (length maximum).run (beBytes 4 count ++ rest) = .ok (count, rest) := by
  have hread : u32.run (beBytes 4 count ++ rest) = .ok (UInt32.ofNat count, rest) :=
    run_map (run_number _ (by omega) rest)
  have hnumber : (UInt32.ofNat count).toNat = count := UInt32.toNat_ofNat_of_lt' hrange
  rw [length, run_bind hread, hnumber, run_bind (run_liftM (rejectIf_eq_ok (u := ()).mpr (by simpa using hcount)) rest)]
  rfl

theorem run_finish : finish.run ∅ = .ok ((), ∅) := rfl

end CanonicalInput

open CanonicalInput in
def IntendedWitnessV1.read : CanonicalInput IntendedWitnessV1 := do
  let witnessId ← identifier
  let shareIndex ← u8
  let signingKeyFingerprint ← fixed 32
  let contributionKeyFingerprint ← fixed 32
  return { witnessId, shareIndex, signingKeyFingerprint, contributionKeyFingerprint }

theorem IntendedWitnessV1.run_read (witness : IntendedWitnessV1) (rest : Bytes) :
    read.run (witness.canonicalBytes ++ rest) = .ok (witness, rest) := by
  simp only [read, canonicalBytes, code_inj, run_bind (CanonicalInput.run_identifier _ _),
    run_bind (CanonicalInput.run_u8 _ _), run_bind (CanonicalInput.run_fixed _ _), run_pure]

theorem length_optionalU64_le (value : Option UInt64) : (optionalU64 value).length ≤ 9 := by
  cases value <;> simp [optionalU64, optionalFixed]

namespace WitnessRequestV1

open CanonicalInput in
def read (clientSignature : Signature64) : CanonicalInput WitnessRequestV1 := do
  domain "jury-witness-v1/request/signature"
  let schema ← u16
  let protocolVersion ← u16
  let construction ← u16
  let requestId ← identifier
  let clientNonce ← identifier
  let vaultId ← identifier
  let genesisFingerprint ← fixed 32
  let itemId ← identifier
  let keyEpoch ← u64
  let itemAccessMode ← tagged itemAccessModeFromTag
  let slotId ← identifier
  let contentRole ← tagged contentRoleFromTag
  let revision ← u64
  let revisionSealId ← identifier
  let vaultPolicySequence ← u64
  let vaultPolicyHash ← fixed 32
  let policyCheckpointDigest ← fixed 32
  let witnessPolicyId ← identifier
  let witnessPolicyRevision ← u64
  let witnessPolicyDigest ← fixed 32
  let requesterPrincipalId ← identifier
  let requesterSigningKeyFingerprint ← fixed 32
  let requesterSigningKeyEpoch ← u64
  let requestedAccessRole ← tagged accessRoleFromTag
  let operation ← tagged witnessOperationFromTag
  let approvalTargetDigest ← fixed 32
  let actionManifestDigest ← fixed 32
  let workloadDigest ← fixed 32
  let issuedAtMs ← u64
  let notBeforeMs ← optionalU64
  let expiresAtMs ← u64
  let requestSessionPublicKey ← fixed 1216
  let requestSessionKeyFingerprint ← fixed 32
  let witnessCount ← length MAX_POLICY_ACTORS
  let intendedWitnessSet ← Reader.many IntendedWitnessV1.read witnessCount
  finish
  return {
    schema, protocolVersion, construction, requestId, clientNonce, vaultId, genesisFingerprint, itemId, keyEpoch,
    itemAccessMode, slotId, contentRole, revision, revisionSealId, vaultPolicySequence, vaultPolicyHash,
    policyCheckpointDigest, witnessPolicyId, witnessPolicyRevision, witnessPolicyDigest, requesterPrincipalId,
    requesterSigningKeyFingerprint, requesterSigningKeyEpoch, requestedAccessRole, operation, approvalTargetDigest,
    actionManifestDigest, workloadDigest, issuedAtMs, notBeforeMs, expiresAtMs, requestSessionPublicKey,
    requestSessionKeyFingerprint, intendedWitnessSet, clientSignature }

variable {request : WitnessRequestV1}

-- The reader meets the fields in the order in which they were written.
theorem run_read (hfields : request.fields = .ok content)
    (hcount : request.intendedWitnessSet.length ≤ MAX_POLICY_ACTORS) :
    (read request.clientSignature).run (jce "jury-witness-v1/request/signature" ++ content) = .ok (request, ∅) := by
  simp only [fields, eq_ok, listFixed, eq_some, lengthBe_eq_some] at hfields
  obtain ⟨_, ⟨_, ⟨hrange, rfl⟩, rfl⟩, rfl⟩ := hfields
  have hwits : (many IntendedWitnessV1.read request.intendedWitnessSet.length).run
      (concat (request.intendedWitnessSet.map (·.canonicalBytes))) = .ok (request.intendedWitnessSet, ∅) := by
    rw [← Bytes.append_empty (concat _)]
    exact run_many (fun witness _ rest => IntendedWitnessV1.run_read witness rest) ∅
  simp only [read, octets_cons_append, octets_nil_append, run_bind (CanonicalInput.run_domain _ _),
    run_bind (CanonicalInput.run_u16 _ _), run_bind (CanonicalInput.run_u64 _ _),
    run_bind (CanonicalInput.run_identifier _ _), run_bind (CanonicalInput.run_fixed _ _),
    run_bind (CanonicalInput.run_optionalU64 _ _),
    run_bind (CanonicalInput.run_tagged (itemAccessModeFromTag_tag _) _),
    run_bind (CanonicalInput.run_tagged (contentRoleFromTag_tag _) _),
    run_bind (CanonicalInput.run_tagged (accessRoleFromTag_tag _) _),
    run_bind (CanonicalInput.run_tagged (witnessOperationFromTag_tag _) _),
    run_bind (CanonicalInput.run_length hcount hrange _), run_bind hwits,
    run_bind CanonicalInput.run_finish, run_pure]

theorem length_fields_le (h : request.fields = .ok content) :
    content.length ≤ 1979 + request.intendedWitnessSet.length * 97 := by
  have htime := length_optionalU64_le request.notBeforeMs
  simp only [fields, eq_ok, listFixed, eq_some, lengthBe_eq_some] at h
  obtain ⟨_, ⟨_, ⟨-, rfl⟩, rfl⟩, rfl⟩ := h
  have hwits : (concat (request.intendedWitnessSet.map (·.canonicalBytes))).length =
      (request.intendedWitnessSet.map (·.canonicalBytes)).length * 97 := by
    refine length_concat fun bytes hbytes => ?_
    obtain ⟨witness, -, rfl⟩ := List.mem_map.mp hbytes
    simp [IntendedWitnessV1.canonicalBytes]
  simp only [Bytes.length_append, length_u16be, length_u64be, length_octets, length_beBytes, FixedBytes.length_bytes,
    hwits, List.length_map, List.length_cons, List.length_nil, ← Nat.add_assoc, Nat.reduceAdd]
  omega

variable [Crypto]

def fromSignaturePreimage (preimage : Bytes) (clientSignature : Signature64) :
    Except WitnessProtocolErrorKind WitnessRequestV1 := do
  rejectIf (decide (preimage.length > MAX_REQUEST_BYTES)) .capacityExhausted
  let (request, _) ← (read clientSignature).run preimage
  let written ← request.signaturePreimage
  rejectIf (written != preimage) .invalidFormat
  return request

theorem length_intendedWitnessSet (h : request.validateShape = .ok ()) :
    request.intendedWitnessSet.length ≤ MAX_POLICY_ACTORS := by
  simp only [validateShape, rejectIf_eq_ok, passed] at h
  omega

-- Thirty-two witnesses of 97 bytes each fit.
theorem length_signaturePreimage (h : request.signaturePreimage = .ok preimage) :
    preimage.length ≤ MAX_REQUEST_BYTES := by
  obtain ⟨hshape, content, hfields, rfl⟩ := signedPreimage_eq_ok.mp h
  have hdomain : (jce "jury-witness-v1/request/signature").length = 36 := by decide
  have hcount := length_intendedWitnessSet hshape
  have hcontent := length_fields_le hfields
  rw [Bytes.length_append, hdomain]
  unfold MAX_POLICY_ACTORS at hcount
  unfold MAX_REQUEST_BYTES
  omega

theorem fromSignaturePreimage_signaturePreimage (h : request.signaturePreimage = .ok preimage) :
    fromSignaturePreimage preimage request.clientSignature = .ok request := by
  have hlen := length_signaturePreimage h
  obtain ⟨hshape, content, hfields, rfl⟩ := signedPreimage_eq_ok.mp h
  have hcount := length_intendedWitnessSet hshape
  simp only [fromSignaturePreimage, eq_ok, bne_eq_false_iff_eq]
  exact ⟨(), by simpa using hlen, (request, ∅), run_read hfields hcount, _, h, (), rfl, rfl⟩

-- Where a request has a tag or the marker of an optional value, and what may stand there.
def tagPositions : List (Nat × (UInt8 → Bool)) :=
  [(210, fun tag => (itemAccessModeFromTag tag).isSome), (243, fun tag => (contentRoleFromTag tag).isSome),
    (500, fun tag => (accessRoleFromTag tag).isSome), (501, fun tag => (witnessOperationFromTag tag).isSome),
    (606, fun marker => marker == 0 || marker == 1)]

theorem signaturePreimage_of_shape (h : request.validateShape = .ok ()) :
    ∃ preimage, request.signaturePreimage = .ok preimage := by
  have hcount := length_intendedWitnessSet h
  have hrange : request.intendedWitnessSet.length < 2 ^ 32 := hcount.trans_lt (by decide)
  obtain ⟨content, hfields⟩ : ∃ content, request.fields = .ok content := by
    simp only [fields, eq_ok, listFixed, eq_some, lengthBe_eq_some]
    exact ⟨_, _, ⟨_, ⟨hrange, rfl⟩, rfl⟩, rfl⟩
  exact ⟨_, signedPreimage_eq_ok.mpr ⟨h, content, hfields, rfl⟩⟩

-- The signature is not among the bytes: a request under another signature has the same preimage.
theorem fromSignaturePreimage_resigned (h : request.signaturePreimage = .ok preimage) (signature : Signature64) :
    fromSignaturePreimage preimage signature = .ok { request with clientSignature := signature } := by
  have hsame : ({ request with clientSignature := signature } : WitnessRequestV1).signaturePreimage = .ok preimage := h
  have hread := fromSignaturePreimage_signaturePreimage hsame
  exact hread

theorem fromSignaturePreimage_eq_ok (h : fromSignaturePreimage preimage signature = .ok request) :
    request.signaturePreimage = .ok preimage ∧ request.clientSignature = signature := by
  have hresult := h
  simp only [fromSignaturePreimage, eq_ok, bne_eq_false_iff_eq] at h
  obtain ⟨_, -, ⟨found, _⟩, -, written, hwritten, _, rfl, rfl⟩ := h
  have hagain := fromSignaturePreimage_resigned hwritten signature
  exact ⟨hwritten, congrArg clientSignature (ok_unique hresult hagain)⟩

theorem tagPositions_known (h : request.signaturePreimage = .ok preimage) :
    ∀ position ∈ tagPositions, ∃ tag, preimage.toList[position.1]? = some tag ∧ position.2 tag = true := by
  obtain ⟨-, content, hfields, rfl⟩ := signedPreimage_eq_ok.mp h
  clear h
  have hdomain : (jce "jury-witness-v1/request/signature").length = 36 := by decide
  simp only [fields, eq_ok] at hfields
  obtain ⟨_, -, rfl⟩ := hfields
  simp only [tagPositions, List.forall_mem_cons, List.not_mem_nil, false_imp_iff, implies_true, and_true]
  refine ⟨⟨request.itemAccessMode.tag, ?_, by simp⟩, ⟨request.contentRole.tag, ?_, by simp⟩,
    ⟨request.requestedAccessRole.tag, ?_, by simp⟩, ⟨request.operation.tag, ?_, by simp⟩,
    ⟨if request.notBeforeMs.isSome then 1 else 0, ?_, by split <;> rfl⟩⟩
  all_goals simp only [octets_cons_append, octets_nil_append]
  · iterate 10 rw [Bytes.toList_append_right (by simp [hdomain])]
    simp [hdomain, toList_u8_append]
  · iterate 12 rw [Bytes.toList_append_right (by simp [hdomain])]
    simp [hdomain, toList_u8_append]
  · iterate 24 rw [Bytes.toList_append_right (by simp [hdomain])]
    simp [hdomain, toList_u8_append]
  · iterate 25 rw [Bytes.toList_append_right (by simp [hdomain])]
    simp [hdomain, toList_u8_append]
  · iterate 30 rw [Bytes.toList_append_right (by simp [hdomain])]
    cases request.notBeforeMs <;> simp [hdomain, optionalU64, optionalFixed, Bytes.append_assoc, toList_u8_append]

theorem request_codec_bijective :
    (∀ (request : WitnessRequestV1) (signature : Signature64), request.validateShape = .ok () →
      ∃ preimage, request.signaturePreimage = .ok preimage ∧
        fromSignaturePreimage preimage signature = .ok { request with clientSignature := signature }) ∧
    ∀ (preimage : Bytes) (signature : Signature64) (request : WitnessRequestV1),
      fromSignaturePreimage preimage signature = .ok request →
        request.validateShape = .ok () ∧ request.clientSignature = signature ∧
        request.signaturePreimage = .ok preimage ∧
        (∀ extra other value, fromSignaturePreimage (preimage ++ extra) other = .ok value → extra = ∅) ∧
        ∀ position ∈ tagPositions, ∃ tag, preimage.toList[position.1]? = some tag ∧ position.2 tag = true := by
  refine ⟨fun request signature hshape => ?_, fun preimage signature request h => ?_⟩
  · obtain ⟨preimage, hpre⟩ := signaturePreimage_of_shape hshape
    exact ⟨preimage, hpre, fromSignaturePreimage_resigned hpre signature⟩
  · obtain ⟨hpre, hsig⟩ := fromSignaturePreimage_eq_ok h
    obtain ⟨hshape, content, hfields, hbytes⟩ := signedPreimage_eq_ok.mp hpre
    refine ⟨hshape, hsig, hpre, fun extra other value hlonger => ?_, tagPositions_known hpre⟩
    obtain ⟨hother, -⟩ := fromSignaturePreimage_eq_ok hlonger
    obtain ⟨-, longer, hlfields, hlbytes⟩ := signedPreimage_eq_ok.mp hother
    rw [← hbytes, Bytes.append_assoc, Bytes.append_inj_iff rfl] at hlbytes
    obtain ⟨-, hrest⟩ := fields_append_inj hlfields hfields ((Bytes.append_empty longer).trans hlbytes.2)
    exact hrest.symm

end WitnessRequestV1

end Jury.Protocol.Witness
