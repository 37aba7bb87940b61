import Jury.Policy.Replay.Recatalog
import Jury.Protocol.Vault.File

-- What the owner's signature over a genesis and the fingerprint of the genesis commit to, set against what replay
-- reads of it.
namespace Jury.Protocol.Vault

open Lib Protocol

theorem PrincipalKind.tag_inj {a b : PrincipalKind} : a.tag = b.tag ↔ a = b := by
  cases a <;> cases b <;> decide

theorem PrincipalDescriptorV1.canonicalBytes_inj {a b : PrincipalDescriptorV1}
    (h : a.canonicalBytes = b.canonicalBytes) : a = b := by
  simp only [canonicalBytes, canonicalBody, code_inj, PrincipalKind.tag_inj, FixedBytes.bytes_inj] at h
  cases a
  cases b
  simp_all

-- A statement without the manifest that it names by digest.
def SignedRolloverV1.withoutManifest (statement : SignedRolloverV1) : SignedRolloverV1 :=
  { statement with bootstrapManifest := none }

theorem SignedRolloverV1.signaturePreimage_inj {a b : SignedRolloverV1} (h : a.signaturePreimage = b.signaturePreimage)
    (hsig : a.signature = b.signature) : a.withoutManifest = b.withoutManifest := by
  obtain ⟨-, h⟩ := jce_append_inj (by decide) (by decide) h
  simp only [code_inj, FixedBytes.bytes_inj] at h
  cases a
  cases b
  simp_all [withoutManifest]

def SourceAttestationV1.withoutManifest : SourceAttestationV1 → SourceAttestationV1
  | legacyMigration sourceFormat migrationId finalLegacyAuditDigest terminalLegacyAuditMac =>
    legacyMigration sourceFormat migrationId finalLegacyAuditDigest terminalLegacyAuditMac
  | rollover statement => rollover statement.withoutManifest

theorem SourceAttestationV1.canonicalBytes_inj {a b : SourceAttestationV1} (ha : a.canonicalBytes = some bytes)
    (hb : b.canonicalBytes = some bytes) : a.withoutManifest = b.withoutManifest := by
  cases a with
  | legacyMigration =>
    cases b with
    | legacyMigration =>
      simp only [canonicalBytes, Option.some.injEq] at ha hb
      subst ha
      simp only [code_inj, FixedBytes.bytes_inj] at hb
      simp_all [withoutManifest]
    | rollover statement =>
      simp only [canonicalBytes, eq_some]
        at ha hb
      obtain ⟨field, -, rfl⟩ := hb
      simp [octets_cons_append] at ha
  | rollover statement =>
    simp only [canonicalBytes, eq_some] at ha
    obtain ⟨field, hfield, rfl⟩ := ha
    cases b with
    | legacyMigration =>
      simp only [canonicalBytes, Option.some.injEq] at hb
      simp [octets_cons_append] at hb
    | rollover other =>
      simp only [canonicalBytes, eq_some]
        at hb
      obtain ⟨otherField, hother, hb⟩ := hb
      simp only [code_inj, true_and] at hb
      obtain ⟨hpre, hsig⟩ := bytesField_append_inj hother hfield hb
      exact congrArg rollover (SignedRolloverV1.signaturePreimage_inj hpre.symm (FixedBytes.bytes_inj.mp hsig.symm))

-- What two geneses have in common that an owner's signature cannot tell apart. The suite is not among it.
structure SameSigned (a b : PolicyGenesisV1) : Prop where
  vaultId : a.vaultId = b.vaultId
  policySequence : a.policySequence = b.policySequence
  previousPolicyHash : a.previousPolicyHash = b.previousPolicyHash
  createdAtMs : a.createdAtMs = b.createdAtMs
  owner : a.owner = b.owner
  attestation : a.sourceAttestation.map (·.withoutManifest) = b.sourceAttestation.map (·.withoutManifest)

namespace PolicyGenesisV1

theorem signaturePreimage_inj {a b : PolicyGenesisV1} (ha : a.signaturePreimage = some preimage)
    (hb : b.signaturePreimage = some preimage) : SameSigned a b := by
  simp only [signaturePreimage, eq_some]
    at ha hb
  obtain ⟨source, hsource, owner, howner, field, hfield, rfl⟩ := ha
  obtain ⟨source', hsource', owner', howner', field', hfield', h⟩ := hb
  obtain ⟨-, h⟩ := jce_append_inj (by decide) (by decide) h
  simp only [code_inj] at h
  obtain ⟨hvault, hseq, hprev, hcreated, h⟩ := h
  obtain ⟨hdesc, h⟩ := bytesField_append_inj howner' howner h
  obtain ⟨rfl, -⟩ := optionalBytes_append_inj hfield' hfield h
  refine ⟨hvault.symm, hseq.symm, hprev.symm, hcreated.symm, (PrincipalDescriptorV1.canonicalBytes_inj hdesc).symm, ?_⟩
  exact optionMapM_agree (fun _ _ _ => SourceAttestationV1.canonicalBytes_inj) hsource hsource'

theorem fingerprintPreimage_eq_some {genesis : PolicyGenesisV1} :
    genesis.fingerprintPreimage = some preimage ↔ ∃ signed field, genesis.signaturePreimage = some signed ∧
      bytesField signed = some field ∧
      jce "jury-v1/policy-genesis/fingerprint" ++ (field ++ genesis.ownerSignature.bytes) = preimage := by
  simp only [fingerprintPreimage, eq_some]
  constructor
  · rintro ⟨signed, hsigned, field, hfield, heq⟩
    exact ⟨signed, field, hsigned, hfield, heq⟩
  · rintro ⟨signed, field, hsigned, hfield, heq⟩
    exact ⟨signed, hsigned, field, hfield, heq⟩

theorem fingerprintPreimage_inj {a b : PolicyGenesisV1} (ha : a.fingerprintPreimage = some preimage)
    (hb : b.fingerprintPreimage = some preimage) : SameSigned a b ∧ a.ownerSignature = b.ownerSignature := by
  obtain ⟨signed, field, hsigned, hfield, rfl⟩ := fingerprintPreimage_eq_some.mp ha
  obtain ⟨other, otherField, hother, hotherField, h⟩ := fingerprintPreimage_eq_some.mp hb
  obtain ⟨-, h⟩ := jce_append_inj (by decide) (by decide) h
  obtain ⟨rfl, hsig⟩ := bytesField_append_inj hotherField hfield h
  exact ⟨signaturePreimage_inj hsigned hother, (FixedBytes.bytes_inj.mp hsig).symm⟩

end PolicyGenesisV1

end Jury.Protocol.Vault

namespace Jury.Policy

open Lib Protocol Vault VaultFileV1

variable [Crypto] {catalog : BTreeMap Digest32 WitnessPolicy}

section Vault

variable {vault : VaultFileV1}

end Vault

end Jury.Policy

namespace Jury.Policy.Sample

open Lib Protocol Vault Protocol.Sample

end Jury.Policy.Sample
