import Jury.Engine.Validation
import Jury.Policy.Replay.Active
import Jury.Protocol.Witness.Encoding

-- Checkpoints as an owner makes them from a policy state.
namespace Jury.Client

open Lib Protocol Vault Witness Policy Engine

inductive WitnessRequestErrorKind where
  | invalidInput
  | invalidPresentation
  | wrongIdentity
  | stalePolicy
  | entropyUnavailable
  | protectionUnavailable
  | providerFailure
deriving DecidableEq

-- An unlocked identity of a vault principal; its key operations can fail.
structure VaultPrincipalIdentity where
  principalId : PrincipalId
  publicDescriptor : Option PrincipalDescriptorV1
  signValidatedStatement : Bytes → Option Signature64

variable [Crypto]

def VaultPolicyCheckpointCreator.create (policy : PolicyState) (predecessorCheckpointDigest : Digest32)
    (owner : VaultPrincipalIdentity) (issuedAtMs : UInt64) :
    Except WitnessRequestErrorKind VaultPolicyCheckpointV1 := do
  rejectIf (issuedAtMs == 0 || !policy.owners.contains owner.principalId) .wrongIdentity
  let ownerDescriptor ← orReject owner.publicDescriptor .providerFailure
  rejectIf (policy.principals[owner.principalId]?.all fun principal => principal.descriptor != ownerDescriptor)
    .wrongIdentity
  let activeWitnessPolicySetDigest ← policy.activeWitnessPolicySetDigest.mapError fun _ => .invalidInput
  let checkpoint : VaultPolicyCheckpointV1 := {
    schema := 1
    vaultId := policy.vaultId
    genesisFingerprint := policy.genesisFingerprint
    vaultPolicySequence := policy.sequence
    vaultPolicyHash := policy.terminalRevisionHash
    activeWitnessPolicySetDigest
    predecessorCheckpointDigest
    issuedAtMs
    issuerOwnerId := owner.principalId
    issuerKeyFingerprint := signingKeyFingerprint 1 owner.principalId 1 ownerDescriptor.verificationPublicKey
    issuerKeyEpoch := 1
    signature := NO_SIGNATURE }
  let preimage ← checkpoint.signaturePreimage.mapError fun _ => .invalidInput
  let signature ← orReject (owner.signValidatedStatement preimage) .providerFailure
  let checkpoint := { checkpoint with signature }
  let _ ← (validateCheckpointPublic policy checkpoint).mapError fun _ => .invalidInput
  return checkpoint

structure OwnerOf (state : PolicyState) (identity : VaultPrincipalIdentity) : Prop where
  owner : identity.principalId ∈ state.owners
  current : ∃ principal, state.principals[identity.principalId]? = some principal ∧
    identity.publicDescriptor = some principal.descriptor ∧
    ∀ message, ∃ signature, identity.signValidatedStatement message = some signature ∧
      verifyBytes principal.descriptor.verificationPublicKey message signature = true

variable {state : PolicyState} {checkpoint : VaultPolicyCheckpointV1}

theorem validateCheckpointPolicy_sequence (h : validateCheckpointPolicy state checkpoint = .ok policies) :
    state.sequence ≠ 0 := by
  simp only [validateCheckpointPolicy, VaultPolicyCheckpointV1.validateShape, eq_ok, passed, beq_eq_false_iff_ne] at h
  obtain ⟨-, ⟨⟨⟨-, hseq⟩, -⟩, -⟩, -, ⟨⟨-, hscope⟩, -⟩, -⟩ := h
  exact hscope ▸ hseq

theorem validateCheckpointPolicy_returns
    (hset : state.activeWitnessPolicySetDigest = .ok checkpoint.activeWitnessPolicySetDigest)
    (hscope : checkpoint.vaultId = state.vaultId ∧ checkpoint.genesisFingerprint = state.genesisFingerprint ∧
      checkpoint.vaultPolicySequence = state.sequence ∧ checkpoint.vaultPolicyHash = state.terminalRevisionHash)
    (howner : checkpoint.issuerOwnerId ∈ state.owners)
    (hprin : state.principals[checkpoint.issuerOwnerId]? = some principal)
    (hkey : checkpoint.issuerKeyEpoch = 1 ∧ checkpoint.issuerKeyFingerprint =
      signingKeyFingerprint 1 checkpoint.issuerOwnerId 1 principal.descriptor.verificationPublicKey)
    (hpre : checkpoint.signaturePreimage = .ok preimage)
    (hsigned : verifyBytes principal.descriptor.verificationPublicKey preimage checkpoint.signature = true) :
    ∃ policies, validateCheckpointPolicy state checkpoint = .ok policies := by
  have hshape : checkpoint.validateShape = .ok () := (signedPreimage_eq_ok.mp hpre).1
  simp only [PolicyState.activeWitnessPolicySetDigest, eq_ok] at hset
  obtain ⟨entries, hents, hset⟩ := hset
  obtain ⟨hvault, hgen, hseq, hhash⟩ := hscope
  refine ⟨entries.map (·.2), ?_⟩
  simp only [validateCheckpointPolicy, eq_ok]
  refine ⟨(), hshape, (), ?_, entries, hents, _, hset, (), ?_, principal, ?_, (), ?_, preimage, hpre, (), ?_,
    rfl⟩
  · simp [hvault, hgen, hseq, hhash]
  · simp
  · simp [hprin, Std.ExtTreeSet.contains_iff_mem.mpr howner]
  · simp [hkey.1, hkey.2]
  · simp [hsigned]

theorem validateCheckpointPolicy_activeSet (h : validateCheckpointPolicy state checkpoint = .ok policies) :
    ∃ digest, state.activeWitnessPolicySetDigest = .ok digest := by
  simp only [validateCheckpointPolicy, eq_ok] at h
  obtain ⟨-, -, -, -, entries, hents, digest, hdigest, -⟩ := h
  refine ⟨digest, ?_⟩
  simp only [PolicyState.activeWitnessPolicySetDigest, eq_ok]
  exact ⟨entries, hents, hdigest⟩

theorem create_returns {identity : VaultPrincipalIdentity} (howner : OwnerOf state identity)
    (hissued : issuedAtMs ≠ 0) (hseq : state.sequence ≠ 0)
    (hset : state.activeWitnessPolicySetDigest = .ok setDigest) :
    ∃ checkpoint policies,
      VaultPolicyCheckpointCreator.create state predecessor identity issuedAtMs = .ok checkpoint ∧
      validateCheckpointPolicy state checkpoint = .ok policies := by
  obtain ⟨principal, hprin, hdesc, hsigns⟩ := howner.current
  let unsigned : VaultPolicyCheckpointV1 := {
    schema := 1
    vaultId := state.vaultId
    genesisFingerprint := state.genesisFingerprint
    vaultPolicySequence := state.sequence
    vaultPolicyHash := state.terminalRevisionHash
    activeWitnessPolicySetDigest := setDigest
    predecessorCheckpointDigest := predecessor
    issuedAtMs
    issuerOwnerId := identity.principalId
    issuerKeyFingerprint :=
      signingKeyFingerprint 1 identity.principalId 1 principal.descriptor.verificationPublicKey
    issuerKeyEpoch := 1
    signature := NO_SIGNATURE }
  have hshape : unsigned.validateShape = .ok () := by
    simp [unsigned, VaultPolicyCheckpointV1.validateShape, hissued, hseq]
  obtain ⟨preimage, hpre⟩ : ∃ preimage, unsigned.signaturePreimage = .ok preimage :=
    ⟨_, signedPreimage_eq_ok.mpr ⟨hshape, _, rfl, rfl⟩⟩
  obtain ⟨signature, hsig, hver⟩ := hsigns preimage
  obtain ⟨policies, hacc⟩ : ∃ policies, validateCheckpointPolicy state { unsigned with signature } = .ok policies :=
    validateCheckpointPolicy_returns hset ⟨rfl, rfl, rfl, rfl⟩ howner.owner hprin ⟨rfl, rfl⟩ hpre hver
  refine ⟨{ unsigned with signature }, policies, ?_, hacc⟩
  simp only [VaultPolicyCheckpointCreator.create, eq_ok]
  refine ⟨(), ?_, principal.descriptor, hdesc, (), ?_, setDigest, hset, preimage, hpre, signature, hsig,
    policies, ?_, rfl⟩
  · simp [hissued, Std.ExtTreeSet.contains_iff_mem.mpr howner.owner]
  · simp [hprin]
  · simpa [validateCheckpointPublic] using hacc

-- The set of policies in use can be computed and an owner can sign an accepted checkpoint exactly when
-- there has been a revision and the policies in use agree with the history and with each other.
theorem checkpoint_signed_iff (policy : ReplayedPolicy) (identity : VaultPrincipalIdentity) (predecessor : Digest32)
    (issuedAtMs : UInt64) (howner : OwnerOf policy.state identity) (hissued : issuedAtMs ≠ 0) :
    ((∃ digest, policy.state.activeWitnessPolicySetDigest = .ok digest) ∧
      ∃ checkpoint policies,
        VaultPolicyCheckpointCreator.create policy.state predecessor identity issuedAtMs = .ok checkpoint ∧
        validateCheckpointPolicy policy.state checkpoint = .ok policies) ↔
      policy.journal.revisions ≠ [] ∧ ActivePoliciesAgree policy.state := by
  have hseq : policy.state.sequence ≠ 0 ↔ policy.journal.revisions ≠ [] := by
    have hlen := policy.sequence_toNat
    rw [ne_eq, ne_eq, ← UInt64.toNat_inj, hlen, UInt64.toNat_zero, List.length_eq_zero_iff]
  constructor
  · rintro ⟨hset, checkpoint, policies, -, hacc⟩
    exact ⟨hseq.mp (validateCheckpointPolicy_sequence hacc), policy.activeSet_returns_iff.mp hset⟩
  · rintro ⟨hrevs, hagree⟩
    obtain ⟨digest, hset⟩ := policy.activeSet_returns_iff.mpr hagree
    exact ⟨⟨digest, hset⟩, create_returns howner hissued (hseq.mpr hrevs) hset⟩

end Jury.Client

namespace Jury.Client.Sample

open Lib Protocol Vault Policy Engine Protocol.Sample Policy.Sample

def identity (byte : UInt8) : VaultPrincipalIdentity where
  principalId := identifier .principal byte
  publicDescriptor := some (descriptor .human byte)
  signValidatedStatement message := some (sign (verificationKey byte) message)

theorem ownerOf_identity : OwnerOf policy.state (identity 1) := by
  have howner : policy.state.owners.contains (identifier .principal 1) = true := by decide +kernel
  have hcur : (policy.state.principals[identifier .principal 1]?.map (·.descriptor)) =
      some (descriptor .human 1) := by decide +kernel
  obtain ⟨principal, hprin, hdesc⟩ := Option.map_eq_some_iff.mp hcur
  refine ⟨Std.ExtTreeSet.contains_iff_mem.mp howner, principal, hprin, by rw [hdesc]; rfl, ?_⟩
  intro message
  refine ⟨sign (verificationKey 1) message, rfl, ?_⟩
  rw [hdesc]
  exact beq_self_eq_true _

theorem checkpoint_signed_sample :
    OwnerOf policy.state (identity 1) ∧ ∃ checkpoint policies,
      VaultPolicyCheckpointCreator.create policy.state ZERO_DIGEST (identity 1) 2000 = .ok checkpoint ∧
      validateCheckpointPolicy policy.state checkpoint = .ok policies := by
  have hset : policy.state.activeWitnessPolicySetDigest.isOk = true := by decide +kernel
  have hrevs : policy.journal.revisions ≠ [] := by decide +kernel
  have hagree := policy.activeSet_returns_iff.mp (exists_eq_ok_of_isOk hset)
  refine ⟨ownerOf_identity, ?_⟩
  exact ((checkpoint_signed_iff policy (identity 1) ZERO_DIGEST 2000 ownerOf_identity (by decide)).mpr
    ⟨hrevs, hagree⟩).2

-- A policy that is not bound to the history of the vault it is used in.
def unboundPolicy : WitnessPolicy := { witnessPolicy with vaultPolicyHash := ZERO_DIGEST }

def unboundJournal : PolicyJournalV1 :=
  extend founded [unboundPolicy] 1 1002 [
    .ownerRevoke (identifier .principal 2),
    .principalAdd (descriptor .approver 3) "approver" ZERO_DIGEST,
    .principalAdd (descriptor .approver 4) "approver" ZERO_DIGEST,
    .principalAdd (descriptor .witness 5) "witness" ZERO_DIGEST,
    .principalAdd (descriptor .witness 6) "witness" ZERO_DIGEST,
    .itemCreate witnessedItem .canonical 1 (metadata 1 1 1) (FixedBytes.replicate 32 7) []
      (some (Sealing.state ⟨witnessedItem, 1, .witnessedOnly, unboundPolicy, 10⟩))]

-- Replay accepts the revision that binds an item to it, and no checkpoint of the state is accepted.
theorem checkpoint_impossible :
    ∃ state, replayPolicyWithWitnessPolicies unboundJournal [unboundPolicy] = .ok state ∧ state.sequence = 2 ∧
      state.activeWitnessPolicySetDigest = .error .invalidAncestry ∧
      ∀ checkpoint policies, validateCheckpointPolicy state checkpoint ≠ .ok policies := by
  have hreplayed : Returns (replayPolicyWithWitnessPolicies unboundJournal [unboundPolicy]) (fun state =>
      state.sequence == 2 && decide (state.activeWitnessPolicySetDigest = .error .invalidAncestry)) = true := by
    decide +kernel
  obtain ⟨state, hstate, hchecked⟩ := returns_iff.mp hreplayed
  simp only [holds] at hchecked
  refine ⟨state, hstate, hchecked.1, hchecked.2, fun checkpoint policies hacc => ?_⟩
  obtain ⟨digest, hdigest⟩ := validateCheckpointPolicy_activeSet hacc
  rw [hchecked.2] at hdigest
  cases hdigest

end Jury.Client.Sample
