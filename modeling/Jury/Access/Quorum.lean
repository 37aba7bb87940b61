import Jury.Access.Witnessed

-- What the answers of the witnesses come to. In whatever order they arrive, the first approval of every witness is
-- counted, and the good shares with the lowest indexes are the ones that are combined.
namespace Jury.Access

open Lib Protocol Vault Witness Policy LocalState Engine List

variable {shareIndex : UInt8} {response : WitnessResponseV1}
variable {descriptor : WitnessPolicyDescriptor} {checkpoint : VaultPolicyCheckpointV1} {request : WitnessRequestV1}
variable {manifest : ActionManifestV1} {validated : ValidatedRequestPolicy} {threshold : Nat}
variable {provider : WitnessedItemAccessProvider}

section Gather

def approves (valid : WitnessResponseV1 → Bool) (response : WitnessResponseV1) : Bool :=
  valid response && response.decision.decision == .approve

-- The first approval that carries a share index, behind its place in the list.
def countedAt (valid : WitnessResponseV1 → Bool) (entries : List (WitnessResponseV1 × Nat)) (shareIndex : UInt8) :
    Option (Nat × WitnessResponseV1) :=
  (entries.find? fun entry => approves valid entry.1 && entry.1.decision.shareIndex == some shareIndex).map Prod.swap

structure GatheredFrom (valid : WitnessResponseV1 → Bool) (entries : List (WitnessResponseV1 × Nat))
    (gathered : Gathered) : Prop where
  approved : ∀ shareIndex, gathered.approved[shareIndex]? = countedAt valid entries shareIndex
  witnesses : ∀ witness, witness ∈ gathered.approvedWitnesses ↔
    ∃ entry ∈ entries, approves valid entry.1 = true ∧ entry.1.decision.witnessId = witness

variable {entry : WitnessResponseV1 × Nat}

theorem GatheredFrom.report (h : GatheredFrom valid entries gathered) (status : WitnessedAccessStatus) :
    GatheredFrom valid entries (gathered.report status) := ⟨h.approved, h.witnesses⟩

theorem GatheredFrom.other (h : GatheredFrom valid entries gathered) (hother : approves valid entry.1 = false) :
    GatheredFrom valid (entries ++ [entry]) gathered where
  approved shareIndex := by
    rw [h.approved, countedAt, countedAt, find?_append]
    simp [hother]
  witnesses witness := by
    rw [h.witnesses]
    simp only [mem_append, mem_singleton, or_and_right, exists_or, exists_eq_left, hother,
      Bool.false_eq_true, false_and, or_false]

end Gather

def shareIndexes : List UInt8 := (List.range 256).map UInt8.ofNat

variable [Crypto] {policy : ReplayedPolicy}

def answers (policy : PolicyState) (checkpoint : VaultPolicyCheckpointV1) (request : WitnessRequestV1)
    (manifest : ActionManifestV1) (response : WitnessResponseV1) : Bool :=
  (validateWitnessResponse policy checkpoint request manifest response).isOk

-- The request may be used: it is valid, it is for the part that is asked for, its time has come and has not passed,
-- and it is the receiver's own.
structure Standing (provider : WitnessedItemAccessProvider) (request : RevisionAccessRequest)
    (validated : ValidatedRequestPolicy) : Prop where
  checked : PublicRequest request.policy provider.checkpoint provider.signedRequest provider.manifest validated
  preflight : preflightWitnessed request provider.signedRequest = .ok ()
  begun : provider.ahead = false
  unexpired : provider.nowMs < provider.signedRequest.expiresAtMs
  receiver : provider.session.publicKey = provider.signedRequest.requestSessionPublicKey ∧
    provider.session.fingerprint = provider.signedRequest.requestSessionKeyFingerprint

variable [ContentCrypto]

end Jury.Access

namespace Jury.Access.Sample

open Protocol.Witness Protocol.Sample Policy.Sample Engine Engine.Sample

def descriptorAccess : RevisionAccessRequest where
  policy := dealt.state
  envelope := dealtEnvelope
  target := {
    suite := dealt.state.suite
    vaultId := dealt.state.vaultId
    itemId := witnessedItem
    keyEpoch := 1
    contentRole := .descriptor
    revision := 1
    revisionSealId := identifier .revisionSeal 1
    policySequence := dealt.state.sequence
    policyRevisionHash := dealt.state.terminalRevisionHash
    principalId := owner
    accessRole := .owner
    itemAccessMode := .witnessedOnly }
  capability := .read

def readDescriptor (access : ScopedRevisionAccess) : Consumed ItemDescriptorV1 AccessProviderErrorKind :=
  .ofExcept access.openDescriptor

def completes (responses : List WitnessResponseV1) : Bool :=
  match ((provider 1 responses).accessRevision descriptorAccess uncancelled readDescriptor).outcome with
  | .ok (.complete _ _) => true
  | _ => false

end Jury.Access.Sample
