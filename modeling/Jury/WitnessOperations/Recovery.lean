import Jury.Engine.Run
import Jury.Policy.WitnessRotation

-- The check of the record by which an owner replaces a witness that cannot show its replay state. It looks for the new
-- witness and for the old one in the next policy only, and what they were in the prior one is left open.
namespace Jury.WitnessOperations

open Lib Protocol Witness Policy Engine

variable {prior next : PolicyState} {rotation : WitnessPolicyRotationV1} {digest : Digest32}

inductive CheckpointStatusErrorKind where
  | invalidCheckpoint
  | invalidAcknowledgement
  | invalidSignature
  | duplicateWitness
deriving DecidableEq

def activeIds (policy : WitnessPolicy) : List PrincipalId := policy.activeWitnesses.map (·.witnessId)

theorem witnessId_of_canonicalBytes {a b : WitnessPolicyDescriptor} (h : a.canonicalBytes = b.canonicalBytes) :
    a.witnessId = b.witnessId := by
  simp only [WitnessPolicyDescriptor.canonicalBytes, WitnessPolicyDescriptor.canonicalBody, code_inj] at h
  exact h.2.1

variable [Crypto]

def recoveryDigest (recovery : WitnessRecoveryV1) : Except WitnessProtocolErrorKind Digest32 := do
  let preimage ← recovery.signaturePreimage
  hashSigned "jury-witness-v1/recovery/hash" preimage recovery.signature

def witnessRegistrationDigest (registration : RegistrationBytes) : Except WitnessProtocolErrorKind Digest32 := do
  rejectIf registration.isEmpty .invalidFormat
  hashBytes "jury-witness-v1/registration/hash" registration.asBytes

def validateCheckpoint (policy : PolicyState) (checkpoint : VaultPolicyCheckpointV1) :
    Except CheckpointStatusErrorKind Digest32 := do
  let _ ← (validateCheckpointPolicy policy checkpoint).mapError fun
    | .invalidSignature => .invalidSignature
    | .invalid | .scopeMismatch | .missingOwner => .invalidCheckpoint
  checkpoint.digest.mapError fun _ => .invalidCheckpoint

def activeWitnessPolicies (state : PolicyState) : Except PolicyErrorKind (List WitnessPolicy) := do
  let entries ← state.activeWitnessPolicyEntries
  return entries.map (·.2)

def verifyRecoveryOwnerSignature (next : PolicyState) (recovery : WitnessRecoveryV1) :
    Except RotationVerificationErrorKind Unit := do
  let owner ← orReject
    (next.principals[recovery.ownerId]?.filter fun _ => next.owners.contains recovery.ownerId) .invalidSignature
  rejectIf
    (recovery.ownerKeyEpoch != 1
      || recovery.ownerKeyFingerprint
        != signingKeyFingerprint 1 recovery.ownerId 1 owner.descriptor.verificationPublicKey)
    .invalidSignature
  let preimage ← recovery.signaturePreimage.mapError fun _ => .invalidRecord
  rejectIf (!verifyBytes owner.descriptor.verificationPublicKey preimage recovery.signature) .invalidSignature

def verifyWitnessRecovery (prior next : PolicyState) (priorCheckpoint nextCheckpoint : VaultPolicyCheckpointV1)
    (rotation : WitnessPolicyRotationV1) (newRegistration : RegistrationBytes) (recovery : WitnessRecoveryV1) :
    Except RotationVerificationErrorKind Digest32 := do
  recovery.validateShape.mapError fun _ => .invalidRecord
  let priorPolicy ← orReject prior.witnessPolicies[rotation.priorWitnessPolicyDigest]? .unsafeRecovery
  let nextPolicy ← orReject next.witnessPolicies[rotation.nextWitnessPolicyDigest]? .unsafeRecovery
  rejectIf (decide (nextPolicy.witnessThreshold < priorPolicy.witnessThreshold)) .unsafeRecovery
  let rotationDigest ← verifyWitnessPolicyRotation prior next rotation
  let priorCheckpointDigest ← (validateCheckpoint prior priorCheckpoint).mapError fun _ => .unsafeRecovery
  let nextCheckpointDigest ← (validateCheckpoint next nextCheckpoint).mapError fun _ => .unsafeRecovery
  let registrationDigest ← (witnessRegistrationDigest newRegistration).mapError fun _ => .invalidRecord
  let descriptorMatches := nextPolicy.activeWitnesses.any fun descriptor =>
    descriptor.canonicalBytes == recovery.newWitnessDescriptor.asBytes
  let oldIsRetired := recovery.unavailablePriorWitnessId.all fun oldId =>
    !nextPolicy.activeWitnesses.any fun descriptor => descriptor.witnessId == oldId
  rejectIf
    (recovery.vaultId != next.vaultId
      || recovery.genesisFingerprint != next.genesisFingerprint
      || recovery.rotationRecordDigest != rotationDigest
      || recovery.priorCheckpointDigest != priorCheckpointDigest
      || recovery.nextCheckpointDigest != nextCheckpointDigest
      || recovery.newRegistrationDigest != registrationDigest
      || nextCheckpoint.predecessorCheckpointDigest != priorCheckpointDigest)
    .unsafeRecovery
  let nextPolicies ← (activeWitnessPolicies next).mapError fun _ => .unsafeRecovery
  rejectIf (!nextPolicies.contains nextPolicy) .unsafeRecovery
  let priorPolicies ← (activeWitnessPolicies prior).mapError fun _ => .unsafeRecovery
  rejectIf (!priorPolicies.contains priorPolicy) .unsafeRecovery
  rejectIf (!descriptorMatches || !oldIsRetired || recovery.ownerId != rotation.ownerId) .unsafeRecovery
  verifyRecoveryOwnerSignature next recovery
  (recoveryDigest recovery).mapError fun _ => .invalidRecord

-- A witness came and, if one is named, a witness went, under a threshold that is no lower.
structure WitnessReplaced (prior next : WitnessPolicy) (rotation : WitnessPolicyRotationV1)
    (recovery : WitnessRecoveryV1) : Prop where
  installed : ∃ descriptor ∈ next.activeWitnesses,
    descriptor.canonicalBytes = recovery.newWitnessDescriptor.asBytes ∧ descriptor.witnessId ∉ activeIds prior
  retired : ∀ oldId, recovery.unavailablePriorWitnessId = some oldId → oldId ∈ activeIds prior ∧ oldId ∉ activeIds next
  threshold : prior.witnessThreshold ≤ next.witnessThreshold
  membership : rotation.reason = .witnessMembership

-- What the check leaves to the owner: the record names as new nobody that the prior policy has, and as unavailable
-- somebody that it has.
structure NamesAnother (prior : WitnessPolicy) (recovery : WitnessRecoveryV1) : Prop where
  fresh : ∀ descriptor : WitnessPolicyDescriptor,
    descriptor.canonicalBytes = recovery.newWitnessDescriptor.asBytes → descriptor.witnessId ∉ activeIds prior
  active : ∀ oldId, recovery.unavailablePriorWitnessId = some oldId → oldId ∈ activeIds prior

theorem verifyWitnessPolicyRotation_reason {priorPolicy nextPolicy : WitnessPolicy}
    (h : verifyWitnessPolicyRotation prior next rotation = .ok digest)
    (hprior : prior.witnessPolicies[rotation.priorWitnessPolicyDigest]? = some priorPolicy)
    (hnext : next.witnessPolicies[rotation.nextWitnessPolicyDigest]? = some nextPolicy) :
    rotation.reason = rotationReason priorPolicy nextPolicy := by
  simp only [verifyWitnessPolicyRotation, validatePolicySuccession, eq_ok, hprior, hnext, Option.some.injEq,
    passed] at h
  obtain ⟨-, -, -, -, _, rfl, _, rfl, -, ⟨-, hreason⟩, -⟩ := h
  exact hreason

structure RecoveryAccepted (prior next : PolicyState) (rotation : WitnessPolicyRotationV1) (recovery : WitnessRecoveryV1)
    (priorPolicy nextPolicy : WitnessPolicy) : Prop where
  prior : prior.witnessPolicies[rotation.priorWitnessPolicyDigest]? = some priorPolicy
  next : next.witnessPolicies[rotation.nextWitnessPolicyDigest]? = some nextPolicy
  threshold : priorPolicy.witnessThreshold ≤ nextPolicy.witnessThreshold
  reason : rotation.reason = rotationReason priorPolicy nextPolicy
  installed : ∃ descriptor ∈ nextPolicy.activeWitnesses,
    descriptor.canonicalBytes = recovery.newWitnessDescriptor.asBytes
  retired : ∀ oldId, recovery.unavailablePriorWitnessId = some oldId → oldId ∉ activeIds nextPolicy

theorem verifyWitnessRecovery_accepted {priorCheckpoint nextCheckpoint : VaultPolicyCheckpointV1}
    {newRegistration : RegistrationBytes} {recovery : WitnessRecoveryV1}
    (h : verifyWitnessRecovery prior next priorCheckpoint nextCheckpoint rotation newRegistration recovery = .ok digest) :
    ∃ priorPolicy nextPolicy, RecoveryAccepted prior next rotation recovery priorPolicy nextPolicy := by
  simp only [verifyWitnessRecovery, eq_ok, decide_eq_false_iff_not, UInt8.not_lt] at h
  obtain ⟨-, -, priorPolicy, hprior, nextPolicy, hnext, -, hthr, rotationDigest, hrotation, -, -, -, -, -, -, -, -,
    -, -, -, -, -, -, -, -, -, hnamed, -⟩ := h
  simp only [passed, List.any_eq_true, beq_iff_eq, Option.all_eq_true, Bool.not_eq_true', List.any_eq_false] at hnamed
  obtain ⟨⟨hinstalled, hretired⟩, -⟩ := hnamed
  refine ⟨priorPolicy, nextPolicy, hprior, hnext, hthr, verifyWitnessPolicyRotation_reason hrotation hprior hnext,
    hinstalled, fun oldId hold hmem => ?_⟩
  obtain ⟨descriptor, hdesc, rfl⟩ := List.mem_map.mp hmem
  exact hretired _ hold descriptor hdesc rfl

-- An accepted record replaces a witness exactly when it names another one than the prior policy has.
theorem recovery_replaces_iff (prior next : PolicyState) (priorCheckpoint nextCheckpoint : VaultPolicyCheckpointV1)
    (rotation : WitnessPolicyRotationV1) (newRegistration : RegistrationBytes) (recovery : WitnessRecoveryV1)
    (digest : Digest32)
    (h : verifyWitnessRecovery prior next priorCheckpoint nextCheckpoint rotation newRegistration recovery = .ok digest) :
    ∃ priorPolicy nextPolicy,
      prior.witnessPolicies[rotation.priorWitnessPolicyDigest]? = some priorPolicy ∧
      next.witnessPolicies[rotation.nextWitnessPolicyDigest]? = some nextPolicy ∧
      (WitnessReplaced priorPolicy nextPolicy rotation recovery ↔ NamesAnother priorPolicy recovery) := by
  obtain ⟨priorPolicy, nextPolicy, hacc⟩ := verifyWitnessRecovery_accepted h
  refine ⟨priorPolicy, nextPolicy, hacc.prior, hacc.next, ?_, ?_⟩
  · rintro ⟨⟨installed, -, hbytes, hnew⟩, hretired, -, -⟩
    refine ⟨fun descriptor hdesc => ?_, fun oldId hold => (hretired oldId hold).1⟩
    rw [witnessId_of_canonicalBytes (hdesc.trans hbytes.symm)]
    exact hnew
  · rintro ⟨hfresh, hactive⟩
    obtain ⟨installed, hinstalled, hbytes⟩ := hacc.installed
    have hnew := hfresh installed hbytes
    refine ⟨⟨installed, hinstalled, hbytes, hnew⟩,
      fun oldId hold => ⟨hactive oldId hold, hacc.retired oldId hold⟩, hacc.threshold, ?_⟩
    have hdiffer : activeIds priorPolicy ≠ activeIds nextPolicy := fun hsame =>
      hnew (hsame ▸ List.mem_map.mpr ⟨installed, hinstalled, rfl⟩)
    rw [hacc.reason]
    exact if_pos hdiffer

end Jury.WitnessOperations

namespace Jury.WitnessOperations.Sample

open Lib Protocol Vault Witness Protocol.Sample Policy Policy.Sample Engine Engine.Sample

-- The sample vault one revision on, with its item resealed under a successor of its policy that has these witnesses.
def successor (witnesses : List WitnessPolicyDescriptor) (rule : OperationRule) : WitnessPolicy :=
  { witnessPolicy with
    revision := 2
    predecessorPolicyDigest := policyDigest
    vaultPolicySequence := 3
    vaultPolicyHash := policy.state.terminalRevisionHash
    witnessDescriptors := witnesses
    operationRules := [rule] }

-- Witness 8 takes the place of witness 6; or the witnesses stay and a read takes both approvers.
def renewed : WitnessPolicy := successor [witnessDescriptor 5 1, witnessDescriptor 8 2] readRule

def tightened : WitnessPolicy :=
  successor [witnessDescriptor 5 1, witnessDescriptor 6 2] { readRule with approvalThreshold := 2 }

def successionJournal (next : WitnessPolicy) : PolicyJournalV1 :=
  extend journal [witnessPolicy, next] 1 1003 [
    .principalAdd (descriptor .witness 8) "witness" ZERO_DIGEST,
    .itemReaderSetChange witnessedItem 1 2 [identifier .principal 1] [identifier .principal 1] (metadata 2 2 21)
      (FixedBytes.replicate 32 8),
    .itemSlotsReplace witnessedItem 2 [] (some (Sealing.state ⟨witnessedItem, 2, .witnessedOnly, next, 20⟩))]

def sealing (next : WitnessPolicy) : Sealing := ⟨witnessedItem, 2, .witnessedOnly, next, 20⟩

def rotationTo (next : WitnessPolicy) (state : PolicyState) : WitnessPolicyRotationV1 :=
  let unsigned : WitnessPolicyRotationV1 := {
    schema := 1
    rotationId := identifier .rotation 1
    vaultId := state.vaultId
    genesisFingerprint := state.genesisFingerprint
    priorVaultPolicySequence := 2
    priorVaultPolicyHash := policy.state.terminalRevisionHash
    nextVaultPolicySequence := 3
    nextVaultPolicyHash := state.terminalRevisionHash
    priorWitnessPolicyId := witnessPolicy.witnessPolicyId
    priorWitnessPolicyRevision := 1
    priorWitnessPolicyDigest := policyDigest
    nextWitnessPolicyId := next.witnessPolicyId
    nextWitnessPolicyRevision := 2
    nextWitnessPolicyDigest := (sealing next).policyDigest
    reason := rotationReason witnessPolicy next
    affectedItems := [{
      itemId := witnessedItem
      priorKeyEpoch := 1
      nextKeyEpoch := 2
      nextDescriptorRevision := 1
      nextDescriptorRevisionSealId := ((sealing next).slot .descriptor).revisionSealId
      nextDescriptorCapsuleSetDigest := ((sealing next).slot .descriptor).capsuleSetDigest
      nextBodyRevision := 1
      nextBodyRevisionSealId := ((sealing next).slot .body).revisionSealId
      nextBodyCapsuleSetDigest := ((sealing next).slot .body).capsuleSetDigest }]
    issuedAtMs := 3000
    ownerId := identifier .principal 1
    ownerKeyFingerprint := signingKeyFingerprint 1 (identifier .principal 1) 1 (verificationKey 1)
    ownerKeyEpoch := 1
    signature := NO_SIGNATURE }
  { unsigned with signature := sign (verificationKey 1) (unsigned.signaturePreimage.toOption.getD ∅) }

def recoveryBy (state : PolicyState) (rotation : WitnessPolicyRotationV1) (nextCheckpoint : VaultPolicyCheckpointV1)
    (unavailable : PrincipalId) (announced : WitnessDescriptorBytes) : WitnessRecoveryV1 :=
  let unsigned : WitnessRecoveryV1 := {
    schema := 1
    recoveryId := identifier .recovery 1
    vaultId := state.vaultId
    genesisFingerprint := state.genesisFingerprint
    unavailablePriorWitnessId := some unavailable
    newWitnessDescriptor := announced
    newRegistrationDigest := digestOf (witnessRegistrationDigest registration)
    priorCheckpointDigest := digestOf checkpoint.digest
    nextCheckpointDigest := digestOf nextCheckpoint.digest
    rotationRecordDigest := digestOf rotation.digest
    statement := 1
    issuedAtMs := 3000
    ownerId := identifier .principal 1
    ownerKeyFingerprint := signingKeyFingerprint 1 (identifier .principal 1) 1 (verificationKey 1)
    ownerKeyEpoch := 1
    signature := NO_SIGNATURE }
  { unsigned with signature := sign (verificationKey 1) (unsigned.signaturePreimage.toOption.getD ∅) }

structure Attempt where
  next : WitnessPolicy
  replayed : (replayPolicyWithWitnessPolicies (successionJournal next) [witnessPolicy, next]).isOk = true
  unavailable : PrincipalId
  announced : WitnessDescriptorBytes

namespace Attempt

def policy (attempt : Attempt) : ReplayedPolicy := .ofReplay _ _ attempt.replayed

def checkpoint (attempt : Attempt) : VaultPolicyCheckpointV1 :=
  checkpointOf attempt.policy 1 (digestOf Engine.Sample.checkpoint.digest) 3000

def rotation (attempt : Attempt) : WitnessPolicyRotationV1 := rotationTo attempt.next attempt.policy.state

def recovery (attempt : Attempt) : WitnessRecoveryV1 :=
  recoveryBy attempt.policy.state attempt.rotation attempt.checkpoint attempt.unavailable attempt.announced

def verified (attempt : Attempt) : Except RotationVerificationErrorKind Digest32 :=
  verifyWitnessRecovery Policy.Sample.policy.state attempt.policy.state Engine.Sample.checkpoint attempt.checkpoint
    attempt.rotation registration attempt.recovery

theorem rotation_prior (attempt : Attempt) : attempt.rotation.priorWitnessPolicyDigest = policyDigest := by
  simp only [rotation, rotationTo]

theorem recovery_announced (attempt : Attempt) : attempt.recovery.newWitnessDescriptor = attempt.announced := rfl

theorem recovery_unavailable (attempt : Attempt) :
    attempt.recovery.unavailablePriorWitnessId = some attempt.unavailable := rfl

end Attempt

def replacing : Attempt where
  next := renewed
  replayed := by decide +kernel
  unavailable := identifier .principal 6
  announced := ⟨(witnessDescriptor 8 2).canonicalBytes, by decide +kernel⟩

-- The record says that witness 5 is new and that somebody else, who never was a witness, is gone.
def pretending : Attempt where
  next := tightened
  replayed := by decide +kernel
  unavailable := identifier .principal 9
  announced := ⟨(witnessDescriptor 5 1).canonicalBytes, by decide +kernel⟩

theorem prior_policy : policy.state.witnessPolicies[policyDigest]? = some witnessPolicy := by decide +kernel

theorem recovery_replaces_iff_replacing :
    ∃ digest, replacing.verified = .ok digest ∧
      WitnessReplaced witnessPolicy renewed replacing.rotation replacing.recovery := by
  obtain ⟨digest, hdigest⟩ := exists_eq_ok_of_isOk (x := replacing.verified) (by decide +kernel)
  have hrenewed : replacing.policy.state.witnessPolicies[replacing.rotation.nextWitnessPolicyDigest]? = some renewed := by
    decide +kernel
  obtain ⟨priorPolicy, nextPolicy, hprior, hnext, hrepl⟩ := recovery_replaces_iff _ _ _ _ _ _ _ digest hdigest
  obtain rfl := some_unique hrenewed hnext
  rw [Attempt.rotation_prior] at hprior
  obtain rfl : witnessPolicy = priorPolicy := some_unique prior_policy hprior
  refine ⟨digest, hdigest, hrepl.mpr ⟨fun descriptor hdesc => ?_, fun oldId hold => ?_⟩⟩
  · rw [Attempt.recovery_announced, replacing] at hdesc
    rw [witnessId_of_canonicalBytes (b := witnessDescriptor 8 2) hdesc]
    decide +kernel
  · rw [Attempt.recovery_unavailable] at hold
    obtain rfl : identifier .principal 6 = oldId := Option.some.inj hold
    decide +kernel

theorem pretended_recovery_accepted :
    ∃ digest,
      verifyWitnessRecovery policy.state pretending.policy.state checkpoint pretending.checkpoint pretending.rotation
        registration pretending.recovery = .ok digest ∧
      policy.state.witnessPolicies[pretending.rotation.priorWitnessPolicyDigest]? = some witnessPolicy ∧
      pretending.policy.state.witnessPolicies[pretending.rotation.nextWitnessPolicyDigest]? = some tightened ∧
      activeIds witnessPolicy = activeIds tightened ∧ identifier .principal 9 ∉ activeIds witnessPolicy ∧
      pretending.recovery.unavailablePriorWitnessId = some (identifier .principal 9) ∧
      pretending.rotation.reason = .approverRuleOrLabel ∧
      ¬ WitnessReplaced witnessPolicy tightened pretending.rotation pretending.recovery := by
  obtain ⟨digest, hdigest⟩ := exists_eq_ok_of_isOk (x := pretending.verified) (by decide +kernel)
  have hreason : pretending.rotation.reason = .approverRuleOrLabel := by decide +kernel
  have hprior : policy.state.witnessPolicies[pretending.rotation.priorWitnessPolicyDigest]? = some witnessPolicy := by
    rw [Attempt.rotation_prior]
    exact prior_policy
  refine ⟨digest, hdigest, hprior, by decide +kernel, by decide +kernel,
    by decide +kernel, Attempt.recovery_unavailable _, hreason, fun hrepl => ?_⟩
  rw [hrepl.membership] at hreason
  cases hreason

end Jury.WitnessOperations.Sample
