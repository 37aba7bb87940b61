import Jury.LocalState.Checkpoint
import Jury.Mutation.Artifact

-- Mutation plans: a complete target artifact, prepared from a validated one and bound to its exact bytes.
namespace Jury.Mutation

open Lib Protocol Vault Policy LocalState

inductive DirectDowngradeAcknowledgement where
  | absent
  | acknowledged
deriving DecidableEq

inductive MutationKind where
  | policy
  | item
  | privacyCover
  | transferImport
deriving DecidableEq

def MutationKind.auditAction : MutationKind → AuditAction
  | .policy => .policyMutation
  | .item => .itemMutation
  | .privacyCover => .privacyCover
  | .transferImport => .transfer

structure MutationWarnings where
  redistributionRequired : Bool
  externalCredentialRotationRequired : Bool
  pendingWitnessRequestsInvalidated : Bool
  itemQuorumClaimSuppressed : Bool
deriving DecidableEq

structure VaultRevisionPrecondition where
  vaultDigest : Digest32
  policySequence : UInt64
  policyRevisionHash : Digest32
  repositoryAncestry : Option Digest32
deriving DecidableEq

structure VaultMutationPlan where
  precondition : VaultRevisionPrecondition
  target : VaultFileV1
  targetBytes : Bytes
  targetDigest : Digest32
  targetPolicy : PolicyState
  witnessPolicies : List WitnessPolicy
  kind : MutationKind
  timestampMs : UInt64
  touchedItems : List ItemId
  warnings : MutationWarnings
  actingPrincipalId : PrincipalId

def operationItemId : PolicyOperationV1 → Option ItemId
  | .itemCreate itemId .. | .itemRename itemId .. | .itemDelete itemId .. | .itemRoleChange itemId ..
  | .itemReaderSetChange itemId .. | .itemSlotsReplace itemId .. => some itemId
  | _ => none

def touchedItemIds (operations : List PolicyOperationV1) : BTreeSet ItemId :=
  Std.ExtTreeSet.ofList (operations.filterMap operationItemId) compare

def deletedItemId : PolicyOperationV1 → Option ItemId
  | .itemDelete itemId .. => some itemId
  | _ => none

def deletedItemIds (operations : List PolicyOperationV1) : BTreeSet ItemId :=
  Std.ExtTreeSet.ofList (operations.filterMap deletedItemId) compare

def readerRemoved (current target : PolicyState) : Bool :=
  current.items.keys.any fun itemId =>
    let next := target.effectiveReaderIds itemId
    (current.effectiveReaderIds itemId).any fun reader => !next.contains reader

def envelopesById (vault : VaultFileV1) : BTreeMap ItemId ItemEnvelopeV1 :=
  Std.ExtTreeMap.ofList (vault.items.map fun item => (item.itemId, item)) compare

def validateItemDelta (current target : VaultFileV1) (currentPolicy : PolicyState) (entry : ItemId × ItemPolicyState) :
    Except MutationErrorKind Unit := do
  let (itemId, targetItem) := entry
  let targetEnvelope ← orReject (envelopesById target)[itemId]? .missingItemEnvelope
  let changed := match currentPolicy.items[itemId]? with
    | none => true
    | some currentItem =>
      currentItem.currentItemRevisionHash != targetItem.currentItemRevisionHash
        || currentItem.descriptor != targetItem.descriptor
  let currentEnvelope := (envelopesById current)[itemId]?
  rejectIf (changed && currentEnvelope.any (· == targetEnvelope)) .missingItemEnvelope
  rejectIf (!changed && currentEnvelope.any (· != targetEnvelope)) .unexpectedItemEnvelope

def validateEnvelopeDelta (current target : VaultFileV1) (currentPolicy targetPolicy : PolicyState) :
    Except MutationErrorKind Unit := do
  targetPolicy.items.toList.forM (validateItemDelta current target currentPolicy)
  rejectIf ((envelopesById target).keys.any fun itemId => !targetPolicy.items.contains itemId) .unexpectedItemEnvelope

def coversPrivacy : PolicyOperationV1 → Bool
  | .itemReaderSetChange .. | .itemSlotsReplace .. => true
  | _ => false

def validateCoveredItem (current target : VaultFileV1) (currentPolicy targetPolicy : PolicyState) (itemId : ItemId) :
    Except MutationErrorKind Unit := do
  let priorPolicy ← orReject currentPolicy.items[itemId]? .invalidPlan
  let nextPolicy ← orReject targetPolicy.items[itemId]? .invalidPlan
  -- The envelopes of a valid artifact are in the order of their identifiers, which a binary search relies on.
  let prior ← orReject (current.items.find? (·.itemId == itemId)) .invalidCurrentState
  let next ← orReject (target.items.find? (·.itemId == itemId)) .invalidPlan
  rejectIf
    (priorPolicy.grants != nextPolicy.grants
      || currentPolicy.effectiveReaderIds itemId != targetPolicy.effectiveReaderIds itemId
      || priorPolicy.accessMode != nextPolicy.accessMode
      || prior.currentRevision.bucketId != next.currentRevision.bucketId
      || prior.currentRevision.itemRevision.toNat + 1 != next.currentRevision.itemRevision.toNat)
    .invalidPlan

def validatePrivacyCover (current target : VaultFileV1) (currentPolicy targetPolicy : PolicyState) :
    Except MutationErrorKind Unit := do
  let last ← orReject target.policy.revisions.getLast? .invalidPlan
  let touched := touchedItemIds last.operations
  rejectIf (touched.isEmpty || last.operations.any fun operation => !coversPrivacy operation) .invalidPlan
  touched.toList.forM (validateCoveredItem current target currentPolicy targetPolicy)

-- An envelope takes the place of the one with its identifier, or goes where the order of identifiers puts it.
def placeEnvelope (envelope : ItemEnvelopeV1) : List ItemEnvelopeV1 → List ItemEnvelopeV1
  | [] => [envelope]
  | item :: rest =>
    match compare envelope.itemId item.itemId with
    | .lt => envelope :: item :: rest
    | .eq => envelope :: rest
    | .gt => item :: placeEnvelope envelope rest

def collectReplacement (replacements : BTreeMap ItemId ItemEnvelopeV1) (envelope : ItemEnvelopeV1) :
    Except MutationErrorKind (BTreeMap ItemId ItemEnvelopeV1) := do
  rejectIf (replacements.contains envelope.itemId) .unexpectedItemEnvelope
  return replacements.insert envelope.itemId envelope

def extendedArtifact (current : VaultFileV1) (revision : SignedPolicyRevisionV1)
    (replacements : BTreeMap ItemId ItemEnvelopeV1) : VaultFileV1 :=
  let deleted := deletedItemIds revision.operations
  let kept := current.items.filter fun item => !deleted.contains item.itemId
  { current with
    policy := { current.policy with revisions := current.policy.revisions ++ [revision] }
    items := replacements.toList.foldl (fun items entry => placeEnvelope entry.2 items) kept }

def itemHistoryIsPrefix (base candidate : ItemEnvelopeV1) : Bool :=
  base.revisions.isPrefixOf candidate.revisions
    && (decide (candidate.revisions.length > base.revisions.length)
      || (candidate.currentRevision == base.currentRevision
        && candidate.bodyCiphertext == base.bodyCiphertext
        && decide (candidate.descriptor.revision ≥ base.descriptor.revision)
        && decide (candidate.descriptor.keyEpoch ≥ base.descriptor.keyEpoch)))

def policySuffixDeletes (vault : VaultFileV1) (start : Nat) (itemId : ItemId) : Bool :=
  (vault.policy.revisions.drop start).any fun revision =>
    revision.operations.any fun operation => deletedItemId operation == some itemId

def isStrictDescendant (base candidate : VaultFileV1) : Bool :=
  base.header.vaultId == candidate.header.vaultId
    && base.header.genesisFingerprint == candidate.header.genesisFingerprint
    && base.policy.genesis == candidate.policy.genesis
    && base.suiteMigration == candidate.suiteMigration
    && decide (candidate.policy.revisions.length > base.policy.revisions.length)
    && base.policy.revisions.isPrefixOf candidate.policy.revisions
    && base.items.all fun baseItem =>
      match (envelopesById candidate)[baseItem.itemId]? with
      | none => policySuffixDeletes candidate base.policy.revisions.length baseItem.itemId
      | some candidateItem => itemHistoryIsPrefix baseItem candidateItem

inductive ArtifactRelation where
  | identical
  | incomingStrictDescendant
  | localStrictDescendant
  | divergent
deriving DecidableEq

def compareArtifacts (current incoming : VaultFileV1) : ArtifactRelation :=
  if current = incoming then .identical
  else if isStrictDescendant current incoming then .incomingStrictDescendant
  else if isStrictDescendant incoming current then .localStrictDescendant
  else .divergent

def suffixOperations (current incoming : VaultFileV1) : List PolicyOperationV1 :=
  (incoming.policy.revisions.drop current.policy.revisions.length).flatMap (·.operations)

namespace VaultMutationPlan

variable [Crypto]

def fromPrepared (codec : VaultCodec) (current : VaultFileV1) (witnessPolicies : List WitnessPolicy)
    (prepared : PreparedPolicyRevision) (replacementEnvelopes : List ItemEnvelopeV1) (timestampMs : UInt64)
    (downgradeAcknowledgement : DirectDowngradeAcknowledgement) (kind : MutationKind) :
    Except MutationErrorKind VaultMutationPlan := do
  let currentPolicy ← validateComplete current witnessPolicies true
  let sourceBytes ← (current.toJsonBytes codec).mapError mapCurrentFormatError
  let vaultDigest := sha256 sourceBytes
  rejectIf
    (prepared.revision.sequence.toNat != min (currentPolicy.sequence.toNat + 1) (2 ^ 64 - 1)
      || prepared.revision.previousRevisionHash != currentPolicy.terminalRevisionHash
      || prepared.revision.timestampMs != timestampMs
      || prepared.revision.operations.isEmpty)
    .invalidPlan
  let touchedItems := touchedItemIds prepared.revision.operations
  let replacements ← replacementEnvelopes.foldlM collectReplacement ∅
  let target := extendedArtifact current prepared.revision replacements
  let targetPolicy ← validateComplete target witnessPolicies false
  rejectIf (targetPolicy != prepared.state) .invalidPlan
  validateEnvelopeDelta current target currentPolicy targetPolicy
  if kind = .privacyCover then validatePrivacyCover current target currentPolicy targetPolicy
  let flags ← transitionFlags currentPolicy targetPolicy touchedItems prepared.revision.operations
  rejectIf ((flags.directDowngrade || flags.witnessWeakened) && downgradeAcknowledgement != .acknowledged)
    .directDowngradeRequiresAcknowledgement
  let targetBytes ← (target.toJsonBytes codec).mapError mapTargetFormatError
  let targetDigest := sha256 targetBytes
  rejectIf (targetDigest == vaultDigest) .noChange
  return {
    precondition := {
      vaultDigest
      policySequence := currentPolicy.sequence
      policyRevisionHash := currentPolicy.terminalRevisionHash
      repositoryAncestry := none }
    target
    targetBytes
    targetDigest
    targetPolicy
    witnessPolicies
    kind
    timestampMs
    touchedItems := touchedItems.toList
    warnings := {
      redistributionRequired := true
      externalCredentialRotationRequired := readerRemoved currentPolicy targetPolicy
      pendingWitnessRequestsInvalidated := true
      itemQuorumClaimSuppressed := flags.directDowngrade }
    actingPrincipalId := prepared.revision.authorPrincipalId }

def preflightTransferImport (current incoming : VaultFileV1) (witnessPolicies : List WitnessPolicy) :
    Except MutationErrorKind ArtifactRelation := do
  let currentPolicy ← validateComplete current witnessPolicies true
  let targetPolicy ← validateComplete incoming witnessPolicies false
  let relation := compareArtifacts current incoming
  match relation with
  | .identical => return relation
  | .localStrictDescendant => .error .transferBehind
  | .divergent => .error .transferDiverged
  | .incomingStrictDescendant =>
    let operations := suffixOperations current incoming
    validateEnvelopeDelta current incoming currentPolicy targetPolicy
    let flags ← transitionFlags currentPolicy targetPolicy (touchedItemIds operations) operations
    rejectIf (flags.directDowngrade || flags.witnessWeakened) .transferDowngrade
    return relation

def prepareTransferImport (codec : VaultCodec) (current incoming : VaultFileV1) (witnessPolicies : List WitnessPolicy)
    (actingPrincipalId : PrincipalId) (timestampMs : UInt64) : Except MutationErrorKind (Option VaultMutationPlan) := do
  let _ ← preflightTransferImport current incoming witnessPolicies
  let currentPolicy ← validateComplete current witnessPolicies true
  let targetPolicy ← validateComplete incoming witnessPolicies false
  rejectIf (!targetPolicy.principals.contains actingPrincipalId) .unauthorized
  if current = incoming then return none
  else
    let sourceBytes ← (current.toJsonBytes codec).mapError mapCurrentFormatError
    let targetBytes ← (incoming.toJsonBytes codec).mapError mapTargetFormatError
    return some {
      precondition := {
        vaultDigest := sha256 sourceBytes
        policySequence := currentPolicy.sequence
        policyRevisionHash := currentPolicy.terminalRevisionHash
        repositoryAncestry := none }
      target := incoming
      targetBytes
      targetDigest := sha256 targetBytes
      targetPolicy
      witnessPolicies
      kind := .transferImport
      timestampMs
      touchedItems := (touchedItemIds (suffixOperations current incoming)).toList
      warnings := {
        redistributionRequired := false
        externalCredentialRotationRequired := readerRemoved currentPolicy targetPolicy
        pendingWitnessRequestsInvalidated := true
        itemQuorumClaimSuppressed := false }
      actingPrincipalId }

def bindRepositoryAncestry (plan : VaultMutationPlan) (digest : Digest32) : VaultMutationPlan :=
  { plan with precondition := { plan.precondition with repositoryAncestry := some digest } }

def auditIntent (plan : VaultMutationPlan) : AuditEventDraft where
  timestampMs := plan.timestampMs
  operationId := plan.targetDigest
  policySequence := plan.targetPolicy.sequence
  action := plan.kind.auditAction
  outcome := .success
  item := match plan.touchedItems with
    | [itemId] => some { itemId, permittedItemName := none }
    | _ => none
  witness := none

def checkpointCandidate (plan : VaultMutationPlan) : Except MutationErrorKind CheckpointCandidate :=
  (CheckpointCandidate.fromValidated plan.targetPolicy plan.target.policy plan.target.items).mapError fun _ =>
    .invalidPlan

end VaultMutationPlan

-- Every way to come by a plan for an artifact.
inductive Planned [Crypto] (codec : VaultCodec) (current : VaultFileV1) : VaultMutationPlan → Prop where
  | prepared {plan : VaultMutationPlan} (witnessPolicies : List WitnessPolicy) (prepared : PreparedPolicyRevision)
      (replacements : List ItemEnvelopeV1) (timestampMs : UInt64) (acknowledgement : DirectDowngradeAcknowledgement)
      (kind : MutationKind) (h : VaultMutationPlan.fromPrepared codec current witnessPolicies prepared replacements
        timestampMs acknowledgement kind = .ok plan) : Planned codec current plan
  | imported {plan : VaultMutationPlan} (incoming : VaultFileV1) (witnessPolicies : List WitnessPolicy)
      (principalId : PrincipalId) (timestampMs : UInt64)
      (h : VaultMutationPlan.prepareTransferImport codec current incoming witnessPolicies principalId timestampMs =
        .ok (some plan)) : Planned codec current plan
  | bound {plan : VaultMutationPlan} (digest : Digest32) (h : Planned codec current plan) :
      Planned codec current (plan.bindRepositoryAncestry digest)

-- What holds of every plan: both artifacts are valid as they stand, the plan is bound to the bytes of the first, and
-- the journal of the second is a longer one.
structure PlanSound [Crypto] (codec : VaultCodec) (current : VaultFileV1) (plan : VaultMutationPlan) : Prop where
  source : ∃ policy, ValidatedComplete current plan.witnessPolicies policy ∧
    plan.precondition.policySequence = policy.sequence ∧
    plan.precondition.policyRevisionHash = policy.terminalRevisionHash
  sourceBytes : ∃ bytes, current.toJsonBytes codec = .ok bytes ∧ plan.precondition.vaultDigest = sha256 bytes
  target : ValidatedComplete plan.target plan.witnessPolicies plan.targetPolicy
  targetBytes : plan.target.toJsonBytes codec = .ok plan.targetBytes
  targetDigest : plan.targetDigest = sha256 plan.targetBytes
  genesis : plan.target.policy.genesis = current.policy.genesis
  revisions : ∃ suffix, suffix ≠ [] ∧ plan.target.policy.revisions = current.policy.revisions ++ suffix

theorem isStrictDescendant_journal (h : isStrictDescendant current candidate = true) :
    candidate.policy.genesis = current.policy.genesis ∧
      ∃ suffix, suffix ≠ [] ∧ candidate.policy.revisions = current.policy.revisions ++ suffix := by
  simp only [isStrictDescendant, holds, List.isPrefixOf_iff_prefix, and_assoc] at h
  obtain ⟨-, -, hgen, -, hlen, ⟨suffix, hsuffix⟩, -⟩ := h
  refine ⟨hgen.symm, suffix, ?_, hsuffix.symm⟩
  rintro rfl
  rw [← hsuffix, List.append_nil] at hlen
  exact absurd hlen (Nat.lt_irrefl _)

section Sound

variable [Crypto]

theorem fromPrepared_sound {prepared : PreparedPolicyRevision} {replacements : List ItemEnvelopeV1}
    (h : VaultMutationPlan.fromPrepared codec current witnessPolicies prepared replacements timestampMs acknowledgement
      kind = .ok plan) : PlanSound codec current plan := by
  simp only [VaultMutationPlan.fromPrepared, eq_ok, validateComplete_eq_ok] at h
  obtain ⟨policy, hpolicy, bytes, hbytes, -, -, envelopes, -, targetPolicy, htarget, -, -, -, -, h⟩ := h
  -- The privacy cover is one more check, and the rest does not depend on whether it was made.
  have hrest : ∃ targetBytes,
      (extendedArtifact current prepared.revision envelopes).toJsonBytes codec = .ok targetBytes ∧
        plan.precondition = ⟨sha256 bytes, policy.sequence, policy.terminalRevisionHash, none⟩ ∧
        plan.target = extendedArtifact current prepared.revision envelopes ∧ plan.targetBytes = targetBytes ∧
        plan.targetDigest = sha256 targetBytes ∧ plan.targetPolicy = targetPolicy ∧
        plan.witnessPolicies = witnessPolicies := by
    split at h <;> simp only [eq_ok] at h
    · obtain ⟨-, -, -, -, -, -, targetBytes, htargetBytes, -, -, rfl⟩ := h
      exact ⟨targetBytes, htargetBytes, rfl, rfl, rfl, rfl, rfl, rfl⟩
    · obtain ⟨-, -, -, -, targetBytes, htargetBytes, -, -, rfl⟩ := h
      exact ⟨targetBytes, htargetBytes, rfl, rfl, rfl, rfl, rfl, rfl⟩
  obtain ⟨targetBytes, htargetBytes, hprecondition, hartifact, rfl, hdigest, rfl, rfl⟩ := hrest
  refine ⟨⟨policy, hpolicy, by rw [hprecondition], by rw [hprecondition]⟩, ⟨bytes, hbytes, by rw [hprecondition]⟩, ?_,
    hartifact ▸ htargetBytes, hdigest, ?_, [prepared.revision], by simp, ?_⟩
  · exact hartifact ▸ htarget
  · rw [hartifact]
    rfl
  · rw [hartifact]
    rfl

theorem prepareTransferImport_sound
    (h : VaultMutationPlan.prepareTransferImport codec current incoming witnessPolicies principalId timestampMs =
      .ok (some plan)) : PlanSound codec current plan := by
  simp only [VaultMutationPlan.prepareTransferImport, bind_eq_ok, validateComplete_eq_ok] at h
  obtain ⟨relation, hrelation, policy, hpolicy, targetPolicy, htarget, -, -, h⟩ := h
  split at h
  case isTrue =>
    simp at h
  case isFalse hdiff =>
    simp only [eq_ok, Option.some.injEq] at h
    obtain ⟨bytes, hbytes, targetBytes, htargetBytes, rfl⟩ := h
    -- Another artifact passes the preflight only as a descendant of the present one.
    have hdescendant : isStrictDescendant current incoming = true := by
      simp only [VaultMutationPlan.preflightTransferImport, bind_eq_ok] at hrelation
      obtain ⟨_, _, _, _, hrelation⟩ := hrelation
      simp only [compareArtifacts, hdiff, if_false] at hrelation
      by_contra hnot
      simp only [hnot, if_false] at hrelation
      by_cases hlocal : isStrictDescendant incoming current = true
      · rw [if_pos hlocal] at hrelation
        cases hrelation
      · rw [if_neg hlocal] at hrelation
        cases hrelation
    obtain ⟨hgen, hrevs⟩ := isStrictDescendant_journal hdescendant
    exact ⟨⟨policy, hpolicy, rfl, rfl⟩, ⟨bytes, hbytes, rfl⟩, htarget, htargetBytes, rfl, hgen, hrevs⟩

theorem Planned.sound (h : Planned codec current plan) : PlanSound codec current plan := by
  induction h with
  | prepared witnessPolicies prepared replacements timestampMs acknowledgement kind h => exact fromPrepared_sound h
  | imported incoming witnessPolicies principalId timestampMs h => exact prepareTransferImport_sound h
  | bound digest _ ih =>
    exact ⟨ih.source, ih.sourceBytes, ih.target, ih.targetBytes, ih.targetDigest, ih.genesis, ih.revisions⟩

end Sound

end Jury.Mutation
