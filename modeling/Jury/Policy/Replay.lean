import Jury.Policy.Operations
import Jury.Protocol.Vault.Rollover

-- Replay of an owner-signed policy journal: each revision is authenticated against the state before
-- it, and the state it leads to has to be complete before the next one is read.
namespace Jury.Policy

open Lib Protocol Vault

variable [Crypto]

def validateCapsuleBinding (state : PolicyState) (policy : WitnessPolicy) (capsule : WitnessShareCapsuleV1) :
    Except PolicyErrorKind Unit := do
  let descriptor ← orReject
    (policy.activeWitnesses.find? fun descriptor => descriptor.witnessId == capsule.witnessId) .invalidRole
  let principal ← orReject state.principals[descriptor.witnessId]? .unknownPrincipal
  rejectIf
    (principal.descriptor.principalKind != .witness
      || principal.descriptor.verificationPublicKey != descriptor.signingPublicKey
      || principal.descriptor.recipientPublicKey != descriptor.contributionPublicKey
      || descriptor.shareIndex != capsule.shareIndex
      || descriptor.contributionKeyFingerprint != capsule.contributionKeyFingerprint)
    .invalidRole

def validateApproverBinding (state : PolicyState) (descriptor : ApproverPolicyDescriptor) :
    Except PolicyErrorKind Unit := do
  let principal ← orReject state.principals[descriptor.approverId]? .unknownPrincipal
  rejectIf
    (principal.descriptor.principalKind != .approver
      || principal.descriptor.verificationPublicKey != descriptor.signingPublicKey)
    .invalidRole

-- The witnessed slots of an item are bound to a policy of the catalog and to its active members.
def validateItemPolicyBinding (state : PolicyState) (itemId : ItemId) (witnessed : WitnessedStateV1) :
    Except PolicyErrorKind Unit := do
  let first ← orReject witnessed.slots.head? .invalidFormat
  let policy ← orReject state.witnessPolicies[first.witnessPolicyDigest]? .missingWitnessPolicy
  rejectIf
    (policy.suite != state.suite
      || witnessed.slots.any (fun slot => slot.suite != state.suite)
      || policy.witnessPolicyId != first.witnessPolicyId
      || policy.revision != first.witnessPolicyRevision
      || policy.vaultId != state.vaultId
      || policy.genesisFingerprint != state.genesisFingerprint
      || policy.vaultPolicySequence != first.vaultPolicySequence
      || decide (policy.vaultPolicySequence > state.sequence)
      || policy.witnessThreshold != first.threshold)
    .invalidTransition
  let policyMembers := sortByKey (policy.activeWitnesses.map (·.witnessId)) id
  let slotMembers := sortByKey (first.capsules.map (·.witnessId)) id
  rejectIf (policyMembers != slotMembers || first.itemId != itemId) .invalidTransition
  first.capsules.forM (validateCapsuleBinding state policy)
  (policy.approverDescriptors.filter fun descriptor => descriptor.status == .active).forM
    (validateApproverBinding state)

def validateItemGrant (state : PolicyState) (grant : PrincipalId × AccessRole) : Except PolicyErrorKind Unit := do
  let principal ← orReject state.principals[grant.1]? .unknownPrincipal
  rejectIf (!isHumanOrMachine principal.descriptor.principalKind || grant.2 == .owner) .invalidRole

-- A reader's slot may still say writer and the other way round; an owner's says owner.
def slotRoleIsCurrent (effectiveRole : Option AccessRole) (slotRole : AccessRole) : Bool :=
  effectiveRole == some slotRole
    || ((effectiveRole == some .reader || effectiveRole == some .writer)
      && (slotRole == .reader || slotRole == .writer))

def validateItemDirectSlot (state : PolicyState) (itemId : ItemId) (item : ItemPolicyState) (mode : ItemAccessMode)
    (slot : DirectSlotV1) : Except PolicyErrorKind Unit := do
  let principal ← orReject state.principals[slot.recipientPrincipalId]? .unknownPrincipal
  rejectIf
    (!isHumanOrMachine principal.descriptor.principalKind
      || !slotRoleIsCurrent (state.effectiveRole itemId slot.recipientPrincipalId) slot.accessRole
      || slot.recipientPublicKeyFingerprint
        != recipientPublicKeyFingerprint principal.descriptor.recipientPublicKey
      || slot.itemAccessMode != mode
      || slot.keyEpoch != item.keyEpoch
      || slot.policySequence == 0
      || decide (slot.policySequence > state.sequence))
    .invalidRole

-- All witnessed slots of an item agree with the first one.
def validateItemWitnessedSlot (state : PolicyState) (item : ItemPolicyState) (mode : ItemAccessMode)
    (first slot : WitnessedSlotV1) : Except PolicyErrorKind Unit :=
  rejectIf
    (slot.itemAccessMode != mode
      || slot.keyEpoch != item.keyEpoch
      || slot.vaultPolicySequence == 0
      || decide (slot.vaultPolicySequence > state.sequence)
      || slot.threshold != first.threshold
      || slot.witnessPolicyId != first.witnessPolicyId
      || slot.witnessPolicyRevision != first.witnessPolicyRevision
      || slot.witnessPolicyDigest != first.witnessPolicyDigest
      || slot.capsules.map (·.witnessId) != first.capsules.map (·.witnessId))
    .invalidTransition

def validateItemWitnessed (state : PolicyState) (itemId : ItemId) (item : ItemPolicyState) (mode : ItemAccessMode)
    (witnessed : WitnessedStateV1) : Except PolicyErrorKind Unit := do
  let first ← orReject witnessed.slots.head? .invalidFormat
  witnessed.slots.forM (validateItemWitnessedSlot state item mode first)
  (first.capsules.map (·.witnessId)).forM fun witnessId => rejectIf (!state.isActiveWitness witnessId) .invalidRole
  validateItemPolicyBinding state itemId witnessed

def validateItem (state : PolicyState) (entry : ItemId × ItemPolicyState) : Except PolicyErrorKind Unit := do
  let (itemId, item) := entry
  let mode ← orReject item.accessMode .invalidTransition
  item.grants.toList.forM (validateItemGrant state)
  item.directSlots.forM (validateItemDirectSlot state itemId item mode)
  match item.witnessedState with
  | none => pure ()
  | some witnessed => validateItemWitnessed state itemId item mode witnessed

def ownersAreHuman (state : PolicyState) : Bool :=
  state.owners.toList.all fun owner =>
    state.principals[owner]?.any fun principal => principal.descriptor.principalKind == .human

def validateCompleteState (state : PolicyState) : Except PolicyErrorKind Unit := do
  rejectIf (state.owners.isEmpty || !ownersAreHuman state) .soleOwner
  state.items.toList.forM (validateItem state)

-- How many direct slots a recipient has, and whether the descriptor and the body are among them.
structure SlotCoverage where
  count : UInt8
  descriptor : Bool
  body : Bool
deriving DecidableEq

def coverSlot (coverage : BTreeMap PrincipalId SlotCoverage) (slot : DirectSlotV1) :
    BTreeMap PrincipalId SlotCoverage :=
  let entry := coverage[slot.recipientPrincipalId]?.getD ⟨0, false, false⟩
  coverage.insert slot.recipientPrincipalId {
    count := if entry.count = 255 then 255 else entry.count + 1
    descriptor := entry.descriptor || slot.contentRole == .descriptor
    body := entry.body || slot.contentRole == .body }

def validateItemOwnerSlots (state : PolicyState) (item : ItemPolicyState) : Except PolicyErrorKind Unit := do
  let mode ← orReject item.accessMode .invalidTransition
  if mode = .witnessedOnly then pure ()
  else
    let coverage := item.directSlots.foldl coverSlot ∅
    rejectIf (state.owners.toList.any fun ownerId => coverage[ownerId]? != some ⟨2, true, true⟩)
      .incompleteRotation

def validateCompleteOwnerSlots (state : PolicyState) : Except PolicyErrorKind Unit :=
  state.items.values.forM (validateItemOwnerSlots state)

def applyOperations (prior : PolicyState) (sequence : UInt64) (operations : List PolicyOperationV1) :
    Except PolicyErrorKind PolicyState := do
  rejectIf operations.isEmpty .invalidTransition
  let draft ← operations.foldlM (applyOperation prior sequence) {
    next := { prior with sequence }, readerRotations := ∅, slotRotations := ∅, mutationKeys := [] }
  let next ← applyRotations prior draft
  validateCompleteState next
  rejectIf (decide (next.items.size > MAX_ITEMS)) .capacityExhausted
  return next

def genesisState (genesis : PolicyGenesisV1) (fingerprint : Digest32)
    (witnessPolicies : BTreeMap Digest32 WitnessPolicy) : PolicyState :=
  let ownerId := genesis.owner.principalId
  { suite := genesis.suite
    vaultId := genesis.vaultId
    genesisFingerprint := fingerprint
    sequence := 0
    terminalRevisionHash := fingerprint
    revisionHashes := [fingerprint]
    principals := (∅ : BTreeMap _ _).insert ownerId { descriptor := genesis.owner, displayLabel := "owner" }
    historicalPrincipalDescriptors := (∅ : BTreeMap _ _).insert ownerId genesis.owner
    historicalPrincipalIds := (∅ : BTreeSet _).insert ownerId
    historicalRecipientKeys := (∅ : BTreeSet _).insert genesis.owner.recipientPublicKey
    historicalVerificationKeys := (∅ : BTreeSet _).insert genesis.owner.verificationPublicKey
    owners := (∅ : BTreeSet _).insert ownerId
    items := ∅
    historicalItemIds := ∅
    tombstones := ∅
    witnessPolicies }

def startReplay (journal : PolicyJournalV1) (witnessPolicies : BTreeMap Digest32 WitnessPolicy) :
    Except PolicyErrorKind PolicyState := do
  let genesis := journal.genesis
  rejectIf
    (genesis.policySequence != 0
      || genesis.previousPolicyHash != ZERO_DIGEST
      || !(genesis.suite == 1 || genesis.suite == 2)
      || genesis.owner.principalKind != .human
      || decide (journal.revisions.length > MAX_POLICY_REVISIONS))
    .invalidFormat
  validateDescriptor genesis.owner
  let preimage ← orReject genesis.signaturePreimage .invalidFormat
  requireSignature genesis.owner.verificationPublicKey preimage genesis.ownerSignature
  let fingerprint ← orReject genesis.recomputedFingerprint .invalidFormat
  return genesisState genesis fingerprint witnessPolicies

-- The state in which a revision leaves its predecessor's, before its hash is recorded.
def revisionState (state : PolicyState) (sequence : UInt64) (operations : List PolicyOperationV1) :
    Except PolicyErrorKind PolicyState :=
  if operations.isEmpty then .ok { state with sequence } else applyOperations state sequence operations

def replayRevision (genesis : PolicyGenesisV1) (index : Nat) (priorTimestamp : UInt64) (state : PolicyState)
    (revision : SignedPolicyRevisionV1) : Except PolicyErrorKind PolicyState := do
  let sequence := UInt64.ofNat (index + 1)
  rejectIf
    (revision.vaultId != state.vaultId
      || revision.sequence != sequence
      || revision.previousRevisionHash != state.terminalRevisionHash
      || decide (revision.timestampMs < priorTimestamp)
      || (revision.operations.isEmpty && !(index == 0 && genesis.permitsEmptyRolloverBootstrap)))
    .invalidAncestry
  rejectIf (!state.owners.contains revision.authorPrincipalId) .unauthorized
  let author ← orReject state.principals[revision.authorPrincipalId]? .unknownPrincipal
  let preimage ← orReject revision.signaturePreimage .invalidFormat
  requireSignature author.descriptor.verificationPublicKey preimage revision.signature
  let next ← revisionState state sequence revision.operations
  let hash ← next.normalizedStateHash
  rejectIf (hash != revision.resultingPolicyStateHash) .stateHashMismatch
  validateCompleteOwnerSlots next
  let terminal ← orReject revision.recomputedHash .invalidFormat
  return { next with
    terminalRevisionHash := terminal
    revisionHashes := next.revisionHashes ++ [terminal] }

def replayRevisions (genesis : PolicyGenesisV1) (index : Nat) (priorTimestamp : UInt64) (state : PolicyState) :
    List SignedPolicyRevisionV1 → Except PolicyErrorKind PolicyState
  | [] => .ok state
  | revision :: rest => do
    let next ← replayRevision genesis index priorTimestamp state revision
    replayRevisions genesis (index + 1) revision.timestampMs next rest

def replayPolicyWithCatalog (journal : PolicyJournalV1) (witnessPolicies : BTreeMap Digest32 WitnessPolicy) :
    Except PolicyErrorKind PolicyState := do
  let state ← startReplay journal witnessPolicies
  replayRevisions journal.genesis 0 journal.genesis.createdAtMs state journal.revisions

structure CatalogScan where
  catalog : BTreeMap Digest32 WitnessPolicy
  lineageRevisions : List (WitnessPolicyId × UInt64)
  successors : BTreeSet Digest32

def scanWitnessPolicy (scan : CatalogScan) (policy : WitnessPolicy) : Except PolicyErrorKind CatalogScan := do
  policy.validate
  let digest ← policy.digest
  let lineage := (policy.witnessPolicyId, policy.revision)
  rejectIf
    (scan.lineageRevisions.contains lineage
      || (decide (policy.revision > 1) && scan.successors.contains policy.predecessorPolicyDigest))
    .invalidAncestry
  rejectIf (scan.catalog.contains digest) .invalidTransition
  return {
    catalog := scan.catalog.insert digest policy
    lineageRevisions := lineage :: scan.lineageRevisions
    successors := if policy.revision > 1 then scan.successors.insert policy.predecessorPolicyDigest
      else scan.successors }

def validatePredecessor (catalog : BTreeMap Digest32 WitnessPolicy) (policy : WitnessPolicy) :
    Except PolicyErrorKind Unit := do
  let predecessor ← orReject catalog[policy.predecessorPolicyDigest]? .invalidAncestry
  rejectIf
    (predecessor.witnessPolicyId != policy.witnessPolicyId
      || checkedAdd predecessor.revision 1 != some policy.revision)
    .invalidAncestry

def witnessPolicyCatalog (policies : List WitnessPolicy) :
    Except PolicyErrorKind (BTreeMap Digest32 WitnessPolicy) := do
  let scan ← policies.foldlM scanWitnessPolicy { catalog := ∅, lineageRevisions := [], successors := ∅ }
  (policies.filter fun policy => decide (policy.revision > 1)).forM (validatePredecessor scan.catalog)
  return scan.catalog

def replayPolicyWithWitnessPolicies (journal : PolicyJournalV1) (policies : List WitnessPolicy) :
    Except PolicyErrorKind PolicyState := do
  let catalog ← witnessPolicyCatalog policies
  replayPolicyWithCatalog journal catalog

end Jury.Policy
