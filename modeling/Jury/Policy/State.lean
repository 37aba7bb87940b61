import Jury.Policy.Witness
import Jury.Protocol.Witness.Decision

-- The state that replaying a policy journal arrives at, who may read what in it, and its hash.
namespace Jury.Policy

open Lib Protocol Vault Witness

inductive Capability where
  | read
  | write
  | administer
deriving DecidableEq

structure PrincipalPolicyState where
  descriptor : PrincipalDescriptorV1
  displayLabel : String
deriving DecidableEq

structure TombstoneState where
  deletionPolicySequence : UInt64
  finalDescriptorDigest : Digest32
  finalItemRevisionHash : Digest32
deriving DecidableEq

structure ItemPolicyState where
  itemKind : ItemKind
  keyEpoch : UInt64
  descriptor : DescriptorMetadataV1
  currentItemRevisionHash : Digest32
  grants : BTreeMap PrincipalId AccessRole
  directSlots : List DirectSlotV1
  witnessedState : Option WitnessedStateV1
deriving DecidableEq

def ItemPolicyState.accessMode (item : ItemPolicyState) : Option ItemAccessMode :=
  slotTableMode item.directSlots item.witnessedState

inductive AccessPath where
  | direct
  | witnessed
  | mixed
  | unavailable
deriving DecidableEq

inductive AccessReason where
  | allowed
  | unknownItem
  | unknownPrincipal
  | roleDenied
  | noUsableDirectSlot
deriving DecidableEq

structure AccessExplanation where
  allowed : Bool
  effectiveRole : Option AccessRole
  path : AccessPath
  carriesQuorumClaim : Bool
  reason : AccessReason
deriving DecidableEq

structure WitnessAuthority where
  policyId : WitnessPolicyId
  policyRevision : UInt64
  policyDigest : Digest32
  threshold : UInt8
  memberIds : List PrincipalId
  reachable : Bool
  carriesQuorumClaim : Bool
deriving DecidableEq

structure PolicyState where
  suite : UInt16
  vaultId : VaultId
  genesisFingerprint : Digest32
  sequence : UInt64
  terminalRevisionHash : Digest32
  -- Hashes of the genesis and of every revision, in sequence order.
  revisionHashes : List Digest32
  principals : BTreeMap PrincipalId PrincipalPolicyState
  historicalPrincipalDescriptors : BTreeMap PrincipalId PrincipalDescriptorV1
  historicalPrincipalIds : BTreeSet PrincipalId
  historicalRecipientKeys : BTreeSet RecipientPublicKey1216
  historicalVerificationKeys : BTreeSet VerificationPublicKey32
  owners : BTreeSet PrincipalId
  items : BTreeMap ItemId ItemPolicyState
  historicalItemIds : BTreeSet ItemId
  tombstones : BTreeMap ItemId TombstoneState
  witnessPolicies : BTreeMap Digest32 WitnessPolicy
deriving DecidableEq

def denied (reason : AccessReason) : AccessExplanation :=
  { allowed := false, effectiveRole := none, path := .unavailable, carriesQuorumClaim := false, reason }

def rolePermits (role : AccessRole) (capability : Capability) : Bool :=
  match role, capability with
  | .reader, .read => true
  | .writer, .read => true
  | .writer, .write => true
  | .owner, _ => true
  | _, _ => false

namespace PolicyState

def predecessorHashForSequence (state : PolicyState) (sequence : UInt64) : Option Digest32 :=
  if sequence = 0 then none else state.revisionHashes[sequence.toNat - 1]?

def effectiveRole (state : PolicyState) (itemId : ItemId) (principalId : PrincipalId) : Option AccessRole :=
  if state.owners.contains principalId then some .owner
  else state.items[itemId]?.bind fun item => item.grants[principalId]?

def effectiveReaderIds (state : PolicyState) (itemId : ItemId) : List PrincipalId :=
  let readers := match state.items[itemId]? with
    | none => state.owners
    | some item => state.owners.insertMany item.grants.keys
  readers.toList

def access (state : PolicyState) (itemId : ItemId) (principalId : PrincipalId) (capability : Capability) :
    AccessExplanation :=
  match state.items[itemId]? with
  | none => denied .unknownItem
  | some item =>
    if !state.principals.contains principalId then denied .unknownPrincipal
    else match state.effectiveRole itemId principalId with
      | none => denied .roleDenied
      | some role =>
        if !rolePermits role capability then { denied .roleDenied with effectiveRole := some role }
        else
          let direct := item.directSlots.any fun slot => slot.recipientPrincipalId == principalId
          let witnessed := item.witnessedState.isSome
          let path := match direct, witnessed with
            | true, true => AccessPath.mixed
            | true, false => AccessPath.direct
            | false, true => AccessPath.witnessed
            | false, false => AccessPath.unavailable
          if path = .unavailable then { denied .noUsableDirectSlot with effectiveRole := some role }
          else {
            allowed := true
            effectiveRole := some role
            path
            carriesQuorumClaim := !direct && witnessed
            reason := .allowed }

def isActiveWitness (state : PolicyState) (id : PrincipalId) : Bool :=
  state.principals[id]?.any fun principal => principal.descriptor.principalKind == .witness

def witnessAuthority (state : PolicyState) (itemId : ItemId) :
    Except PolicyErrorKind (Option WitnessAuthority) := do
  let item ← orReject state.items[itemId]? .unknownItem
  match item.witnessedState with
  | none => return none
  | some witnessed =>
    let first ← orReject witnessed.slots.head? .invalidFormat
    let memberIds := first.capsules.map (·.witnessId)
    let activeCount := memberIds.countP state.isActiveWitness
    return some {
      policyId := first.witnessPolicyId
      policyRevision := first.witnessPolicyRevision
      policyDigest := first.witnessPolicyDigest
      threshold := first.threshold
      memberIds
      reachable := decide (activeCount ≥ first.threshold.toNat)
      carriesQuorumClaim := item.directSlots.isEmpty }

def verificationKey (state : PolicyState) (principalId : PrincipalId) : Option VerificationPublicKey32 :=
  state.historicalPrincipalDescriptors[principalId]?.map (·.verificationPublicKey)

variable [Crypto]

-- The digests of the witness policies that the slots of live items name, in order, without repeats.
def activePolicyDigests (state : PolicyState) : List Digest32 :=
  (Std.ExtTreeSet.ofList
    (state.items.values.flatMap fun item =>
      (item.witnessedState.map (·.slots)).getD [] |>.map (·.witnessPolicyDigest)) compare :
    BTreeSet Digest32).toList

def activeWitnessPolicyEntry (state : PolicyState) (digest : Digest32) :
    Except PolicyErrorKind (Digest32 × WitnessPolicy) := do
  let policy ← orReject state.witnessPolicies[digest]? .missingWitnessPolicy
  rejectIf
    (decide (policy.vaultPolicySequence > state.sequence)
      || state.predecessorHashForSequence policy.vaultPolicySequence != some policy.vaultPolicyHash)
    .invalidAncestry
  let actual ← policy.digest
  rejectIf (actual != digest) .invalidAncestry
  return (digest, policy)

-- One witness may not appear with two different descriptors.
def scanWitness (witnesses : BTreeMap PrincipalId WitnessPolicyDescriptor)
    (descriptor : WitnessPolicyDescriptor) :
    Except PolicyErrorKind (BTreeMap PrincipalId WitnessPolicyDescriptor) := do
  rejectIf (witnesses[descriptor.witnessId]?.any (· != descriptor)) .invalidFormat
  return witnesses.insert descriptor.witnessId descriptor

def activeWitnessPolicyEntries (state : PolicyState) :
    Except PolicyErrorKind (List (Digest32 × WitnessPolicy)) := do
  let policies ← state.activePolicyDigests.mapM state.activeWitnessPolicyEntry
  let _ ← (policies.flatMap fun entry => entry.2.activeWitnesses).foldlM scanWitness ∅
  return policies

def activeWitnessPolicySetDigest (state : PolicyState) : Except PolicyErrorKind Digest32 := do
  let entries ← state.activeWitnessPolicyEntries
  (Witness.activeWitnessPolicySetDigest (entries.map (·.1))).mapError fun _ => .invalidFormat

def listEntries (entries : List Bytes) : Except PolicyErrorKind Bytes :=
  orReject (listFixed entries id) .capacityExhausted

def itemEntry (itemId : ItemId) (item : ItemPolicyState) : Except PolicyErrorKind Bytes := do
  let mode ← orReject item.accessMode .invalidTransition
  return itemId.asBytes.bytes ++
    (octets [item.itemKind.tag, mode.tag] ++
    (u64be item.keyEpoch ++
    (item.descriptor.canonicalBytes ++
    item.currentItemRevisionHash.bytes)))

def tombstoneEntry (itemId : ItemId) (tombstone : TombstoneState) : Bytes :=
  itemId.asBytes.bytes ++
  (u64be tombstone.deletionPolicySequence ++
  (tombstone.finalDescriptorDigest.bytes ++
  tombstone.finalItemRevisionHash.bytes))

def grantEntries (itemId : ItemId) (item : ItemPolicyState) : List Bytes :=
  item.grants.toList.map fun (principalId, role) =>
    itemId.asBytes.bytes ++ (principalId.asBytes.bytes ++ octets [role.tag])

-- Direct slots of all items in the order of item, role, recipient and bytes.
def directEntries (state : PolicyState) : List Bytes :=
  let keyed := state.items.toList.flatMap fun (itemId, item) =>
    item.directSlots.map fun slot =>
      (itemId, slot.contentRole, slot.recipientPrincipalId, slot.canonicalBytes)
  (sortByKey keyed id).map fun entry => entry.2.2.2

def sortedWitnessedSlots (state : PolicyState) : List WitnessedSlotV1 :=
  let slots := state.items.values.flatMap fun item => (item.witnessedState.map (·.slots)).getD []
  sortByKey slots fun slot =>
    (slot.itemId, slot.contentRole, slot.revision, slot.revisionSealId, slot.slotId)

def normalizedStatePreimage (state : PolicyState) : Except PolicyErrorKind Bytes := do
  let principals ← orReject (listBytes (state.principals.values.map (·.descriptor.canonicalBytes)))
    .capacityExhausted
  let owners ← listEntries (state.owners.toList.map (·.asBytes.bytes))
  let items ← state.items.toList.mapM fun (itemId, item) => itemEntry itemId item
  let items ← listEntries items
  let tombstones ← listEntries (state.tombstones.toList.map fun (itemId, entry) => tombstoneEntry itemId entry)
  let grants ← listEntries (state.items.toList.flatMap fun (itemId, item) => grantEntries itemId item)
  let direct ← listEntries state.directEntries
  let slots := state.sortedWitnessedSlots
  let witnessed ← if slots.isEmpty then pure (u8 0) else do
    let digest ← orReject (witnessedSlotSetDigest slots) .invalidFormat
    pure (u8 1 ++ digest.bytes)
  let revisions ← listEntries (state.items.toList.map fun (itemId, item) =>
    itemId.asBytes.bytes ++ item.currentItemRevisionHash.bytes)
  return jce "jury-v1/policy-state/hash" ++
    (u16be state.suite ++
    (state.vaultId.asBytes.bytes ++
    (u64be state.sequence ++
    (principals ++
    (owners ++
    (items ++
    (tombstones ++
    (grants ++
    (direct ++
    (witnessed ++
    revisions))))))))))

def normalizedStateHash (state : PolicyState) : Except PolicyErrorKind Digest32 := do
  let preimage ← state.normalizedStatePreimage
  return sha256 preimage

end PolicyState

structure WitnessAccessRule where
  policyId : WitnessPolicyId
  policyRevision : UInt64
  policyDigest : Digest32
  operation : WitnessOperation
  eligibleApproverIds : List PrincipalId
  approvalThreshold : UInt8
  witnessIds : List PrincipalId
  witnessThreshold : UInt8
  allowedRequestLifetimeMs : UInt64
  maxTimeoutMs : UInt64
  maxOutputBytes : UInt32
  maxTargetCount : UInt8
  requiredPlatformAssurance : PlatformAssurance
  automaticReadTargets : List AutomaticReadTarget
  carriesQuorumClaim : Bool
deriving DecidableEq

namespace PolicyState

def witnessedPolicy (state : PolicyState) (itemId : ItemId) :
    Except PolicyErrorKind (WitnessAuthority × WitnessPolicy) := do
  let authority ← state.witnessAuthority itemId
  let authority ← orReject authority .invalidRole
  let policy ← orReject state.witnessPolicies[authority.policyDigest]? .missingWitnessPolicy
  return (authority, policy)

def witnessAccessRule (state : PolicyState) (itemId : ItemId) (operation : WitnessOperation) :
    Except PolicyErrorKind WitnessAccessRule := do
  let (authority, policy) ← state.witnessedPolicy itemId
  let rule ← orReject (policy.operationRules.find? fun rule => rule.operation == operation) .unauthorized
  return {
    policyId := policy.witnessPolicyId
    policyRevision := policy.revision
    policyDigest := authority.policyDigest
    operation
    eligibleApproverIds := rule.eligibleApproverIds
    approvalThreshold := rule.approvalThreshold
    witnessIds := policy.activeWitnesses.map (·.witnessId)
    witnessThreshold := policy.witnessThreshold
    allowedRequestLifetimeMs := rule.allowedRequestLifetimeMs
    maxTimeoutMs := rule.maxTimeoutMs
    maxOutputBytes := rule.maxOutputBytes
    maxTargetCount := rule.maxTargetCount
    requiredPlatformAssurance := rule.requiredPlatformAssurance
    automaticReadTargets := rule.automaticReadTargets
    carriesQuorumClaim := authority.carriesQuorumClaim }

variable [Crypto]

def intendedWitnessSetDigest (state : PolicyState) (itemId : ItemId) : Except PolicyErrorKind Digest32 := do
  let (_, policy) ← state.witnessedPolicy itemId
  let entries ← orReject
    (listFixed policy.activeWitnesses fun descriptor =>
      descriptor.witnessId.asBytes.bytes ++
      (octets [descriptor.shareIndex] ++
      (descriptor.signingKeyFingerprint.bytes ++
      descriptor.contributionKeyFingerprint.bytes)))
    .capacityExhausted
  return sha256 (jce "jury-witness-v1/intended-witness-set/hash" ++ entries)

end PolicyState

end Jury.Policy
