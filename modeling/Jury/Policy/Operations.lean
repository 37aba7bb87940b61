import Jury.Policy.State

-- What the operations of one policy revision do to the state before it. Key rotations are collected
-- while the operations are applied in order and take effect after the last of them.
namespace Jury.Policy

open Lib Protocol Vault

structure ReaderRotation where
  priorEpoch : UInt64
  nextEpoch : UInt64
  priorReaderIds : List PrincipalId
  nextReaderIds : List PrincipalId
  replacementDescriptor : DescriptorMetadataV1
  replacementCurrentItemRevisionHash : Digest32

structure SlotRotation where
  nextEpoch : UInt64
  directSlots : List DirectSlotV1
  witnessedState : Option WitnessedStateV1

-- What an operation touches; one revision may touch nothing twice.
inductive OperationKey where
  | principal (tag : UInt8) (id : PrincipalId)
  | item (tag : UInt8) (id : ItemId)
  | itemPrincipal (tag : UInt8) (itemId : ItemId) (principalId : PrincipalId)
deriving DecidableEq

def operationKey : PolicyOperationV1 → OperationKey
  | .principalAdd descriptor _ _ => .principal 1 descriptor.principalId
  | .principalLabelChange principalId _ _ => .principal 2 principalId
  | .principalRemove principalId _ => .principal 3 principalId
  | .ownerGrant principalId => .principal 4 principalId
  | .ownerRevoke principalId => .principal 5 principalId
  | .itemCreate itemId _ _ _ _ _ _ => .item 6 itemId
  | .itemRename itemId _ _ => .item 7 itemId
  | .itemDelete itemId _ _ _ => .item 8 itemId
  | .itemRoleChange itemId principalId _ _ => .itemPrincipal 9 itemId principalId
  | .itemReaderSetChange itemId _ _ _ _ _ _ => .item 10 itemId
  | .itemSlotsReplace itemId _ _ _ => .item 11 itemId
  | .principalReplace priorPrincipalId _ _ => .principal 12 priorPrincipalId

def isHumanOrMachine (kind : PrincipalKind) : Bool := kind == .human || kind == .machine

variable [Crypto]

def validateDescriptor (descriptor : PrincipalDescriptorV1) : Except PolicyErrorKind Unit := do
  rejectIf (descriptor.descriptorVersion != 1) .invalidFormat
  requireSignature descriptor.verificationPublicKey descriptor.selfSignaturePreimage descriptor.selfSignature

def requireFresh (state : PolicyState) (descriptor : PrincipalDescriptorV1) : Except PolicyErrorKind Unit :=
  rejectIf
    (state.historicalPrincipalIds.contains descriptor.principalId
      || state.historicalRecipientKeys.contains descriptor.recipientPublicKey
      || state.historicalVerificationKeys.contains descriptor.verificationPublicKey)
    .identifierReused

def recordDescriptor (state : PolicyState) (descriptor : PrincipalDescriptorV1) : PolicyState :=
  { state with
    historicalPrincipalIds := state.historicalPrincipalIds.insert descriptor.principalId
    historicalPrincipalDescriptors :=
      state.historicalPrincipalDescriptors.insert descriptor.principalId descriptor
    historicalRecipientKeys := state.historicalRecipientKeys.insert descriptor.recipientPublicKey
    historicalVerificationKeys := state.historicalVerificationKeys.insert descriptor.verificationPublicKey }

def addPrincipal (state : PolicyState) (descriptor : PrincipalDescriptorV1) (displayLabel : String) :
    Except PolicyErrorKind PolicyState := do
  validateDescriptor descriptor
  rejectIf (displayLabel.isEmpty || decide ((utf8 displayLabel).length > MAX_PUBLIC_LABEL_BYTES))
    .invalidTransition
  requireFresh state descriptor
  return { recordDescriptor state descriptor with
    principals := state.principals.insert descriptor.principalId { descriptor, displayLabel } }

def changeLabel (state : PolicyState) (principalId : PrincipalId) (priorLabel nextLabel : String) :
    Except PolicyErrorKind PolicyState := do
  let principal ← orReject state.principals[principalId]? .unknownPrincipal
  rejectIf
    (principal.displayLabel != priorLabel
      || nextLabel.isEmpty
      || decide ((utf8 nextLabel).length > MAX_PUBLIC_LABEL_BYTES)
      || priorLabel == nextLabel)
    .invalidTransition
  return { state with
    principals := state.principals.insert principalId { principal with displayLabel := nextLabel } }

def removePrincipal (state : PolicyState) (principalId : PrincipalId) : Except PolicyErrorKind PolicyState := do
  rejectIf (state.owners.contains principalId) .invalidRole
  rejectIf (state.items.values.any fun item => item.grants.contains principalId) .invalidTransition
  rejectIf (!state.principals.contains principalId) .unknownPrincipal
  return { state with principals := state.principals.erase principalId }

def grantOwner (state : PolicyState) (principalId : PrincipalId) : Except PolicyErrorKind PolicyState := do
  let principal ← orReject state.principals[principalId]? .unknownPrincipal
  rejectIf (principal.descriptor.principalKind != .human || state.owners.contains principalId) .invalidRole
  return { state with owners := state.owners.insert principalId }

def revokeOwner (state : PolicyState) (principalId : PrincipalId) : Except PolicyErrorKind PolicyState := do
  rejectIf (!state.owners.contains principalId) .invalidRole
  rejectIf (state.owners.erase principalId).isEmpty .soleOwner
  return { state with owners := state.owners.erase principalId }

def collectGrant (grants : BTreeMap PrincipalId AccessRole) (slot : DirectSlotV1) :
    Except PolicyErrorKind (BTreeMap PrincipalId AccessRole) :=
  if slot.accessRole = .owner then .ok grants
  else do
    rejectIf (grants[slot.recipientPrincipalId]?.any (· != slot.accessRole)) .invalidRole
    return grants.insert slot.recipientPrincipalId slot.accessRole

def createItem (state : PolicyState) (itemId : ItemId) (itemKind : ItemKind) (keyEpoch : UInt64)
    (descriptor : DescriptorMetadataV1) (currentHash : Digest32) (directSlots : List DirectSlotV1)
    (witnessedState : Option WitnessedStateV1) : Except PolicyErrorKind PolicyState := do
  rejectIf (state.historicalItemIds.contains itemId) .identifierReused
  let grants ← directSlots.foldlM collectGrant ∅
  return { state with
    historicalItemIds := state.historicalItemIds.insert itemId
    items := state.items.insert itemId {
      itemKind, keyEpoch, descriptor, currentItemRevisionHash := currentHash, grants, directSlots,
      witnessedState } }

def renameItem (state : PolicyState) (itemId : ItemId) (priorDescriptorRevision : UInt64)
    (nextDescriptor : DescriptorMetadataV1) : Except PolicyErrorKind PolicyState := do
  let item ← orReject state.items[itemId]? .unknownItem
  rejectIf
    (item.descriptor.revision != priorDescriptorRevision || nextDescriptor.keyEpoch != item.keyEpoch)
    .invalidTransition
  return { state with items := state.items.insert itemId { item with descriptor := nextDescriptor } }

def deleteItem (state : PolicyState) (itemId : ItemId) (descriptorDigest revisionHash : Digest32)
    (sequence : UInt64) : Except PolicyErrorKind PolicyState := do
  let item ← orReject state.items[itemId]? .unknownItem
  rejectIf
    (item.descriptor.ciphertextDigest != descriptorDigest || item.currentItemRevisionHash != revisionHash)
    .invalidTransition
  return { state with
    items := state.items.erase itemId
    tombstones := state.tombstones.insert itemId {
      deletionPolicySequence := sequence
      finalDescriptorDigest := descriptorDigest
      finalItemRevisionHash := revisionHash } }

def changeRole (state : PolicyState) (itemId : ItemId) (principalId : PrincipalId)
    (priorRole nextRole : Option AccessRole) : Except PolicyErrorKind PolicyState := do
  let principal ← orReject state.principals[principalId]? .unknownPrincipal
  rejectIf
    (!isHumanOrMachine principal.descriptor.principalKind
      || state.owners.contains principalId
      || priorRole == some .owner
      || nextRole == some .owner)
    .invalidRole
  let item ← orReject state.items[itemId]? .unknownItem
  rejectIf (item.grants[principalId]? != priorRole) .invalidTransition
  let grants := match nextRole with
    | some role => item.grants.insert principalId role
    | none => item.grants.erase principalId
  return { state with items := state.items.insert itemId { item with grants } }

def moveGrant (priorId nextId : PrincipalId) (item : ItemPolicyState) : ItemPolicyState :=
  match item.grants[priorId]? with
  | none => item
  | some role => { item with grants := (item.grants.erase priorId).insert nextId role }

def replacePrincipal (state : PolicyState) (priorId : PrincipalId) (nextDescriptor : PrincipalDescriptorV1) :
    Except PolicyErrorKind PolicyState := do
  validateDescriptor nextDescriptor
  let prior ← orReject state.principals[priorId]? .unknownPrincipal
  rejectIf (prior.descriptor.principalKind != nextDescriptor.principalKind) .invalidRole
  requireFresh state nextDescriptor
  let nextId := nextDescriptor.principalId
  return { recordDescriptor state nextDescriptor with
    principals := (state.principals.erase priorId).insert nextId {
      descriptor := nextDescriptor, displayLabel := prior.displayLabel }
    owners := if state.owners.contains priorId then (state.owners.erase priorId).insert nextId else state.owners
    items := state.items.map fun _ item => moveGrant priorId nextId item }

-- The state built so far by the operations of one revision, and the rotations they ask for.
structure Draft where
  next : PolicyState
  readerRotations : BTreeMap ItemId ReaderRotation
  slotRotations : BTreeMap ItemId SlotRotation
  mutationKeys : List OperationKey

def slotSuitesDiffer (suite : UInt16) : PolicyOperationV1 → Bool
  | .itemCreate _ _ _ _ _ directSlots witnessedState | .itemSlotsReplace _ _ directSlots witnessedState =>
    directSlots.any (fun slot => slot.suite != suite)
      || witnessedState.any fun state => state.slots.any fun slot => slot.suite != suite
  | _ => false

def mutate (draft : Draft) (operation : PolicyOperationV1) : Except PolicyErrorKind Draft :=
  match operation with
  | .principalAdd descriptor displayLabel _ => do
    let next ← addPrincipal draft.next descriptor displayLabel
    return { draft with next }
  | .principalLabelChange principalId priorLabel nextLabel => do
    let next ← changeLabel draft.next principalId priorLabel nextLabel
    return { draft with next }
  | .principalRemove principalId _ => do
    let next ← removePrincipal draft.next principalId
    return { draft with next }
  | .ownerGrant principalId => do
    let next ← grantOwner draft.next principalId
    return { draft with next }
  | .ownerRevoke principalId => do
    let next ← revokeOwner draft.next principalId
    return { draft with next }
  | .itemCreate itemId itemKind keyEpoch descriptor currentHash directSlots witnessedState => do
    let next ← createItem draft.next itemId itemKind keyEpoch descriptor currentHash directSlots witnessedState
    return { draft with next }
  | .itemRename itemId priorDescriptorRevision nextDescriptor => do
    let next ← renameItem draft.next itemId priorDescriptorRevision nextDescriptor
    return { draft with next }
  | .itemDelete itemId descriptorDigest revisionHash sequence => do
    let next ← deleteItem draft.next itemId descriptorDigest revisionHash sequence
    return { draft with next }
  | .itemRoleChange itemId principalId priorRole nextRole => do
    let next ← changeRole draft.next itemId principalId priorRole nextRole
    return { draft with next }
  | .itemReaderSetChange itemId priorEpoch nextEpoch priorReaderIds nextReaderIds replacementDescriptor
      replacementCurrentItemRevisionHash =>
    return { draft with
      readerRotations := draft.readerRotations.insert itemId {
        priorEpoch, nextEpoch, priorReaderIds, nextReaderIds, replacementDescriptor,
        replacementCurrentItemRevisionHash } }
  | .itemSlotsReplace itemId nextEpoch directSlots witnessedState =>
    return { draft with
      slotRotations := draft.slotRotations.insert itemId { nextEpoch, directSlots, witnessedState } }
  | .principalReplace priorPrincipalId nextDescriptor _ => do
    let next ← replacePrincipal draft.next priorPrincipalId nextDescriptor
    return { draft with next }

def applyOperation (prior : PolicyState) (sequence : UInt64) (draft : Draft) (operation : PolicyOperationV1) :
    Except PolicyErrorKind Draft := do
  rejectIf (slotSuitesDiffer prior.suite operation) .invalidFormat
  (validateOperation operation sequence prior.vaultId prior.genesisFingerprint).mapError fun _ => .invalidFormat
  let key := operationKey operation
  rejectIf (draft.mutationKeys.contains key) .ambiguousMutation
  mutate { draft with mutationKeys := key :: draft.mutationKeys } operation

-- The two halves of rotating one item: its content under the new epoch, then its slots.
def rotateContent (item : ItemPolicyState) (rotation : Option ReaderRotation) (currentEpoch expectedEpoch : UInt64)
    (priorReaders nextReaders : List PrincipalId) : Except PolicyErrorKind ItemPolicyState :=
  match rotation with
  | none => .ok item
  | some rotation => do
    rejectIf
      (rotation.priorEpoch != currentEpoch
        || rotation.nextEpoch != expectedEpoch
        || rotation.priorReaderIds != priorReaders
        || rotation.nextReaderIds != nextReaders
        || rotation.replacementDescriptor.keyEpoch != expectedEpoch)
      .invalidTransition
    return { item with
      descriptor := rotation.replacementDescriptor
      currentItemRevisionHash := rotation.replacementCurrentItemRevisionHash }

def rotateSlots (item : ItemPolicyState) (rotation : Option SlotRotation) (expectedEpoch : UInt64)
    (readersChanged : Bool) : Except PolicyErrorKind ItemPolicyState :=
  match rotation with
  | none => .ok item
  | some rotation => do
    rejectIf (rotation.nextEpoch != expectedEpoch) .invalidTransition
    rejectIf
      (!readersChanged
        && item.directSlots == rotation.directSlots
        && item.witnessedState == rotation.witnessedState)
      .invalidTransition
    rejectIf (item.descriptor.keyEpoch != expectedEpoch) .incompleteRotation
    return { item with
      keyEpoch := expectedEpoch
      directSlots := rotation.directSlots
      witnessedState := rotation.witnessedState }

def rotateItem (prior : PolicyState) (draft : Draft) (itemId : ItemId) : Except PolicyErrorKind Draft := do
  let priorReaders := prior.effectiveReaderIds itemId
  let nextReaders := draft.next.effectiveReaderIds itemId
  let readersChanged := priorReaders != nextReaders
  let readerRotation := draft.readerRotations[itemId]?
  let slotRotation := draft.slotRotations[itemId]?
  rejectIf (readersChanged && (readerRotation.isNone || slotRotation.isNone)) .incompleteRotation
  rejectIf (readerRotation.isSome && slotRotation.isNone) .incompleteRotation
  let priorItem ← orReject prior.items[itemId]? .unknownItem
  let expectedEpoch ← orReject (checkedAdd priorItem.keyEpoch 1) .capacityExhausted
  let item ← orReject draft.next.items[itemId]? .unknownItem
  let item ← rotateContent item readerRotation priorItem.keyEpoch expectedEpoch priorReaders nextReaders
  let item ← rotateSlots item slotRotation expectedEpoch readersChanged
  return { draft with
    next := { draft.next with items := draft.next.items.insert itemId item }
    readerRotations := draft.readerRotations.erase itemId
    slotRotations := draft.slotRotations.erase itemId }

def commonItems (prior next : PolicyState) : List ItemId :=
  prior.items.keys.filter fun itemId => next.items.contains itemId

def applyRotations (prior : PolicyState) (draft : Draft) : Except PolicyErrorKind PolicyState := do
  let draft ← (commonItems prior draft.next).foldlM (rotateItem prior) draft
  rejectIf (!draft.readerRotations.isEmpty || !draft.slotRotations.isEmpty) .unknownItem
  return draft.next

end Jury.Policy
