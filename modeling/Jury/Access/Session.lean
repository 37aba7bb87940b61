import Jury.Access.Witnessed
import Jury.Cli.Template
import Jury.LocalState.Checkpoint

-- Sessions of one principal over a validated vault. A session opens single parts of single items through a provider
-- of access; for witnessed access its caller shows it the binding of a request beforehand.
namespace Jury.Access

open Lib Protocol Vault Policy LocalState Engine

def MAX_PREFLIGHT_ITEMS : Nat := 64

def MAX_ACCESSIBLE_CATALOG_ITEMS : Nat := 1024

inductive SessionPhase where
  | parsed
  | publicValidated
  | principal
  | witnessPending
  | approved
  | denied
  | expired
  | stale
  | replay
  | unavailable
  | cancelled
  | failed
  | unlockedItem
  | locked
  | insufficientQuorum
deriving DecidableEq

def SessionPhase.isOperable : SessionPhase → Bool
  | principal | approved | unlockedItem | witnessPending => true
  | _ => false

inductive SessionErrorKind where
  | invalidPublicState
  | scopeMismatch
  | checkpointConflict
  | unknownPrincipal
  | invalidLimits
  | clockRegression
  | expired
  | cancelled
  | unavailable
  | invalidBinding
  | conflict
  | capacityExhausted
  | locked
  | failed
deriving DecidableEq

structure SessionLimits where
  inactivityTimeoutMs : UInt64
  absoluteLifetimeMs : UInt64
deriving DecidableEq

def SessionLimits.new (inactivityTimeoutMs absoluteLifetimeMs : UInt64) : Except SessionErrorKind SessionLimits := do
  rejectIf
    (inactivityTimeoutMs == 0 || absoluteLifetimeMs == 0 || decide (inactivityTimeoutMs > absoluteLifetimeMs))
    .invalidLimits
  return { inactivityTimeoutMs, absoluteLifetimeMs }

structure RevisionToken where
  suite : UInt16
  vaultId : VaultId
  genesisFingerprint : Digest32
  itemId : ItemId
  keyEpoch : UInt64
  contentRole : ContentRole
  revision : UInt64
  revisionSealId : RevisionSealId
  policySequence : UInt64
  policyRevisionHash : Digest32
  principalId : PrincipalId
  accessRole : AccessRole
  itemAccessMode : ItemAccessMode
  capability : Capability
deriving DecidableEq

def RevisionToken.current (policy : PolicyState) (target : RevisionAccessTarget) (capability : Capability) :
    RevisionToken where
  suite := target.suite
  vaultId := target.vaultId
  genesisFingerprint := policy.genesisFingerprint
  itemId := target.itemId
  keyEpoch := target.keyEpoch
  contentRole := target.contentRole
  revision := target.revision
  revisionSealId := target.revisionSealId
  policySequence := target.policySequence
  policyRevisionHash := target.policyRevisionHash
  principalId := target.principalId
  accessRole := target.accessRole
  itemAccessMode := target.itemAccessMode
  capability

structure WitnessRequestBinding where
  requestId : Digest32
  requestDigest : Digest32
  actionManifestDigest : Digest32
  approvalTargetDigest : Digest32
  workloadDigest : Digest32
  policyCheckpointDigest : Digest32
  witnessPolicyId : WitnessPolicyId
  witnessPolicyRevision : UInt64
  witnessPolicyDigest : Digest32
  intendedWitnessSetDigest : Digest32
  requestSessionKeyFingerprint : Digest32
  slotId : SlotId
  operation : WitnessOperation
  issuedAtMs : UInt64
  notBeforeMs : Option UInt64
  expiresAtMs : UInt64
  revision : RevisionToken
deriving DecidableEq

structure AccessibleCatalogEntry where
  itemId : ItemId
  name : List UInt8
  role : AccessRole
deriving DecidableEq

def accessibleCatalog (entries : List AccessibleCatalogEntry) :
    Except SessionErrorKind (List AccessibleCatalogEntry) := do
  rejectIf (decide (entries.length > MAX_ACCESSIBLE_CATALOG_ITEMS)) .capacityExhausted
  rejectIf (!decide (entries.map (·.itemId)).Nodup || !decide (entries.map (·.name)).Nodup) .conflict
  return entries

structure BodyMetadata where
  fieldCount : Nat
  updatedAtMs : Option UInt64
deriving DecidableEq

structure ValidatedPublicVault where
  policy : PolicyState
  envelopes : List ItemEnvelopeV1
  checkpointCandidate : CheckpointCandidate

structure PrincipalVaultSession where
  publicVault : ValidatedPublicVault
  principalId : PrincipalId
  witnessPolicyCheckpointDigest : Option Digest32
  limits : SessionLimits
  startedAtMs : UInt64
  lastActivityAtMs : UInt64
  absoluteExpiresAtMs : UInt64
  phase : SessionPhase
  catalog : List AccessibleCatalogEntry
  bodyMetadata : BTreeMap ItemId BodyMetadata
  pending : Option WitnessRequestBinding
  activeRevision : Option RevisionToken

inductive SessionAccessOutcome (α : Type) where
  | direct (value : α)
  | witnessedApproved (value : α)
  | pending
  | denied
  | expired
  | stale
  | replay
  | unavailable
  | cancelled
  | failed
  | insufficientQuorum
deriving DecidableEq

def outcomeForPhase {α : Type} : SessionPhase → SessionAccessOutcome α
  | .denied => .denied
  | .expired => .expired
  | .stale => .stale
  | .replay => .replay
  | .unavailable => .unavailable
  | .cancelled => .cancelled
  | .insufficientQuorum => .insufficientQuorum
  | _ => .failed

def mapTargetError : AccessProviderErrorKind → SessionErrorKind
  | .unauthorized | .wrongPrincipal | .directSlotUnavailable | .invalidRequest => .unavailable
  | .stalePolicy | .invalidAncestry => .checkpointConflict
  | .cancelled => .cancelled
  | _ => .failed

def failurePhase : AccessProviderErrorKind → SessionPhase
  | .cancelled => .cancelled
  | .stalePolicy => .stale
  | .unauthorized | .wrongPrincipal | .directSlotUnavailable => .unavailable
  | _ => .failed

structure AccessAttempt where
  itemId : ItemId
  contentRole : ContentRole
  capability : Capability
  binding : Option WitnessRequestBinding
  nowMs : UInt64
  cancellation : CancellationCheck

-- Direct access: the private key of the principal shows as what it opens.
structure DirectItemAccessProvider where
  principalId : PrincipalId
  openDirectSlot : DirectSlotV1 → Except AccessProviderErrorKind Bytes

inductive ItemAccessProvider where
  | direct (provider : DirectItemAccessProvider)
  | witnessed (provider : WitnessedItemAccessProvider)

structure UnlockedItem where
  state : ItemStateV1
  authority : AccessCompletion
  revision : RevisionToken

abbrev SessionM := EStateM SessionErrorKind PrincipalVaultSession

def ValidatedPublicVault.envelope (vault : ValidatedPublicVault) (itemId : ItemId) : Option ItemEnvelopeV1 :=
  vault.envelopes.find? fun envelope => envelope.itemId == itemId

inductive BindingCheck where
  | terminal (phase : SessionPhase)
  | invalid
  | early (binding : WitnessRequestBinding)
  | admitted

namespace PrincipalVaultSession

def enterTerminal (session : PrincipalVaultSession) (phase : SessionPhase) : PrincipalVaultSession :=
  { session with catalog := [], bodyMetadata := ∅, pending := none, activeRevision := none, phase }

def inoperable : SessionPhase → SessionErrorKind
  | .locked => .locked
  | .expired => .expired
  | .cancelled => .cancelled
  | .unavailable => .unavailable
  | _ => .failed

def checkLive (nowMs : UInt64) : SessionM Unit := do
  let session ← get
  if !session.phase.isOperable then throw (inoperable session.phase)
  else if nowMs < session.lastActivityAtMs then
    set (session.enterTerminal .failed)
    throw .clockRegression
  else if nowMs ≥ session.absoluteExpiresAtMs
      || nowMs - session.lastActivityAtMs ≥ session.limits.inactivityTimeoutMs then
    set (session.enterTerminal .expired)
    throw .expired
  else return ()

def finish {α : Type} (phase : SessionPhase) : SessionM (SessionAccessOutcome α) := do
  let session ← get
  set (session.enterTerminal phase)
  return outcomeForPhase phase

def bindingDigests (binding : WitnessRequestBinding) : List Digest32 :=
  [binding.requestId, binding.requestDigest, binding.actionManifestDigest, binding.approvalTargetDigest,
    binding.workloadDigest, binding.policyCheckpointDigest, binding.witnessPolicyDigest,
    binding.intendedWitnessSetDigest, binding.requestSessionKeyFingerprint]

def slotMatchesToken (binding : WitnessRequestBinding) (token : RevisionToken) (slot : WitnessedSlotV1) : Bool :=
  slot.slotId == binding.slotId
    && slot.contentRole == token.contentRole
    && slot.revision == token.revision
    && slot.revisionSealId == token.revisionSealId
    && slot.keyEpoch == token.keyEpoch
    && slot.itemAccessMode == token.itemAccessMode

def timesValid (session : PrincipalVaultSession) (binding : WitnessRequestBinding) (rule : WitnessAccessRule)
    (nowMs : UInt64) : Bool :=
  decide (session.startedAtMs ≤ binding.issuedAtMs)
    && decide (binding.issuedAtMs ≤ nowMs)
    && decide (nowMs < binding.expiresAtMs)
    && decide (binding.expiresAtMs ≤ session.absoluteExpiresAtMs)
    && decide (binding.issuedAtMs < binding.expiresAtMs)
    && decide (binding.expiresAtMs - binding.issuedAtMs ≤ rule.allowedRequestLifetimeMs)
    && binding.notBeforeMs.all fun notBefore =>
      decide (binding.issuedAtMs ≤ notBefore) && decide (notBefore ≤ binding.expiresAtMs)

variable [Crypto]

def validateWitnessBinding (session : PrincipalVaultSession) (binding : WitnessRequestBinding) (token : RevisionToken)
    (nowMs : UInt64) : Except SessionErrorKind Unit := do
  let policy := session.publicVault.policy
  let expectedCheckpoint ← orReject session.witnessPolicyCheckpointDigest .invalidBinding
  let authority ← (policy.witnessAuthority token.itemId).mapError fun _ => SessionErrorKind.invalidBinding
  let authority ← orReject authority .invalidBinding
  let rule ← (policy.witnessAccessRule token.itemId binding.operation).mapError fun _ => SessionErrorKind.invalidBinding
  let intended ← (policy.intendedWitnessSetDigest token.itemId).mapError fun _ => SessionErrorKind.invalidBinding
  let slots := ((policy.items[token.itemId]?.bind (·.witnessedState)).map (·.slots)).getD []
  rejectIf
    (!(bindingDigests binding).all (fun digest => digest != ZERO_DIGEST)
      || binding.revision != token
      || binding.policyCheckpointDigest != expectedCheckpoint
      || binding.witnessPolicyId != authority.policyId
      || binding.witnessPolicyRevision != authority.policyRevision
      || binding.witnessPolicyDigest != authority.policyDigest
      || binding.witnessPolicyId != rule.policyId
      || binding.witnessPolicyRevision != rule.policyRevision
      || binding.witnessPolicyDigest != rule.policyDigest
      || binding.intendedWitnessSetDigest != intended
      || !session.timesValid binding rule nowMs
      || !(token.itemAccessMode == .witnessedOnly || token.itemAccessMode == .mixed)
      || !slots.any (slotMatchesToken binding token))
    .invalidBinding

def checkBinding (session : PrincipalVaultSession) (binding : Option WitnessRequestBinding) (token : RevisionToken)
    (nowMs : UInt64) : BindingCheck :=
  if session.pending.isSome && binding != session.pending then .terminal .replay
  else match binding with
    | none => .admitted
    | some binding =>
      if binding.expiresAtMs ≤ nowMs then .terminal .expired
      else if !(session.validateWitnessBinding binding token nowMs).isOk then
        if session.pending.isSome then .terminal .replay else .invalid
      else if binding.notBeforeMs.any fun notBefore => decide (nowMs < notBefore) then .early binding
      else .admitted

def applyWitnessStatus {α : Type} (binding : Option WitnessRequestBinding) :
    WitnessedAccessStatus → SessionM (SessionAccessOutcome α)
  | .pending => do
    let session ← get
    set { session with pending := binding, phase := .witnessPending }
    return .pending
  | .denied => finish .denied
  | .expired => finish .expired
  | .stale => finish .stale
  | .replay => finish .replay
  | .unavailable => finish .unavailable
  | .cancelled => finish .cancelled
  | .insufficientQuorum => finish .insufficientQuorum

def conclude {α ε : Type} (attempt : AccessAttempt) (token : RevisionToken) :
    Except (ItemAccessError ε) (ItemAccessOutcome α) → SessionM (SessionAccessOutcome α)
  | .ok (.complete authority value) => do
    let session ← get
    let authorityMatches := match authority with
      | .direct => attempt.binding.isNone && session.pending.isNone
      | .witnessedApproved => attempt.binding.isSome
    if !authorityMatches then finish .replay
    else
      set { session with
        pending := none
        activeRevision := some token
        lastActivityAtMs := attempt.nowMs
        phase := match authority with
          | .direct => .unlockedItem
          | .witnessedApproved => .approved }
      return match authority with
        | .direct => .direct value
        | .witnessedApproved => .witnessedApproved value
  | .ok (.witnessed status) =>
    if attempt.binding.isNone then finish .failed else applyWitnessStatus attempt.binding status
  | .error (.provider kind) => finish (failurePhase kind)
  | .error (.consumer _) => finish .failed

end PrincipalVaultSession

variable [Crypto]

def DirectItemAccessProvider.accessRevision {α ε : Type} (provider : DirectItemAccessProvider)
    (request : RevisionAccessRequest) (cancellation : CancellationCheck)
    (consumer : ScopedRevisionAccess → Consumed α ε) : Except (ItemAccessError ε) (ItemAccessOutcome α) :=
  match preflightDirect provider.principalId request with
  | .error kind => .error (.provider kind)
  | .ok slot =>
    if cancellation.accessed then .error (.provider .cancelled)
    else match provider.openDirectSlot slot with
      | .error kind => .error (.provider kind)
      | .ok secret =>
        if cancellation.released then .error (.provider .cancelled)
        else match consumer { role := request.target.contentRole, envelope := request.envelope, secret } with
          | .panicked => .error (.provider .consumerPanicked)
          | .failed error => .error (.consumer error)
          | .returned value => .ok (.complete .direct value)

variable [ContentCrypto]

def ItemAccessProvider.accessRevision {α ε : Type} (provider : ItemAccessProvider) (request : RevisionAccessRequest)
    (cancellation : CancellationCheck) (consumer : ScopedRevisionAccess → Consumed α ε) :
    Except (ItemAccessError ε) (ItemAccessOutcome α) :=
  match provider with
  | .direct provider => provider.accessRevision request cancellation consumer
  | .witnessed provider => (provider.accessRevision request cancellation consumer).outcome

namespace PrincipalVaultSession

def accessRevision {α : Type} (provider : ItemAccessProvider) (attempt : AccessAttempt)
    (consumer : ScopedRevisionAccess → Except AccessProviderErrorKind α) : SessionM (SessionAccessOutcome α) := do
  checkLive attempt.nowMs
  let session ← get
  if attempt.cancellation.asked then finish .cancelled
  else
    let policy := session.publicVault.policy
    let envelope ← check (orReject (session.publicVault.envelope attempt.itemId) .unavailable)
    let target ← check ((RevisionAccessTarget.current policy envelope session.principalId attempt.contentRole
      attempt.capability).mapError mapTargetError)
    let token := RevisionToken.current policy target attempt.capability
    match session.checkBinding attempt.binding token attempt.nowMs with
    | .terminal phase => finish phase
    | .invalid => throw .invalidBinding
    | .early binding =>
      set { session with pending := some binding, activeRevision := some token, phase := .witnessPending }
      return .pending
    | .admitted =>
      conclude attempt token (provider.accessRevision { policy, envelope, target, capability := attempt.capability }
        attempt.cancellation fun access => .ofExcept (consumer access))

def catalogue (itemId : ItemId) (descriptor : ItemDescriptorV1) : SessionM Unit := do
  let session ← get
  check ((Cli.validateName descriptor.name Cli.MAX_ITEM_NAME_BYTES).mapError fun _ => SessionErrorKind.failed)
  let explanation := session.publicVault.policy.access itemId session.principalId .read
  let role ← check (orReject explanation.effectiveRole .unavailable)
  let catalog ← check (accessibleCatalog (session.catalog ++ [{ itemId, name := descriptor.name, role }]))
  set { session with catalog }

def discoverDescriptor (provider : ItemAccessProvider) (itemId : ItemId) (binding : Option WitnessRequestBinding)
    (nowMs : UInt64) (cancellation : CancellationCheck) : SessionM (SessionAccessOutcome Unit) := do
  let session ← get
  if session.catalog.any fun entry => entry.itemId == itemId then
    checkLive nowMs
    return .direct ()
  else
    let outcome ← accessRevision provider
      { itemId, contentRole := .descriptor, capability := .read, binding, nowMs, cancellation } (·.openDescriptor)
    match outcome with
    | .direct descriptor => do
      catalogue itemId descriptor
      return .direct ()
    | .witnessedApproved descriptor => do
      catalogue itemId descriptor
      return .witnessedApproved ()
    | .pending => return .pending
    | .denied => return .denied
    | .expired => return .expired
    | .stale => return .stale
    | .replay => return .replay
    | .unavailable => return .unavailable
    | .cancelled => return .cancelled
    | .failed => return .failed
    | .insufficientQuorum => return .insufficientQuorum

def unlock (itemId : ItemId) (state : ItemStateV1) (authority : AccessCompletion) : SessionM UnlockedItem := do
  let session ← get
  let metadata := { fieldCount := state.fields.length, updatedAtMs := (state.fields.map (·.updatedAtMs)).max? }
  set { session with bodyMetadata := session.bodyMetadata.insert itemId metadata }
  let revision ← check (orReject session.activeRevision .failed)
  return { state, authority, revision }

def resolve (session : PrincipalVaultSession) (selector : List UInt8) : Except SessionErrorKind ItemId :=
  (orReject (session.catalog.find? fun entry => entry.name == selector) .unavailable).map (·.itemId)

def openItem (provider : ItemAccessProvider) (selector : List UInt8) (capability : Capability)
    (binding : Option WitnessRequestBinding) (nowMs : UInt64) (cancellation : CancellationCheck) :
    SessionM (SessionAccessOutcome UnlockedItem) := do
  let session ← get
  let itemId ← check (session.resolve selector)
  let outcome ← accessRevision provider { itemId, contentRole := .body, capability, binding, nowMs, cancellation }
    (·.openBody)
  match outcome with
  | .direct state => return .direct (← unlock itemId state .direct)
  | .witnessedApproved state => return .witnessedApproved (← unlock itemId state .witnessedApproved)
  | .pending => return .pending
  | .denied => return .denied
  | .expired => return .expired
  | .stale => return .stale
  | .replay => return .replay
  | .unavailable => return .unavailable
  | .cancelled => return .cancelled
  | .failed => return .failed
  | .insufficientQuorum => return .insufficientQuorum

def resolveNext (session : PrincipalVaultSession) (itemIds : List ItemId) (selector : List UInt8) :
    Except SessionErrorKind (List ItemId) := do
  let itemId ← session.resolve selector
  rejectIf (itemIds.contains itemId) .conflict
  return itemIds ++ [itemId]

def preflightItems (selectors : List (List UInt8)) (nowMs : UInt64) : SessionM (List ItemId) := do
  checkLive nowMs
  let session ← get
  check (rejectIf (selectors.isEmpty || decide (selectors.length > MAX_PREFLIGHT_ITEMS)) .capacityExhausted)
  let itemIds ← check (selectors.foldlM session.resolveNext [])
  set { session with lastActivityAtMs := nowMs }
  return itemIds

-- A refresh keeps the public state that the session has; with anything else the session is stale.
def refreshSame (vault : ValidatedPublicVault) (checkpoint : LocalCheckpoint)
    (witnessPolicyCheckpointDigest : Option Digest32) (nowMs : UInt64) : SessionM Unit := do
  checkLive nowMs
  let session ← get
  let policy := session.publicVault.policy
  if session.pending.isNone
      && vault.policy.vaultId == policy.vaultId
      && vault.policy.genesisFingerprint == policy.genesisFingerprint
      && vault.policy.sequence == policy.sequence
      && vault.policy.terminalRevisionHash == policy.terminalRevisionHash
      && checkpoint.scope.principalId == session.principalId
      && checkpoint.acceptedPublicRevisionHash == policy.terminalRevisionHash
      && Returns (vault.checkpointCandidate.relationTo checkpoint) (· == .equal)
      && witnessPolicyCheckpointDigest == session.witnessPolicyCheckpointDigest then
    set { session with lastActivityAtMs := nowMs, phase := .principal }
  else
    set (session.enterTerminal .stale)
    throw .checkpointConflict

end PrincipalVaultSession

def validatePublic (policy : PolicyState) (journal : PolicyJournalV1) (envelopes : List ItemEnvelopeV1) :
    Except SessionErrorKind ValidatedPublicVault := do
  let checkpointCandidate ← (CheckpointCandidate.fromValidated policy journal envelopes).mapError
    fun _ => SessionErrorKind.invalidPublicState
  return { policy, envelopes, checkpointCandidate }

def startSession (vault : ValidatedPublicVault) (principalId : PrincipalId) (checkpoint : LocalCheckpoint)
    (witnessPolicyCheckpointDigest : Option Digest32) (limits : SessionLimits) (nowMs : UInt64) :
    Except SessionErrorKind PrincipalVaultSession := do
  rejectIf
    (checkpoint.scope.vaultId != vault.policy.vaultId
      || checkpoint.scope.genesisFingerprint != vault.policy.genesisFingerprint
      || checkpoint.scope.principalId != principalId)
    .scopeMismatch
  rejectIf (!vault.policy.principals.contains principalId) .unknownPrincipal
  rejectIf (decide (nowMs < checkpoint.updatedAtMs)) .clockRegression
  let relation ← (vault.checkpointCandidate.relationTo checkpoint).mapError
    fun _ => SessionErrorKind.checkpointConflict
  rejectIf (relation != .equal || checkpoint.acceptedPublicRevisionHash != vault.policy.terminalRevisionHash)
    .checkpointConflict
  let absoluteExpiresAtMs ← orReject (checkedAdd nowMs limits.absoluteLifetimeMs) .invalidLimits
  return {
    publicVault := vault
    principalId
    witnessPolicyCheckpointDigest
    limits
    startedAtMs := nowMs
    lastActivityAtMs := nowMs
    absoluteExpiresAtMs
    phase := .principal
    catalog := []
    bodyMetadata := ∅
    pending := none
    activeRevision := none }

inductive SessionCall where
  | discoverDescriptor (provider : ItemAccessProvider) (itemId : ItemId) (binding : Option WitnessRequestBinding)
      (nowMs : UInt64) (cancellation : CancellationCheck)
  | openItem (provider : ItemAccessProvider) (selector : List UInt8) (capability : Capability)
      (binding : Option WitnessRequestBinding) (nowMs : UInt64) (cancellation : CancellationCheck)
  | preflightItems (selectors : List (List UInt8)) (nowMs : UInt64)
  | refreshSame (vault : ValidatedPublicVault) (checkpoint : LocalCheckpoint)
      (witnessPolicyCheckpointDigest : Option Digest32) (nowMs : UInt64)
  | cancel
  | lock

inductive SessionAnswer where
  | discovered (outcome : SessionAccessOutcome Unit)
  | opened (outcome : SessionAccessOutcome UnlockedItem)
  | preflighted (itemIds : List ItemId)
  | done

def SessionAnswer.isApproved : SessionAnswer → Bool
  | discovered (.witnessedApproved _) | opened (.witnessedApproved _) => true
  | _ => false

namespace SessionCall

def perform : SessionCall → SessionM SessionAnswer
  | discoverDescriptor provider itemId binding nowMs cancellation =>
    .discovered <$> PrincipalVaultSession.discoverDescriptor provider itemId binding nowMs cancellation
  | openItem provider selector capability binding nowMs cancellation =>
    .opened <$> PrincipalVaultSession.openItem provider selector capability binding nowMs cancellation
  | preflightItems selectors nowMs => .preflighted <$> PrincipalVaultSession.preflightItems selectors nowMs
  | refreshSame vault checkpoint witnessPolicyCheckpointDigest nowMs => do
    PrincipalVaultSession.refreshSame vault checkpoint witnessPolicyCheckpointDigest nowMs
    return .done
  | cancel => do
    modify (·.enterTerminal .cancelled)
    return .done
  | lock => do
    modify (·.enterTerminal .locked)
    return .done

def after (session : PrincipalVaultSession) (calls : List SessionCall) : PrincipalVaultSession :=
  calls.foldl (fun session call => finalState (call.perform session)) session

end SessionCall

end Jury.Access
