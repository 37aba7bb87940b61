import Jury.Lib.Run
import Jury.Mutation.Plan

-- The commit of a plan: four files are published one after the other, and any of the publications may fail, may not be
-- synced or may be the last thing that happens before a crash.
namespace Jury.Mutation

open Lib Protocol Vault Policy LocalState

inductive MutationCommitErrorKind where
  | busy
  | staleArtifact
  | invalidArtifact
  | invalidLocalState
  | auditIntentNotDurable
  | sharedPublicationFailed
  | protectionUnavailable
  | missingRepositoryPrecondition
deriving DecidableEq

inductive PublicationOutcome where
  | publishedAndSynced
  | publishedButParentUnsynced
deriving DecidableEq

inductive LocalRecoveryReason where
  | checkpointPrepareFailed
  | checkpointPublishFailed
  | checkpointParentUnsynced
deriving DecidableEq

inductive MutationCommitOutcome where
  | committed (sharedPublication : PublicationOutcome) (warnings : MutationWarnings)
  | reconciled (warnings : MutationWarnings)
  | committedLocalRecoveryRequired (sharedPublication : PublicationOutcome) (reason : LocalRecoveryReason)
      (warnings : MutationWarnings)
deriving DecidableEq

structure MutationCatalogUpdate where
  prior : Option Bytes
  rollback : Bytes
  target : Bytes

inductive SharedArtifact where
  | repository
  | detached

structure MutationCommitTarget where
  shared : SharedArtifact
  principal : PrincipalLocalState

-- The files that a commit reads and writes, and whether the audit log is known to survive a loss of power.
structure Disk where
  catalog : Option Bytes
  shared : Bytes
  audit : List AuditEvent
  auditDurable : Bool
  checkpoint : LocalCheckpoint
  receipts : Bytes

namespace Disk

def withCatalog (bytes : Bytes) (disk : Disk) : Disk := { disk with catalog := some bytes }

def withShared (bytes : Bytes) (disk : Disk) : Disk := { disk with shared := bytes }

def withAudit (audit : AuditLog) (durable : Bool) (disk : Disk) : Disk :=
  { disk with audit := audit.events, auditDurable := durable }

def withCheckpoint (checkpoint : LocalCheckpoint) (disk : Disk) : Disk := { disk with checkpoint }

end Disk

-- How one publication ends. A file is replaced as a whole or not at all, also by a publication that a crash cuts short.
inductive Answer where
  | synced
  | unsynced
  | failed
  | crashed (replaced : Bool)

-- What the surroundings do during one commit: what Git says the ancestry is, at the beginning and before the shared
-- artifact is replaced, and how every publication ends.
structure Answers where
  ancestry : Option Digest32
  ancestryLater : Option Digest32
  catalog : Answer
  audit : Answer
  shared : Answer
  restore : Answer
  checkpoint : Answer

inductive Stop where
  | crashed
  | refused (kind : MutationCommitErrorKind)

abbrev CommitM := EStateM Stop Disk

def require {α : Type} (x : Except MutationCommitErrorKind α) : CommitM α := check (x.mapError .refused)

def publish (answer : Answer) (write : Bool → Disk → Disk) : CommitM (Option PublicationOutcome) := fun disk =>
  match answer with
  | .synced => .ok (some .publishedAndSynced) (write true disk)
  | .unsynced => .ok (some .publishedButParentUnsynced) (write false disk)
  | .failed => .ok none disk
  | .crashed replaced => .error .crashed (if replaced then write false disk else disk)

def publishCatalog (answer : Answer) (bytes : Bytes) : CommitM Unit := do
  match ← publish answer fun _ => Disk.withCatalog bytes with
  | some .publishedAndSynced => return ()
  | _ => throw (.refused .invalidLocalState)

def publishPrepared (answer : Answer) : Option Bytes → CommitM Unit
  | none => return ()
  | some bytes => publishCatalog answer bytes

def prepareCatalogUpdate (catalog : Option Bytes) : Option MutationCatalogUpdate →
    Except MutationCommitErrorKind (Option Bytes)
  | none => .ok none
  | some update =>
    if catalog = some update.target then .ok none
    else if catalog = update.prior then .ok (some update.target)
    else .error .invalidLocalState

def restoreCatalog (answer : Answer) : Option MutationCatalogUpdate → CommitM Unit
  | none => return ()
  | some update => publishCatalog answer update.rollback

def mapLocalStateError : LocalStateErrorKind → MutationCommitErrorKind
  | .protectionUnavailable => .protectionUnavailable
  | _ => .invalidLocalState

def committedRecovery (sharedPublication : PublicationOutcome) (reason : LocalRecoveryReason) (plan : VaultMutationPlan) :
    MutationCommitOutcome :=
  .committedLocalRecoveryRequired sharedPublication reason plan.warnings

namespace SharedArtifact

def matchesAncestry : SharedArtifact → Option Digest32 → Bool
  | .repository, some _ => true
  | .detached, none => true
  | _, _ => false

def ancestryIsCurrent (observed : Option Digest32) : SharedArtifact → Option Digest32 →
    Except MutationCommitErrorKind Bool
  | .repository, some expected => do
    let digest ← orReject observed .staleArtifact
    return digest == expected
  | .detached, none => .ok true
  | _, _ => .error .missingRepositoryPrecondition

end SharedArtifact

section Commit

variable [Crypto]

def readArtifact (codec : VaultCodec) (witnessPolicies : List WitnessPolicy) (bytes : Bytes) :
    Except MutationCommitErrorKind (PolicyState × CheckpointCandidate) := do
  let current ← (VaultFileV1.parse codec bytes).mapError fun _ => MutationCommitErrorKind.invalidArtifact
  let policy ← (replayPolicyWithWitnessPolicies current.policy witnessPolicies).mapError fun _ =>
    MutationCommitErrorKind.invalidArtifact
  let candidate ← (CheckpointCandidate.fromValidated policy current.policy current.items).mapError fun _ =>
    MutationCommitErrorKind.invalidArtifact
  return (policy, candidate)

namespace VaultMutationPlan

def isExpected (plan : VaultMutationPlan) (bytes : Bytes) (policy : PolicyState) : Bool :=
  sha256 bytes == plan.precondition.vaultDigest
    && policy.sequence == plan.precondition.policySequence
    && policy.terminalRevisionHash == plan.precondition.policyRevisionHash

def isTarget (plan : VaultMutationPlan) (bytes : Bytes) (policy : PolicyState) : Bool :=
  sha256 bytes == plan.targetDigest
    && policy.sequence == plan.targetPolicy.sequence
    && policy.terminalRevisionHash == plan.targetPolicy.terminalRevisionHash

end VaultMutationPlan

namespace MutationCommitTarget

def validateScope (self : MutationCommitTarget) (plan : VaultMutationPlan) : Except MutationCommitErrorKind Unit :=
  rejectIf
    (self.principal.scope.vaultId != plan.target.header.vaultId
      || self.principal.scope.genesisFingerprint != plan.target.header.genesisFingerprint
      || self.principal.scope.principalId != plan.actingPrincipalId)
    .invalidLocalState

structure Examined where
  isTarget : Bool
  relation : CheckpointRelation
  state : VerifiedLocalState

-- An import may register the principal that it is made for, who cannot accept an artifact that does not know them.
def currentCandidate (self : MutationCommitTarget) (plan : VaultMutationPlan) (policy : PolicyState)
    (candidate : CheckpointCandidate) : Except MutationCommitErrorKind CheckpointCandidate :=
  if !policy.principals.contains self.principal.scope.principalId && plan.kind == .transferImport then
    plan.checkpointCandidate.mapError fun _ => .invalidArtifact
  else .ok candidate

def expectedAncestry (self : MutationCommitTarget) (plan : VaultMutationPlan) (observed : Option Digest32)
    (isExpected : Bool) : Except MutationCommitErrorKind Bool :=
  if isExpected then self.shared.ancestryIsCurrent observed plan.precondition.repositoryAncestry else .ok true

def examine (self : MutationCommitTarget) (codec : VaultCodec) (plan : VaultMutationPlan) (observed : Option Digest32)
    (disk : Disk) : Except MutationCommitErrorKind Examined := do
  let (policy, candidate) ← readArtifact codec plan.witnessPolicies disk.shared
  let isExpected := plan.isExpected disk.shared policy
  let isTarget := plan.isTarget disk.shared policy
  rejectIf (!isExpected && !isTarget) .staleArtifact
  rejectIf (!self.shared.matchesAncestry plan.precondition.repositoryAncestry) .missingRepositoryPrecondition
  let isCurrent ← self.expectedAncestry plan observed isExpected
  rejectIf (!isCurrent) .staleArtifact
  let state ← (self.principal.verifyFiles (some disk.audit) (some disk.checkpoint) (some disk.receipts)).mapError
    fun _ => MutationCommitErrorKind.invalidLocalState
  let candidate ← self.currentCandidate plan policy candidate
  let (relation, state) ← (self.principal.acceptCandidate state candidate plan.timestampMs).mapError
    fun _ => MutationCommitErrorKind.invalidLocalState
  return { isTarget, relation, state }

def intend (self : MutationCommitTarget) (plan : VaultMutationPlan) (state : VerifiedLocalState) :
    Except MutationCommitErrorKind VerifiedLocalState :=
  (if state.audit.containsOperation plan.targetDigest then self.principal.acceptAuditTail state plan.timestampMs
    else self.principal.appendEvent state plan.auditIntent).mapError mapLocalStateError

def acceptTarget (self : MutationCommitTarget) (plan : VaultMutationPlan) (state : VerifiedLocalState) :
    Except MutationCommitErrorKind (CheckpointRelation × VerifiedLocalState) := do
  let candidate ← plan.checkpointCandidate.mapError fun _ => MutationCommitErrorKind.invalidArtifact
  (self.principal.acceptCandidate state candidate plan.timestampMs).mapError fun _ =>
    MutationCommitErrorKind.invalidLocalState

def finishCheckpoint (self : MutationCommitTarget) (plan : VaultMutationPlan) (answer : Answer)
    (state : VerifiedLocalState) (sharedPublication : PublicationOutcome) (reconciled checkpointChanged : Bool) :
    CommitM MutationCommitOutcome := do
  let (relation, state) ← require (self.acceptTarget plan state)
  if reconciled && relation == .equal && !checkpointChanged then return .reconciled plan.warnings
  else
    match ← publish answer fun _ => Disk.withCheckpoint state.checkpoint with
    | none => return committedRecovery sharedPublication .checkpointPublishFailed plan
    | some .publishedAndSynced =>
      if reconciled then return .reconciled plan.warnings else return .committed sharedPublication plan.warnings
    | some .publishedButParentUnsynced => return committedRecovery sharedPublication .checkpointParentUnsynced plan

def reconcile (self : MutationCommitTarget) (plan : VaultMutationPlan) (answers : Answers) (state : VerifiedLocalState)
    (checkpointChanged : Bool) : CommitM MutationCommitOutcome := do
  if !state.audit.containsOperation plan.targetDigest then
    let state ← require ((self.principal.appendEvent state plan.auditIntent).mapError mapLocalStateError)
    match ← publish answers.audit (Disk.withAudit state.audit) with
    | none => throw (.refused .invalidLocalState)
    | some .publishedButParentUnsynced =>
      return committedRecovery .publishedAndSynced .checkpointPrepareFailed plan
    | some .publishedAndSynced =>
      self.finishCheckpoint plan answers.checkpoint state .publishedAndSynced true true
  else if state.auditEventsAfterCheckpoint = 0 then
    self.finishCheckpoint plan answers.checkpoint state .publishedAndSynced true checkpointChanged
  else
    let state ← require ((self.principal.acceptAuditTail state plan.timestampMs).mapError mapLocalStateError)
    self.finishCheckpoint plan answers.checkpoint state .publishedAndSynced true true

-- A catalog that has gone out ahead of an artifact that cannot follow it is put back.
def abandonShared (plan : VaultMutationPlan) (update : Option MutationCatalogUpdate) (answer : Answer)
    (catalogPublished : Bool) : CommitM MutationCommitOutcome := do
  let disk ← get
  if catalogPublished && sha256 disk.shared != plan.targetDigest then restoreCatalog answer update
  throw (.refused .sharedPublicationFailed)

-- The shared artifact goes out once the intent is durable and the catalog is in place.
def publishTarget (self : MutationCommitTarget) (plan : VaultMutationPlan) (update : Option MutationCatalogUpdate)
    (answers : Answers) (preparedCatalog : Option Bytes) (audit : AuditLog) (checkpoint : LocalCheckpoint) :
    CommitM MutationCommitOutcome := do
  match ← publish answers.audit (Disk.withAudit audit) with
  | none => throw (.refused .invalidLocalState)
  | some .publishedButParentUnsynced => throw (.refused .auditIntentNotDurable)
  | some .publishedAndSynced =>
    let isCurrent ← require
      (self.shared.ancestryIsCurrent answers.ancestryLater plan.precondition.repositoryAncestry)
    require (rejectIf (!isCurrent) .staleArtifact)
    publishPrepared answers.catalog preparedCatalog
    match ← publish answers.shared fun _ => Disk.withShared plan.targetBytes with
    | none => abandonShared plan update answers.restore preparedCatalog.isSome
    | some sharedPublication =>
      match ← publish answers.checkpoint fun _ => Disk.withCheckpoint checkpoint with
      | none => return committedRecovery sharedPublication .checkpointPublishFailed plan
      | some .publishedAndSynced => return .committed sharedPublication plan.warnings
      | some .publishedButParentUnsynced => return committedRecovery sharedPublication .checkpointParentUnsynced plan

def proceed (self : MutationCommitTarget) (plan : VaultMutationPlan) (update : Option MutationCatalogUpdate)
    (answers : Answers) (preparedCatalog : Option Bytes) (examined : Examined) : CommitM MutationCommitOutcome := do
  if examined.isTarget then
    publishPrepared answers.catalog preparedCatalog
    self.reconcile plan answers examined.state (examined.relation == .strictDescendant)
  else
    let state ← require (self.intend plan examined.state)
    let (_, accepted) ← require (self.acceptTarget plan state)
    self.publishTarget plan update answers preparedCatalog state.audit accepted.checkpoint

def commit (self : MutationCommitTarget) (codec : VaultCodec) (plan : VaultMutationPlan)
    (update : Option MutationCatalogUpdate) (answers : Answers) : CommitM MutationCommitOutcome := do
  require (self.validateScope plan)
  let disk ← get
  let preparedCatalog ← require (prepareCatalogUpdate disk.catalog update)
  let examined ← require (self.examine codec plan answers.ancestry disk)
  self.proceed plan update answers preparedCatalog examined

end MutationCommitTarget

end Commit

end Jury.Mutation
