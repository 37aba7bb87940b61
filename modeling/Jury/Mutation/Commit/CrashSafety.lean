import Jury.Access.Direct
import Jury.Mutation.Commit.Recovery

-- Commits that are interrupted and run again: what is on disk after any number of them, and where the next one that
-- nothing disturbs leads.
namespace Jury.Mutation

open Lib Protocol Vault Policy LocalState MutationCommitTarget

variable {answers : Answers} {update : Option MutationCatalogUpdate} {P : Disk → Prop} {prepared : Option Bytes}
  {audit : AuditLog} {change : MutationCatalogUpdate}

section Underway

variable [Crypto]

structure ArtifactsRead (codec : VaultCodec) (plan : VaultMutationPlan) (bytes : Bytes) (policy : PolicyState)
    (source target : CheckpointCandidate) : Prop where
  reads : readArtifact codec plan.witnessPolicies bytes = .ok (policy, source)
  readsTarget : readArtifact codec plan.witnessPolicies plan.targetBytes = .ok (plan.targetPolicy, target)
  isExpected : plan.isExpected bytes policy = true
  notTarget : plan.isTarget bytes policy = false
  isTarget : plan.isTarget plan.targetBytes plan.targetPolicy = true
  notExpected : plan.isExpected plan.targetBytes plan.targetPolicy = false
  candidate : plan.checkpointCandidate = .ok target
  history : ∃ hashes, target.policyHistory = source.policyHistory ++ hashes

-- A commit that nothing disturbs, taken apart: what it reads, the log with the intent and the checkpoint at the end.
structure Underway (committer : MutationCommitTarget) (codec : VaultCodec) (plan : VaultMutationPlan) (start : Disk) where
  policy : PolicyState
  source : CheckpointCandidate
  target : CheckpointCandidate
  before : AuditLog
  relation : CheckpointRelation
  opened : LocalCheckpoint
  intent : VerifiedLocalState
  final : LocalCheckpoint
  scope : committer.validateScope plan = .ok ()
  ancestry : committer.shared.matchesAncestry plan.precondition.repositoryAncestry = true
  artifacts : ArtifactsRead codec plan start.shared policy source target
  registered : policy.principals.contains committer.principal.scope.principalId = true
  targetScope : target.validateScope committer.principal.scope = .ok ()
  receipts : committer.principal.parseReceipts start.receipts = .ok ()
  events : before.events = start.audit
  sound : FilesSound committer.principal before start.checkpoint
  accepted : start.checkpoint.acceptedPublicRevisionHash ∈ source.policyHistory
  opens : ∀ audit count, FilesSound committer.principal audit start.checkpoint →
    committer.principal.acceptCandidate ⟨audit, start.checkpoint, count⟩ source plan.timestampMs =
      .ok (relation, ⟨audit, opened, count⟩)
  latest : opened.latestAuditMac = start.checkpoint.latestAuditMac
  intended : IntentOf committer.principal plan before intent.audit
  intends : ∀ audit, audit = before ∨ audit = intent.audit →
    committer.intend plan ⟨audit, opened, audit.eventsAfter start.checkpoint.latestAuditMac⟩ = .ok intent
  accepts : ∃ relation behind, committer.acceptTarget plan intent = .ok (relation, ⟨intent.audit, final, behind⟩)
  settlesStart : Settles committer.principal plan target intent.audit start.checkpoint
  settlesFinal : Settles committer.principal plan target intent.audit final
  finalAccepted : target.policyHistory.getLast? = some final.acceptedPublicRevisionHash

variable {policy : PolicyState}

theorem readArtifact_eq_ok {codec : VaultCodec} (hparse : VaultFileV1.parse codec bytes = .ok vault)
    (h : ValidatedComplete vault witnessPolicies policy) :
    ∃ candidate, readArtifact codec witnessPolicies bytes = .ok (policy, candidate) ∧
      CheckpointCandidate.fromValidated policy vault.policy vault.items = .ok candidate := by
  obtain ⟨candidate, hcand⟩ := h.candidate
  refine ⟨candidate, ?_, hcand⟩
  simp only [readArtifact, eq_ok]
  exact ⟨vault, hparse, policy, h.replayed, candidate, hcand, rfl⟩

variable {self : MutationCommitTarget} {codec : VaultCodec} {start : Disk}

theorem Planned.artifactsRead (hplan : Planned codec current plan)
    (hsource : codec.decode (codec.encode current) = .ok current)
    (htarget : codec.decode (codec.encode plan.target) = .ok plan.target)
    (hpolicy : replayPolicyWithWitnessPolicies current.policy plan.witnessPolicies = .ok policy) :
    ∃ source target, ArtifactsRead codec plan (codec.encode current) policy source target := by
  have hsound := hplan.sound
  obtain ⟨found, hvalid, hseq, hhash⟩ := hsound.source
  obtain rfl := ok_unique hvalid.replayed hpolicy
  obtain ⟨bytes, hbytes, hdigest⟩ := hsound.sourceBytes
  have hencoded : codec.encode current = bytes := by
    simp only [VaultFileV1.toJsonBytes, eq_ok] at hbytes
    obtain ⟨-, -, -, -, rfl⟩ := hbytes
    rfl
  obtain ⟨source, hreads, hcand⟩ := readArtifact_eq_ok (VaultFileV1.parse_toJsonBytes hsource hbytes) hvalid
  obtain ⟨target, hreadsTarget, htargetCandidate⟩ :=
    readArtifact_eq_ok (VaultFileV1.parse_toJsonBytes htarget hsound.targetBytes) hsound.target
  have hsourceOf := fromValidated_candidate hcand
  have htargetOf := fromValidated_candidate htargetCandidate
  obtain ⟨suffix, hsuffix, hrevs⟩ := hsound.revisions
  -- The two artifacts cannot be taken for each other, since their journals differ in length.
  have hlonger : found.sequence ≠ plan.targetPolicy.sequence := by
    intro heq
    have hlengths := htargetOf.sequence
    rw [← heq, ← hsourceOf.sequence, hrevs, List.length_append] at hlengths
    exact hsuffix (List.length_eq_zero_iff.mp (by omega))
  refine ⟨source, target, hencoded ▸ hreads, hreadsTarget, ?_, ?_, ?_, ?_, ?_,
    hsourceOf.history_append htargetOf hsound.genesis hrevs⟩
  · simp [VaultMutationPlan.isExpected, hencoded, hdigest, hseq, hhash]
  · simp [VaultMutationPlan.isTarget, hlonger]
  · simp [VaultMutationPlan.isTarget, hsound.targetDigest]
  · simp [VaultMutationPlan.isExpected, hseq, hlonger.symm]
  · simp only [VaultMutationPlan.checkpointCandidate, mapError_eq_ok]
    exact htargetCandidate

theorem commit_eq_ok (h : self.commit codec plan update answers disk = .ok outcome reached) :
    self.validateScope plan = .ok () ∧ ∃ prepared examined, prepareCatalogUpdate disk.catalog update = .ok prepared ∧
      self.examine codec plan answers.ancestry disk = .ok examined ∧
      self.proceed plan update answers prepared examined disk = .ok outcome reached := by
  simp only [commit, require, state_bind_eq_ok, check_eq_ok, mapError_eq_ok] at h
  obtain ⟨_, _, ⟨hscope, rfl⟩, found, _, hget, prepared, _, ⟨hprep, rfl⟩, examined, _, ⟨hexamined, rfl⟩, hrest⟩ := h
  obtain ⟨rfl, rfl⟩ : disk = found ∧ disk = _ := by
    simpa [get, getThe, MonadStateOf.get, EStateM.get] using hget
  exact ⟨hscope, prepared, examined, hprep, hexamined, hrest⟩

theorem exists_underway {source target : CheckpointCandidate}
    (hread : ArtifactsRead codec plan start.shared policy source target)
    (hreg : policy.principals.contains plan.actingPrincipalId = true)
    (hcommit : self.commit codec plan update (.undisturbed plan) start = .ok outcome reached) :
    (∃ prepared, prepareCatalogUpdate start.catalog update = .ok prepared) ∧
      Nonempty (Underway self codec plan start) := by
  obtain ⟨hscope, prepared, examined, hprep, hexamined, hrest⟩ := commit_eq_ok hcommit
  refine ⟨⟨prepared, hprep⟩, ?_⟩
  obtain ⟨found, candidate, accepted, before, hfound, -, hancestry, -, hevents, hsound, hrcpts, hcand, hopen,
    htarget⟩ := examine_eq_ok.mp hexamined
  obtain ⟨rfl, rfl⟩ := Prod.mk.inj (ok_unique hread.reads hfound)
  rw [hread.notTarget] at htarget
  have hprin : self.principal.scope.principalId = plan.actingPrincipalId := by
    simp only [validateScope, rejectIf_eq_ok, passed] at hscope
    exact hscope.2
  rw [currentCandidate, hprin, hreg] at hcand
  obtain rfl := Except.ok.inj hcand
  obtain ⟨opened, hstate, hopens, hacc, -, hlatest, hopened⟩ := acceptCandidate_checkpoint hsound hopen
  simp only [proceed, require, htarget, Bool.false_eq_true, if_false, state_eq_ok,
    mapError_eq_ok] at hrest
  obtain ⟨intent, _, ⟨hintent, rfl⟩, ⟨relation, reached⟩, _, ⟨hreach, rfl⟩, -⟩ := hrest
  rw [hstate, ← hlatest] at hintent
  obtain ⟨hint, hagain, hkept, hintentSound, hrecorded⟩ := intend_eq_ok (hopens before 0 hsound).2 hintent
  have haccepts := hreach
  simp only [acceptTarget, eq_ok] at hreach
  obtain ⟨found, hfound, hreach⟩ := hreach
  obtain rfl := ok_unique hread.candidate hfound
  obtain ⟨final, rfl, hfinals, hintentAccepted, hlast, hfinalLatest, hfinal⟩ :=
    acceptCandidate_checkpoint hintentSound hreach
  have htargetScope := ((acceptCandidate_eq_ok hintentSound).mp hreach).1
  obtain ⟨hashes, hhashes⟩ := hread.history
  refine ⟨{
    policy
    source
    target
    before
    relation := examined.relation
    opened
    intent
    final
    scope := hscope
    ancestry := hancestry
    artifacts := hread
    registered := hprin ▸ hreg
    targetScope := htargetScope
    receipts := hrcpts
    events := hevents
    sound := hsound
    accepted := hacc
    opens := fun audit count haudit => (hopens audit count haudit).1
    latest := hlatest
    intended := hint
    intends := ?_
    accepts := ⟨relation, _, haccepts⟩
    settlesStart := ?_
    settlesFinal := ?_
    finalAccepted := hlast }⟩
  · rintro audit (rfl | rfl)
    · exact hlatest ▸ hintent
    · exact hlatest ▸ hagain
  · refine ⟨hint.sound _ hsound, hhashes ▸ List.mem_append_left _ hacc, ?_⟩
    -- A checkpoint that is left as it is all the way through had nothing to wait for.
    rcases hopened with rfl | ⟨-, hts⟩
    · rcases hrecorded with ⟨hintentIs, hnone⟩ | ⟨-, hts⟩
      · rcases hfinal with rfl | ⟨-, hts⟩
        · exact .inr ⟨hintentIs ▸ hlast, hnone⟩
        · exact .inl (hintentIs ▸ hts)
      · exact .inl hts
    · exact .inl hts
  · refine ⟨(hfinals intent.audit 0 hintentSound).2, List.mem_of_getLast? hlast, ?_⟩
    rcases hfinal with rfl | ⟨hts, -⟩
    · rcases hrecorded with ⟨hintentIs, hnone⟩ | ⟨hts, -⟩
      · exact .inr ⟨hlast, hintentIs ▸ hnone⟩
      · exact .inl (UInt64.le_of_eq hts)
    · exact .inl (UInt64.le_of_eq hts)

end Underway

section Target

variable [Crypto] {self : MutationCommitTarget} {plan : VaultMutationPlan} {update : Option MutationCatalogUpdate}
  {prepared : Option Bytes}

theorem abandonShared_final (hdisk : P disk)
    (hrestored : ∀ change, update = some change → published = true → sha256 disk.shared ≠ plan.targetDigest →
      P (disk.withCatalog change.rollback)) :
    P (finalState (abandonShared plan update answer published disk)) := by
  change P (finalState ((do
    if published && sha256 disk.shared != plan.targetDigest then restoreCatalog answer update
    throw (.refused .sharedPublicationFailed) : CommitM MutationCommitOutcome) disk))
  split
  case isTrue hrestore =>
    simp only [Bool.and_eq_true, bne_iff_ne] at hrestore
    cases update with
    | none => exact hdisk
    | some change =>
      have hback := hrestored change rfl hrestore.1 hrestore.2
      exact final_publishCatalog hdisk hback hback
  case isFalse => exact hdisk

theorem publishTarget_final (hdisk : P disk) (haudit : ∀ durable, P (disk.withAudit audit durable))
    (hcat : P ((disk.withAudit audit true).withPrepared prepared))
    (hrestored : ∀ change, update = some change → prepared.isSome = true → sha256 disk.shared ≠ plan.targetDigest →
      P (((disk.withAudit audit true).withPrepared prepared).withCatalog change.rollback))
    (hshared : P (((disk.withAudit audit true).withPrepared prepared).withShared plan.targetBytes))
    (hckpt : P ((((disk.withAudit audit true).withPrepared prepared).withShared plan.targetBytes).withCheckpoint
      checkpoint)) : P (finalState (self.publishTarget plan update answers prepared audit checkpoint disk)) := by
  -- The artifact that is there when the publication fails is the one from before.
  have hkept : ((disk.withAudit audit true).withPrepared prepared).shared = disk.shared := by
    cases prepared <;> rfl
  refine final_publish hdisk (haudit false) hdisk (haudit false) ?_
  refine final_require (haudit true) fun current _ => ?_
  refine final_require (haudit true) fun _ _ => ?_
  refine final_publishPrepared (haudit true) hcat ?_
  refine final_publish hcat hshared ?_ ?_ ?_
  · exact abandonShared_final hcat fun change hchange hsome hdigest => hrestored change hchange hsome (hkept ▸ hdigest)
  · exact final_publish hshared hckpt hshared hckpt hckpt
  · exact final_publish hshared hckpt hshared hckpt hckpt

theorem publishTarget_undisturbed (h : self.shared.matchesAncestry plan.precondition.repositoryAncestry = true) :
    self.publishTarget plan update (.undisturbed plan) prepared audit checkpoint disk =
      .ok (.committed .publishedAndSynced plan.warnings)
        ((((disk.withAudit audit true).withPrepared prepared).withShared plan.targetBytes).withCheckpoint checkpoint) := by
  have hprep : publishPrepared .synced prepared (disk.withAudit audit true) =
      .ok () ((disk.withAudit audit true).withPrepared prepared) := by
    cases prepared <;> rfl
  unfold publishTarget
  refine state_bind_eq_ok.mpr ⟨_, _, rfl, ?_⟩
  refine state_bind_eq_ok.mpr ⟨true, _, requireCurrent_undisturbed h _, ?_⟩
  refine state_bind_eq_ok.mpr ⟨(), _, rfl, ?_⟩
  refine state_bind_eq_ok.mpr ⟨(), _, hprep, ?_⟩
  rfl

end Target

section Runs

variable [Crypto] {self : MutationCommitTarget} {codec : VaultCodec} {plan : VaultMutationPlan}
  {update : Option MutationCatalogUpdate} {start disk : Disk}

def commits (self : MutationCommitTarget) (codec : VaultCodec) (plan : VaultMutationPlan)
    (update : Option MutationCatalogUpdate) : Machine Disk Answers (Option MutationCommitOutcome) where
  step disk answers :=
    match self.commit codec plan update answers disk with
    | .ok outcome reached => (some outcome, reached)
    | .error _ reached => (none, reached)

theorem commits_step (answers : Answers) :
    ((commits self codec plan update).step disk answers).2 =
      finalState (self.commit codec plan update answers disk) := by
  simp only [commits]
  split <;> simp [*]

-- A shared artifact that is the target has a durable intent behind it, and the checkpoint is not ahead of the artifact.
structure DiskSafe (codec : VaultCodec) (plan : VaultMutationPlan) (disk : Disk) : Prop where
  intent : disk.shared = plan.targetBytes →
    disk.auditDurable = true ∧ ∃ event ∈ disk.audit, event.operationId = plan.targetDigest
  checkpoint : ∃ policy candidate, readArtifact codec plan.witnessPolicies disk.shared = .ok (policy, candidate) ∧
    disk.checkpoint.acceptedPublicRevisionHash ∈ candidate.policyHistory

-- The plan has been carried out. An event that the log had from before counts as the event of the operation.
structure Committed (plan : VaultMutationPlan) (start disk : Disk) : Prop where
  shared : disk.shared = plan.targetBytes
  checkpoint : disk.checkpoint.acceptedPublicRevisionHash = plan.targetPolicy.terminalRevisionHash
  events : operationCount plan disk.audit = max 1 (operationCount plan start.audit)

def CrashSafe (self : MutationCommitTarget) (codec : VaultCodec) (plan : VaultMutationPlan)
    (update : Option MutationCatalogUpdate) (start : Disk) : Prop :=
  ∀ interrupted : List Answers,
    DiskSafe codec plan ((commits self codec plan update).final start interrupted) ∧
      ∃ outcome reached,
        self.commit codec plan update (.undisturbed plan) ((commits self codec plan update).final start interrupted) =
          .ok outcome reached ∧ Committed plan start reached

-- How far the commits of a plan have come.
inductive Stage (underway : Underway self codec plan start) (disk : Disk) : Prop where
  | before (shared : disk.shared = start.shared) (checkpoint : disk.checkpoint = start.checkpoint)
      (receipts : disk.receipts = start.receipts)
      (audit : ∃ audit, disk.audit = audit.events ∧ (audit = underway.before ∨ audit = underway.intent.audit))
  | after (shared : disk.shared = plan.targetBytes) (receipts : disk.receipts = start.receipts)
      (audit : disk.audit = underway.intent.audit.events) (durable : disk.auditDurable = true)
      (checkpoint : Settles self.principal plan underway.target underway.intent.audit disk.checkpoint)

structure Held (underway : Underway self codec plan start) (update : Option MutationCatalogUpdate) (disk : Disk) :
    Prop where
  stage : Stage underway disk
  catalog : CatalogStays plan update disk.catalog

theorem Stage.safe {underway : Underway self codec plan start} (hdiff : start.shared ≠ plan.targetBytes)
    (h : Stage underway disk) : DiskSafe codec plan disk := by
  cases h with
  | before shared checkpoint receipts audit =>
    refine ⟨fun htarget => absurd (shared.symm.trans htarget) hdiff, underway.policy, underway.source, ?_, ?_⟩
    · rw [shared]
      exact underway.artifacts.reads
    · rw [checkpoint]
      exact underway.accepted
  | after shared receipts audit durable checkpoint =>
    refine ⟨fun _ => ⟨durable, ?_⟩, plan.targetPolicy, underway.target, ?_, checkpoint.accepted⟩
    · obtain ⟨event, hevent, hop⟩ := List.any_eq_true.mp underway.intended.contains
      exact ⟨event, audit ▸ hevent, beq_iff_eq.mp hop⟩
    · rw [shared]
      exact underway.artifacts.readsTarget

variable {examined : MutationCommitTarget.Examined}

theorem commit_eq_proceed (hscope : self.validateScope plan = .ok ())
    (hprep : prepareCatalogUpdate disk.catalog update = .ok prepared)
    (hexamined : self.examine codec plan answers.ancestry disk = .ok examined) :
    self.commit codec plan update answers disk = self.proceed plan update answers prepared examined disk := by
  rw [commit, hscope]
  change (require (prepareCatalogUpdate disk.catalog update) >>= fun prepared =>
    require (self.examine codec plan answers.ancestry disk) >>= fun examined =>
      self.proceed plan update answers prepared examined) disk = _
  rw [hprep, hexamined]
  rfl

section Steps

variable (underway : Underway self codec plan start)

theorem Underway.filesSound (h : audit = underway.before ∨ audit = underway.intent.audit) :
    FilesSound self.principal audit start.checkpoint := by
  rcases h with rfl | rfl
  · exact underway.sound
  · exact underway.settlesStart.sound

theorem Underway.examine_before (hshared : disk.shared = start.shared) (hckpt : disk.checkpoint = start.checkpoint)
    (haudit : disk.audit = audit.events) (hwhich : audit = underway.before ∨ audit = underway.intent.audit)
    (h : self.examine codec plan observed disk = .ok examined) :
    examined.isTarget = false ∧ self.intend plan examined.state = .ok underway.intent := by
  have hsound := underway.filesSound hwhich
  obtain ⟨policy, candidate, accepted, found, hread, -, -, -, hfound, -, -, hcand, haccept, htarget⟩ :=
    examine_eq_ok.mp h
  obtain rfl : audit = found := AuditLog.ext_events (haudit.symm.trans hfound.symm)
  rw [hshared] at hread htarget
  obtain ⟨rfl, rfl⟩ := Prod.mk.inj (ok_unique underway.artifacts.reads hread)
  rw [currentCandidate, underway.registered] at hcand
  obtain rfl := Except.ok.inj hcand
  rw [hckpt, underway.opens _ _ hsound] at haccept
  obtain ⟨-, hstate⟩ := Prod.mk.inj (Except.ok.inj haccept)
  rw [← hstate]
  exact ⟨htarget.trans underway.artifacts.notTarget, underway.intends audit hwhich⟩

theorem Underway.examine_after (hshared : disk.shared = plan.targetBytes)
    (haudit : disk.audit = underway.intent.audit.events)
    (hsettles : Settles self.principal plan underway.target underway.intent.audit disk.checkpoint)
    (h : self.examine codec plan observed disk = .ok examined) :
    examined.isTarget = true ∧ ∃ accepted,
      examined.state = ⟨underway.intent.audit, accepted, underway.intent.audit.eventsAfter accepted.latestAuditMac⟩ ∧
      Settles self.principal plan underway.target underway.intent.audit accepted ∧
      underway.target.policyHistory.getLast? = some accepted.acceptedPublicRevisionHash ∧
      (examined.relation = .strictDescendant ∨ (examined.relation = .equal ∧ accepted = disk.checkpoint)) := by
  obtain ⟨policy, candidate, accepted, found, hread, -, -, -, hfound, -, -, hcand, haccept, htarget⟩ :=
    examine_eq_ok.mp h
  obtain rfl : underway.intent.audit = found := AuditLog.ext_events (haudit.symm.trans hfound.symm)
  rw [hshared] at hread htarget
  obtain ⟨rfl, rfl⟩ := Prod.mk.inj (ok_unique underway.artifacts.readsTarget hread)
  -- Whether or not the principal is registered, the candidate is that of the target.
  obtain rfl : underway.target = accepted := by
    simp only [currentCandidate, underway.artifacts.candidate] at hcand
    split at hcand
    · exact Except.ok.inj hcand
    · exact Except.ok.inj hcand
  obtain ⟨relation, reached, hreach, hsettled, hlast, hlatest, hrelation⟩ :=
    hsettles.accept underway.targetScope (underway.intent.audit.eventsAfter disk.checkpoint.latestAuditMac)
  rw [hreach] at haccept
  obtain ⟨rfl, hstate⟩ := Prod.mk.inj (Except.ok.inj haccept)
  refine ⟨htarget.trans underway.artifacts.isTarget, reached, ?_, hsettled, hlast, hrelation⟩
  rw [← hstate, hlatest]

theorem Underway.sourceDigest (underway : Underway self codec plan start) :
    sha256 start.shared = plan.precondition.vaultDigest := by
  have hexp := underway.artifacts.isExpected
  simp only [VaultMutationPlan.isExpected, holds] at hexp
  exact hexp.1.1

theorem Underway.stage : Stage underway start := .before rfl rfl rfl ⟨_, underway.events.symm, .inl rfl⟩

-- However a commit ends, the next one can go on from where it has left the disk.
theorem Held.commit (answers : Answers) (hdisk : Held underway update disk) :
    Held underway update (finalState (self.commit codec plan update answers disk)) := by
  obtain ⟨hstage, hcat⟩ := hdisk
  have hdisk : Held underway update disk := ⟨hstage, hcat⟩
  refine final_require hdisk fun _ _ => final_get ?_
  refine final_require hdisk fun prepared hprep => ?_
  refine final_require hdisk fun examined hexamined => ?_
  rw [proceed]
  have hstays := hcat.prepared hprep
  cases hstage with
  | before shared checkpoint receipts audit =>
    obtain ⟨log, haudit, hwhich⟩ := audit
    obtain ⟨htarget, hintend⟩ := underway.examine_before shared checkpoint haudit hwhich hexamined
    rw [htarget]
    refine final_require hdisk fun intent hintent => ?_
    obtain rfl := ok_unique hintend hintent
    refine final_require hdisk fun accepted hacc => ?_
    obtain ⟨relation, behind, hfinal⟩ := underway.accepts
    obtain rfl := ok_unique hfinal hacc
    have hdigest : sha256 disk.shared = plan.precondition.vaultDigest := shared ▸ underway.sourceDigest
    have hlog : ∃ audit, underway.intent.audit.events = audit.events ∧
        (audit = underway.before ∨ audit = underway.intent.audit) := ⟨_, rfl, .inr rfl⟩
    refine publishTarget_final hdisk (fun durable => ⟨.before shared checkpoint receipts hlog, hcat⟩) ?_ ?_ ?_ ?_
    · refine ⟨?_, ?_⟩
      · cases prepared <;> exact .before shared checkpoint receipts hlog
      · cases prepared <;> exact hstays
    · intro change hchange hsome hdiff
      refine ⟨?_, hcat.restored hprep hsome (hdigest ▸ hdiff) hchange⟩
      cases prepared <;> exact .before shared checkpoint receipts hlog
    · refine ⟨?_, ?_⟩
      · have hsettles : Settles self.principal plan underway.target underway.intent.audit disk.checkpoint :=
          checkpoint ▸ underway.settlesStart
        cases prepared <;> exact .after rfl receipts rfl rfl hsettles
      · cases prepared <;> exact hstays
    · refine ⟨?_, ?_⟩
      · cases prepared <;> exact .after rfl receipts rfl rfl underway.settlesFinal
      · cases prepared <;> exact hstays
  | after shared receipts audit durable checkpoint =>
    obtain ⟨htarget, accepted, hstate, hsettles, hlast, -⟩ := underway.examine_after shared audit checkpoint hexamined
    rw [htarget, hstate]
    have hplaced : Held underway update (disk.withPrepared prepared) := by
      refine ⟨?_, hstays⟩
      cases prepared <;> exact .after shared receipts audit durable checkpoint
    refine final_publishPrepared hdisk hplaced ?_
    refine reconcile_final underway.artifacts.candidate underway.targetScope hsettles hlast underway.intended.contains
      underway.intended.latest hplaced fun settled hsettled _ => ⟨?_, ?_⟩
    · cases prepared <;> exact .after shared receipts audit durable hsettled
    · cases prepared <;> exact hstays

theorem Underway.terminal : underway.target.policyHistory.getLast? = some plan.targetPolicy.terminalRevisionHash := by
  have hcand := underway.artifacts.candidate
  rw [VaultMutationPlan.checkpointCandidate, mapError_eq_ok] at hcand
  exact (fromValidated_candidate hcand).terminal

theorem Underway.accepted_terminal {checkpoint : LocalCheckpoint}
    (h : underway.target.policyHistory.getLast? = some checkpoint.acceptedPublicRevisionHash) :
    checkpoint.acceptedPublicRevisionHash = plan.targetPolicy.terminalRevisionHash :=
  some_unique h underway.terminal

theorem Underway.count {events : List AuditEvent} (h : events = underway.intent.audit.events) :
    operationCount plan events = max 1 (operationCount plan start.audit) := by
  rw [h, underway.intended.count, underway.events]

theorem Stage.examines (h : Stage underway disk) :
    ∃ examined, self.examine codec plan plan.precondition.repositoryAncestry disk = .ok examined := by
  cases h with
  | before shared checkpoint receipts audit =>
    obtain ⟨log, haudit, hwhich⟩ := audit
    have hsound := underway.filesSound hwhich
    refine ⟨⟨plan.isTarget disk.shared underway.policy, underway.relation, log, underway.opened,
        log.eventsAfter disk.checkpoint.latestAuditMac⟩,
      examine_eq_ok.mpr ⟨underway.policy, underway.source, underway.source, log, ?_, .inl ?_, underway.ancestry,
        fun _ => ancestryIsCurrent_undisturbed underway.ancestry, haudit.symm, checkpoint ▸ hsound,
        receipts ▸ underway.receipts, ?_, ?_, rfl⟩⟩
    · rw [shared]
      exact underway.artifacts.reads
    · rw [shared]
      exact underway.artifacts.isExpected
    · rw [currentCandidate, underway.registered]
      rfl
    · rw [checkpoint]
      exact underway.opens log _ hsound
  | after shared receipts audit durable checkpoint =>
    obtain ⟨relation, accepted, hacc, -⟩ := checkpoint.accept underway.targetScope
      (underway.intent.audit.eventsAfter disk.checkpoint.latestAuditMac)
    refine ⟨⟨plan.isTarget disk.shared plan.targetPolicy, relation, underway.intent.audit, accepted, _⟩,
      examine_eq_ok.mpr ⟨plan.targetPolicy, underway.target, underway.target, underway.intent.audit, ?_, .inr ?_,
        underway.ancestry, fun hexp => ?_, audit.symm, checkpoint.sound, receipts ▸ underway.receipts, ?_,
        hacc, rfl⟩⟩
    · rw [shared]
      exact underway.artifacts.readsTarget
    · rw [shared]
      exact underway.artifacts.isTarget
    · rw [shared, underway.artifacts.notExpected] at hexp
      cases hexp
    · rw [currentCandidate, underway.artifacts.candidate]
      split <;> rfl

theorem proceed_before (htarget : examined.isTarget = false)
    (hintend : self.intend plan examined.state = .ok underway.intent) :
    self.proceed plan update (.undisturbed plan) prepared examined disk =
      .ok (.committed .publishedAndSynced plan.warnings)
        ((((disk.withAudit underway.intent.audit true).withPrepared prepared).withShared
          plan.targetBytes).withCheckpoint underway.final) := by
  obtain ⟨relation, behind, hfinal⟩ := underway.accepts
  simp only [proceed, htarget, Bool.false_eq_true, if_false, require, state_eq_ok, mapError_eq_ok]
  exact ⟨_, disk, ⟨hintend, rfl⟩, _, disk, ⟨hfinal, rfl⟩, publishTarget_undisturbed underway.ancestry⟩

theorem proceed_after {accepted : LocalCheckpoint} (htarget : examined.isTarget = true) (hstate : examined.state =
      ⟨underway.intent.audit, accepted, underway.intent.audit.eventsAfter accepted.latestAuditMac⟩)
    (hsettles : Settles self.principal plan underway.target underway.intent.audit accepted)
    (hlast : underway.target.policyHistory.getLast? = some accepted.acceptedPublicRevisionHash) :
    ∃ reached, self.proceed plan update (.undisturbed plan) prepared examined disk =
        .ok (.reconciled plan.warnings) reached ∧
      ((reached = disk.withPrepared prepared ∧ examined.relation ≠ .strictDescendant) ∨
        ∃ settled, reached = (disk.withPrepared prepared).withCheckpoint settled ∧
          underway.target.policyHistory.getLast? = some settled.acceptedPublicRevisionHash) := by
  obtain ⟨reached, hreach, hends⟩ := reconcile_undisturbed underway.artifacts.candidate underway.targetScope hsettles
    hlast underway.intended.contains underway.intended.latest (disk.withPrepared prepared)
    (examined.relation == .strictDescendant)
  refine ⟨reached, ?_, hends.imp (fun ⟨hsame, hchanged⟩ => ⟨hsame, beq_eq_false_iff_ne.mp hchanged⟩) id⟩
  simp only [proceed, htarget, hstate, if_true, state_bind_eq_ok]
  refine ⟨(), disk.withPrepared prepared, ?_, hreach⟩
  cases prepared <;> rfl

theorem Held.completes (h : Held underway update disk) :
    ∃ outcome reached, self.commit codec plan update (.undisturbed plan) disk = .ok outcome reached ∧
      Committed plan start reached := by
  obtain ⟨hstage, hcat⟩ := h
  obtain ⟨prepared, hprep⟩ := hcat.prepares
  obtain ⟨examined, hexamined⟩ := hstage.examines
  have hcommit : self.commit codec plan update (.undisturbed plan) disk =
      self.proceed plan update (.undisturbed plan) prepared examined disk :=
    commit_eq_proceed underway.scope hprep hexamined
  cases hstage with
  | before shared checkpoint receipts audit =>
    obtain ⟨log, haudit, hwhich⟩ := audit
    obtain ⟨htarget, hintend⟩ := underway.examine_before shared checkpoint haudit hwhich hexamined
    refine ⟨_, _, hcommit.trans (proceed_before underway htarget hintend), rfl, ?_, underway.count ?_⟩
    · exact underway.accepted_terminal underway.finalAccepted
    · cases prepared <;> rfl
  | after shared receipts audit durable checkpoint =>
    obtain ⟨htarget, accepted, hstate, hsettles, hlast, hrelation⟩ :=
      underway.examine_after shared audit checkpoint hexamined
    obtain ⟨reached, hreach, hends⟩ := proceed_after underway htarget hstate hsettles hlast
    refine ⟨_, reached, hcommit.trans hreach, ?_⟩
    rcases hends with ⟨rfl, hsame⟩ | ⟨settled, rfl, hsettled⟩
    · obtain ⟨-, rfl⟩ := hrelation.resolve_left hsame
      refine ⟨?_, ?_, underway.count ?_⟩
      · cases prepared <;> exact shared
      · cases prepared <;> exact underway.accepted_terminal hlast
      · cases prepared <;> exact audit
    · refine ⟨?_, underway.accepted_terminal hsettled, underway.count ?_⟩
      · cases prepared <;> exact shared
      · cases prepared <;> exact audit

theorem Underway.differs (underway : Underway self codec plan start) : start.shared ≠ plan.targetBytes := by
  intro heq
  have hreads := underway.artifacts.reads
  rw [heq, underway.artifacts.readsTarget] at hreads
  obtain ⟨hpolicy, -⟩ := Prod.mk.inj (Except.ok.inj hreads)
  have hnot := underway.artifacts.notTarget
  rw [heq, ← hpolicy, underway.artifacts.isTarget] at hnot
  cases hnot

theorem Held.safe (h : Held underway update start) : CrashSafe self codec plan update start := by
  intro interrupted
  have hheld : Held underway update ((commits self codec plan update).final start interrupted) := by
    refine Machine.final_preserves h fun disk answers _ hdisk => ?_
    rw [commits_step]
    exact Held.commit underway answers hdisk
  obtain ⟨hstage, hcat⟩ := hheld
  exact ⟨hstage.safe underway.differs, Held.completes underway ⟨hstage, hcat⟩⟩

theorem publishTarget_sharedFails (h : self.shared.matchesAncestry plan.precondition.repositoryAncestry = true)
    (hdigest : sha256 disk.shared ≠ plan.targetDigest) :
    (finalState (self.publishTarget plan (some change) (.sharedFails plan) (some bytes) audit checkpoint disk)).catalog =
      some change.rollback := by
  have hrestored : abandonShared plan (some change) .synced true
      ((disk.withAudit audit true).withCatalog bytes) =
      .error (.refused .sharedPublicationFailed)
        (((disk.withAudit audit true).withCatalog bytes).withCatalog change.rollback) := by
    have hdiff : (sha256 ((disk.withAudit audit true).withCatalog bytes).shared != plan.targetDigest) = true :=
      bne_iff_ne.mpr hdigest
    change ((do
      if true && sha256 ((disk.withAudit audit true).withCatalog bytes).shared != plan.targetDigest then
        restoreCatalog .synced (some change)
      throw (.refused .sharedPublicationFailed) : CommitM MutationCommitOutcome)
        ((disk.withAudit audit true).withCatalog bytes)) = _
    rw [hdiff]
    rfl
  have hresult : self.publishTarget plan (some change) (.sharedFails plan) (some bytes) audit checkpoint disk =
      .error (.refused .sharedPublicationFailed)
        (((disk.withAudit audit true).withCatalog bytes).withCatalog change.rollback) := by
    unfold publishTarget
    refine bind_eq_error.mpr (.inr ⟨_, _, rfl, ?_⟩)
    refine bind_eq_error.mpr (.inr ⟨true, _, requireCurrent_undisturbed h _, ?_⟩)
    refine bind_eq_error.mpr (.inr ⟨(), _, rfl, ?_⟩)
    refine bind_eq_error.mpr (.inr ⟨(), _, rfl, ?_⟩)
    exact bind_eq_error.mpr (.inr ⟨none, _, rfl, hrestored⟩)
  rw [hresult]
  rfl

theorem Underway.sharedFails_catalog (underway : Underway self codec plan start)
    (hcat : start.catalog ≠ some change.target) (hprior : start.catalog = change.prior)
    (hdigest : plan.precondition.vaultDigest ≠ plan.targetDigest) :
    (finalState (self.commit codec plan (some change) (.sharedFails plan) start)).catalog = some change.rollback := by
  have hprep : prepareCatalogUpdate start.catalog (some change) = .ok (some change.target) :=
    prepareCatalogUpdate_eq_ok.mpr (.inr ⟨hcat, hprior, rfl⟩)
  obtain ⟨examined, hexamined⟩ := underway.stage.examines
  obtain ⟨htarget, hintend⟩ := underway.examine_before rfl rfl underway.events.symm (.inl rfl) hexamined
  obtain ⟨relation, behind, hfinal⟩ := underway.accepts
  have hcommit : self.commit codec plan (some change) (.sharedFails plan) start =
      self.proceed plan (some change) (.sharedFails plan) (some change.target) examined start :=
    commit_eq_proceed underway.scope hprep hexamined
  have hproceed : self.proceed plan (some change) (.sharedFails plan) (some change.target) examined start =
      self.publishTarget plan (some change) (.sharedFails plan) (some change.target) underway.intent.audit
        underway.final start := by
    rw [proceed, htarget, hintend]
    change (require (self.acceptTarget plan underway.intent) >>= fun accepted =>
      self.publishTarget plan (some change) (.sharedFails plan) (some change.target) underway.intent.audit
        accepted.2.checkpoint) start = _
    rw [hfinal]
    rfl
  rw [hcommit, hproceed]
  exact publishTarget_sharedFails underway.ancestry (underway.sourceDigest ▸ hdigest)

-- Commits of a plan are crash safe exactly when a catalog that goes out ahead of the artifact is put back as it was,
-- or never has to be.
theorem commit_crash_safe_iff (self : MutationCommitTarget) (codec : VaultCodec) (plan : VaultMutationPlan)
    (update : Option MutationCatalogUpdate) (start : Disk) (current : VaultFileV1) (hplan : Planned codec current plan)
    (hsource : codec.decode (codec.encode current) = .ok current)
    (htarget : codec.decode (codec.encode plan.target) = .ok plan.target)
    (hshared : start.shared = codec.encode current)
    (hregistered : ∃ policy, replayPolicyWithWitnessPolicies current.policy plan.witnessPolicies = .ok policy ∧
      policy.principals.contains plan.actingPrincipalId = true)
    (hcommit : ∃ outcome reached, self.commit codec plan update (.undisturbed plan) start = .ok outcome reached) :
    CrashSafe self codec plan update start ↔
      ∀ change, update = some change → start.catalog = some change.target ∨ Restorable plan change := by
  obtain ⟨policy, hpolicy, hprin⟩ := hregistered
  obtain ⟨source, target, hread⟩ := hplan.artifactsRead hsource htarget hpolicy
  obtain ⟨outcome, reached, hreach⟩ := hcommit
  obtain ⟨⟨prepared, hprep⟩, ⟨underway⟩⟩ := exists_underway (hshared ▸ hread) hprin hreach
  constructor
  · intro hsafe change hchange
    subst hchange
    by_contra hnot
    obtain ⟨hcat, hrestorable⟩ := not_or.mp hnot
    simp only [Restorable, not_or] at hrestorable
    obtain ⟨hprior, hrollback, hdigest⟩ := hrestorable
    have hstart := ((prepareCatalogUpdate_eq_ok.mp hprep).resolve_left fun hsame => hcat hsame.1).2.1
    obtain ⟨-, outcome, reached, hagain, -⟩ := hsafe [.sharedFails plan]
    have hleft : ((commits self codec plan (some change)).final start [.sharedFails plan]).catalog =
        some change.rollback := by
      change ((commits self codec plan (some change)).step start (.sharedFails plan)).2.catalog = _
      rw [commits_step]
      exact underway.sharedFails_catalog hcat hstart hdigest
    obtain ⟨-, prepared, -, hprep, -⟩ := commit_eq_ok hagain
    rw [hleft] at hprep
    rcases prepareCatalogUpdate_eq_ok.mp hprep with ⟨hsame, -⟩ | ⟨-, hsame, -⟩
    · exact hrollback (Option.some.inj hsame)
    · exact hprior hsame.symm
  · refine fun hcondition => Held.safe underway ⟨underway.stage, fun change hchange => ?_⟩
    rcases hcondition change hchange with hcat | hrestorable
    · exact .inl hcat
    · exact (prepareCatalogUpdate_eq_ok.mp (hchange ▸ hprep)).imp And.left fun hprior => ⟨hprior.2.1, hrestorable⟩

end Steps

end Runs

end Jury.Mutation

namespace Jury.Mutation.Sample

open Lib Protocol Vault Protocol.Sample Policy Policy.Sample LocalState Access.Sample

def foundedVault : VaultFileV1 := { createdVault with policy := foundedBy 1 1000, items := [] }

def codec : VaultCodec where
  encode vault := octets [UInt8.ofNat vault.policy.revisions.length]
  decode bytes :=
    if bytes = octets [0] then .ok foundedVault
    else if bytes = octets [1] then .ok createdVault
    else .error .invalidJson

def prepared : Except MutationErrorKind PreparedPolicyRevision := do
  let revision ← orReject createdJournal.revisions.getLast? .invalidPlan
  let state ← (replayPolicyWithWitnessPolicies createdJournal []).mapError fun _ => MutationErrorKind.invalidPlan
  return { revision, state }

def planned : Except MutationErrorKind VaultMutationPlan := do
  let prepared ← prepared
  VaultMutationPlan.fromPrepared codec foundedVault [] prepared createdVault.items 1001 .acknowledged .item

def fingerprint : Digest32 := createdVault.header.genesisFingerprint

def committer : MutationCommitTarget where
  shared := .detached
  principal := {
    scope := { vaultId := identifier .vault 1, genesisFingerprint := fingerprint, principalId := owner }
    auditMac := sha256
    checkpointMac := sha256
    eventLength := fun _ => 512
    parseReceipts := fun _ => .ok () }

def creationEvent : AuditEvent :=
  let event : AuditEvent := {
    version := 1
    sequence := 1
    operationId := fingerprint
    principalId := owner
    vaultId := identifier .vault 1
    genesisFingerprint := fingerprint
    policySequence := 0
    action := .vaultCreateOrImport
    item := none
    outcome := .success
    witness := none
    previousMac := ZERO_DIGEST
    mac := ZERO_DIGEST }
  { event with mac := sha256 event.macPreimage }

def firstCheckpoint : LocalCheckpoint :=
  LocalCheckpoint.withMac committer.principal {
    version := 1
    scope := committer.principal.scope
    acceptedPublicRevisionHash := fingerprint
    latestAuditMac := creationEvent.mac
    auditGenesisDigest := fingerprint
    updatedAtMs := 1000
    mac := ZERO_DIGEST }

def startDisk (catalog : Option Bytes) : Disk where
  catalog
  shared := codec.encode foundedVault
  audit := [creationEvent]
  auditDurable := true
  checkpoint := firstCheckpoint
  receipts := ∅

def returned {α : Type} : EStateM.Result Stop Disk α → Bool
  | .ok _ _ => true
  | .error _ _ => false

def change (prior : Option Bytes) : MutationCatalogUpdate where
  prior
  rollback := octets [2]
  target := octets [3]

theorem item_commit_crash_safe : ∃ plan, planned = .ok plan ∧
    CrashSafe committer codec plan (some (change (some (octets [2])))) (startDisk (some (octets [2]))) := by
  obtain ⟨plan, hplan, hrun⟩ := returns_iff.mp
    (by decide +kernel : Returns planned (fun plan =>
      returned (committer.commit codec plan (some (change (some (octets [2])))) (.undisturbed plan)
          (startDisk (some (octets [2]))))
        && decide (codec.decode (codec.encode plan.target) = .ok plan.target)
        && Returns (replayPolicyWithWitnessPolicies foundedVault.policy plan.witnessPolicies)
          (fun policy => policy.principals.contains plan.actingPrincipalId)) = true)
  simp only [holds] at hrun
  obtain ⟨⟨hcommit, htarget⟩, hreg⟩ := hrun
  have hprep : ∃ prepared, VaultMutationPlan.fromPrepared codec foundedVault [] prepared createdVault.items 1001
      .acknowledged .item = .ok plan := by
    simp only [planned, bind_eq_ok] at hplan
    obtain ⟨prepared, -, hprep⟩ := hplan
    exact ⟨prepared, hprep⟩
  obtain ⟨prepared, hprep⟩ := hprep
  refine ⟨plan, hplan, (commit_crash_safe_iff committer codec plan _ _ foundedVault
    (.prepared [] prepared createdVault.items 1001 .acknowledged .item hprep) (by decide +kernel) htarget rfl
    (returns_iff.mp hreg) ?_).mpr fun update hupdate => ?_⟩
  · cases hresult : committer.commit codec plan (some (change (some (octets [2])))) (.undisturbed plan)
      (startDisk (some (octets [2]))) with
    | ok outcome reached => exact ⟨outcome, reached, rfl⟩
    | error stop reached =>
      rw [hresult] at hcommit
      cases hcommit
  · obtain rfl := Option.some.inj hupdate
    exact .inr (.inl rfl)

-- There was no catalog before. When the shared artifact cannot be published a catalog is left that no later commit of
-- the plan accepts, whatever happens in it.
theorem first_catalog_not_crash_safe : ∃ plan, planned = .ok plan ∧
    returned (committer.commit codec plan (some (change none)) (.undisturbed plan) (startDisk none)) = true ∧
    returned (committer.commit codec plan (some (change none)) (.undisturbed plan)
      ((commits committer codec plan (some (change none))).final (startDisk none) [.sharedFails plan])) = false ∧
    ¬ CrashSafe committer codec plan (some (change none)) (startDisk none) := by
  obtain ⟨plan, hplan, hrun⟩ := returns_iff.mp
    (by decide +kernel : Returns planned (fun plan =>
      returned (committer.commit codec plan (some (change none)) (.undisturbed plan) (startDisk none))
        && !returned (committer.commit codec plan (some (change none)) (.undisturbed plan)
          ((commits committer codec plan (some (change none))).final (startDisk none) [.sharedFails plan]))) = true)
  simp only [Bool.and_eq_true, Bool.not_eq_true'] at hrun
  refine ⟨plan, hplan, hrun.1, hrun.2, fun hsafe => ?_⟩
  obtain ⟨-, outcome, reached, hagain, -⟩ := hsafe [.sharedFails plan]
  have hrefused := hrun.2
  rw [hagain] at hrefused
  cases hrefused

end Jury.Mutation.Sample
