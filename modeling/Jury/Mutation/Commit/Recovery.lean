import Jury.Mutation.Commit

-- What single parts of a commit do, however their publications end: the intent, the reconciliation of an artifact that
-- has been replaced, and the catalog.
namespace Jury.Mutation

open Lib Protocol LocalState

namespace Disk

def withPrepared : Option Bytes → Disk → Disk
  | none, disk => disk
  | some bytes, disk => disk.withCatalog bytes

end Disk

-- Git still says what the plan was bound to, and every publication is synced.
def Answers.undisturbed (plan : VaultMutationPlan) : Answers where
  ancestry := plan.precondition.repositoryAncestry
  ancestryLater := plan.precondition.repositoryAncestry
  catalog := .synced
  audit := .synced
  shared := .synced
  restore := .synced
  checkpoint := .synced

def Answers.sharedFails (plan : VaultMutationPlan) : Answers := { undisturbed plan with shared := .failed }

def operationCount (plan : VaultMutationPlan) (events : List AuditEvent) : Nat :=
  events.countP fun event => event.operationId == plan.targetDigest

variable {plan : VaultMutationPlan} {events : List AuditEvent} {shared : SharedArtifact}

theorem operationCount_pos (h : (events.any fun event => event.operationId == plan.targetDigest) = true) :
    1 ≤ operationCount plan events := by
  rw [operationCount, Nat.one_le_iff_ne_zero, ← Nat.pos_iff_ne_zero, List.countP_pos_iff]
  exact List.any_eq_true.mp h

theorem operationCount_eq_zero (h : (events.any fun event => event.operationId == plan.targetDigest) = false) :
    operationCount plan events = 0 :=
  List.countP_eq_zero.mpr fun event hevent => List.any_eq_false.mp h event hevent

theorem ancestryIsCurrent_undisturbed (h : shared.matchesAncestry expected = true) :
    shared.ancestryIsCurrent expected expected = .ok true := by
  cases shared with
  | repository =>
    cases expected with
    | none => cases h
    | some digest => simp [SharedArtifact.ancestryIsCurrent, orReject, bind, Except.bind, pure, Except.pure]
  | detached =>
    cases expected with
    | none => rfl
    | some digest => cases h

theorem requireCurrent_undisturbed (h : shared.matchesAncestry expected = true) (disk : Disk) :
    (require (shared.ancestryIsCurrent expected expected) : CommitM Bool) disk = .ok true disk := by
  rw [require, ancestryIsCurrent_undisturbed h]
  rfl

section Publication

variable {α β : Type} {P : Disk → Prop}

theorem final_require {f : α → CommitM β} (hdisk : P disk) (hok : ∀ a, x = .ok a → P (finalState (f a disk))) :
    P (finalState ((require x >>= f) disk)) := by
  refine final_bind_of (fun e t h => ?_) fun a t h => ?_
  · rw [require, check_eq_error] at h
    exact h.2 ▸ hdisk
  · rw [require, check_eq_ok, mapError_eq_ok] at h
    exact h.2 ▸ hok a h.1

theorem final_publish {f : Option PublicationOutcome → CommitM β} (hdisk : P disk) (hcut : P (write false disk))
    (hfailed : P (finalState (f none disk)))
    (hunsynced : P (finalState (f (some .publishedButParentUnsynced) (write false disk))))
    (hsynced : P (finalState (f (some .publishedAndSynced) (write true disk)))) :
    P (finalState ((publish answer write >>= f) disk)) := by
  cases answer with
  | synced => exact hsynced
  | unsynced => exact hunsynced
  | failed => exact hfailed
  | crashed replaced =>
    cases replaced with
    | false => exact hdisk
    | true => exact hcut

theorem final_publishCatalog {f : Unit → CommitM β} (hdisk : P disk) (hcut : P (disk.withCatalog bytes))
    (hsynced : P (finalState (f () (disk.withCatalog bytes)))) :
    P (finalState ((publishCatalog answer bytes >>= f) disk)) := by
  rw [publishCatalog, bind_assoc]
  exact final_publish hdisk hcut hdisk hcut hsynced

theorem final_publishPrepared {prepared : Option Bytes} {f : Unit → CommitM β} (hdisk : P disk)
    (hcut : P (disk.withPrepared prepared)) (hsynced : P (finalState (f () (disk.withPrepared prepared)))) :
    P (finalState ((publishPrepared answer prepared >>= f) disk)) := by
  cases prepared with
  | none => exact hsynced
  | some bytes => exact final_publishCatalog hdisk hcut hsynced

end Publication

section Catalog

variable {disk : Disk}

theorem prepareCatalogUpdate_eq_ok {prepared : Option Bytes} :
    prepareCatalogUpdate catalog (some change) = .ok prepared ↔ (catalog = some change.target ∧ prepared = none) ∨
      (catalog ≠ some change.target ∧ catalog = change.prior ∧ prepared = some change.target) := by
  simp only [prepareCatalogUpdate]
  by_cases htarget : catalog = some change.target
  · simp [htarget, eq_comm]
  · by_cases hprior : catalog = change.prior
    · subst hprior
      simp [htarget, eq_comm]
    · simp [htarget, hprior]

-- What is put back is what was there, or it never has to be put back.
def Restorable (plan : VaultMutationPlan) (change : MutationCatalogUpdate) : Prop :=
  change.prior = some change.rollback ∨ change.rollback = change.target ∨
    plan.precondition.vaultDigest = plan.targetDigest

def CatalogStays (plan : VaultMutationPlan) (update : Option MutationCatalogUpdate) (catalog : Option Bytes) : Prop :=
  ∀ change, update = some change → catalog = some change.target ∨ (catalog = change.prior ∧ Restorable plan change)

theorem CatalogStays.prepares (h : CatalogStays plan update catalog) :
    ∃ prepared, prepareCatalogUpdate catalog update = .ok prepared := by
  cases update with
  | none => exact ⟨none, rfl⟩
  | some change =>
    rcases h change rfl with htarget | ⟨hprior, -⟩
    · exact ⟨none, prepareCatalogUpdate_eq_ok.mpr (.inl ⟨htarget, rfl⟩)⟩
    · by_cases htarget : catalog = some change.target
      · exact ⟨none, prepareCatalogUpdate_eq_ok.mpr (.inl ⟨htarget, rfl⟩)⟩
      · exact ⟨_, prepareCatalogUpdate_eq_ok.mpr (.inr ⟨htarget, hprior, rfl⟩)⟩

theorem CatalogStays.prepared {prepared : Option Bytes} (h : CatalogStays plan update disk.catalog)
    (hprep : prepareCatalogUpdate disk.catalog update = .ok prepared) :
    CatalogStays plan update (disk.withPrepared prepared).catalog := by
  cases prepared with
  | none => exact h
  | some bytes =>
    rintro change rfl
    rcases prepareCatalogUpdate_eq_ok.mp hprep with ⟨-, hnone⟩ | ⟨-, -, hbytes⟩
    · cases hnone
    · exact .inl hbytes

theorem CatalogStays.restored {prepared : Option Bytes} (h : CatalogStays plan update disk.catalog)
    (hprep : prepareCatalogUpdate disk.catalog update = .ok prepared) (hsome : prepared.isSome = true)
    (hdigest : plan.precondition.vaultDigest ≠ plan.targetDigest) (hchange : update = some change) :
    CatalogStays plan update (some change.rollback) := by
  subst hchange
  rintro _ ⟨⟩
  rcases prepareCatalogUpdate_eq_ok.mp hprep with ⟨-, hnone⟩ | ⟨hrepl, -, -⟩
  · rw [hnone] at hsome
    cases hsome
  · obtain ⟨-, hrestorable⟩ := (h change rfl).resolve_left hrepl
    rcases hrestorable with hprior | hsame | hcollision
    · exact .inr ⟨hprior.symm, .inl hprior⟩
    · exact .inl (congrArg some hsame)
    · exact absurd hcollision hdigest

end Catalog

-- A checkpoint from which the rest of a commit can be made up: either it is not from later than the plan, or there is
-- nothing left to do.
structure Settles [Crypto] (principal : PrincipalLocalState) (plan : VaultMutationPlan) (target : CheckpointCandidate)
    (audit : AuditLog) (checkpoint : LocalCheckpoint) : Prop where
  sound : FilesSound principal audit checkpoint
  accepted : checkpoint.acceptedPublicRevisionHash ∈ target.policyHistory
  ready : checkpoint.updatedAtMs ≤ plan.timestampMs ∨
    (target.policyHistory.getLast? = some checkpoint.acceptedPublicRevisionHash ∧
      audit.eventsAfter checkpoint.latestAuditMac = 0)

section Settling

variable [Crypto] {self : MutationCommitTarget} {plan : VaultMutationPlan} {target : CheckpointCandidate}
  {audit : AuditLog} {checkpoint : LocalCheckpoint}

theorem Settles.accept (h : Settles self.principal plan target audit checkpoint)
    (hscope : target.validateScope self.principal.scope = .ok ()) (behind : Nat) :
    ∃ relation accepted,
      self.principal.acceptCandidate ⟨audit, checkpoint, behind⟩ target plan.timestampMs =
        .ok (relation, ⟨audit, accepted, behind⟩) ∧
      Settles self.principal plan target audit accepted ∧
      target.policyHistory.getLast? = some accepted.acceptedPublicRevisionHash ∧
      accepted.latestAuditMac = checkpoint.latestAuditMac ∧
      (relation = .strictDescendant ∨ (relation = .equal ∧ accepted = checkpoint)) := by
  obtain ⟨-, -, -, hne, hzero⟩ := validateScope_eq_ok.mp hscope
  have hlast := List.getLast?_eq_some_getLast hne
  have hmem := List.getLast_mem hne
  by_cases hequal : checkpoint.acceptedPublicRevisionHash = target.policyHistory.getLast hne
  · refine ⟨.equal, checkpoint, ?_, h, hequal ▸ hlast, rfl, .inr ⟨rfl, rfl⟩⟩
    exact (acceptCandidate_eq_ok h.sound).mpr ⟨hscope, _, hlast, .inl ⟨hequal, rfl, rfl⟩⟩
  · have hts : checkpoint.updatedAtMs ≤ plan.timestampMs := by
      rcases h.ready with hts | ⟨hdone, -⟩
      · exact hts
      · exact absurd (some_unique hdone hlast) hequal
    refine ⟨.strictDescendant, checkpoint.accepting self.principal _ plan.timestampMs, ?_, ?_, hlast, rfl, .inl rfl⟩
    · exact (acceptCandidate_eq_ok h.sound).mpr ⟨hscope, _, hlast, .inr ⟨hequal, h.accepted, hts, rfl, rfl⟩⟩
    · exact ⟨h.sound.accepting (fun heq => hzero (heq ▸ hmem)) hts, hmem, .inl (UInt64.le_refl _)⟩

theorem Settles.recording (h : Settles self.principal plan target audit checkpoint)
    (hlatest : audit.latestMac ≠ ZERO_DIGEST) (hbehind : audit.eventsAfter checkpoint.latestAuditMac ≠ 0) :
    ∃ recorded,
      self.principal.acceptAuditTail ⟨audit, checkpoint, audit.eventsAfter checkpoint.latestAuditMac⟩ plan.timestampMs =
        .ok ⟨audit, recorded, 0⟩ ∧
      Settles self.principal plan target audit recorded ∧
      recorded.acceptedPublicRevisionHash = checkpoint.acceptedPublicRevisionHash := by
  have hts : checkpoint.updatedAtMs ≤ plan.timestampMs := h.ready.resolve_right fun hdone => hbehind hdone.2
  refine ⟨checkpoint.recording self.principal audit.latestMac plan.timestampMs, ?_, ?_, rfl⟩
  · exact (acceptAuditTail_eq_ok h.sound).mpr (.inr ⟨hbehind, hts, hlatest, rfl⟩)
  · exact ⟨h.sound.recording hlatest hts, h.accepted, .inl (UInt64.le_refl _)⟩

theorem acceptTarget_equal (hcandidate : plan.checkpointCandidate = .ok target)
    (hscope : target.validateScope self.principal.scope = .ok ())
    (h : Settles self.principal plan target audit checkpoint)
    (hlast : target.policyHistory.getLast? = some checkpoint.acceptedPublicRevisionHash) (behind : Nat) :
    self.acceptTarget plan ⟨audit, checkpoint, behind⟩ = .ok (.equal, ⟨audit, checkpoint, behind⟩) := by
  simp only [MutationCommitTarget.acceptTarget, eq_ok]
  exact ⟨target, hcandidate, (acceptCandidate_eq_ok h.sound).mpr ⟨hscope, _, hlast, .inl ⟨rfl, rfl, rfl⟩⟩⟩

section Reconcile

variable (hcandidate : plan.checkpointCandidate = .ok target)
  (hscope : target.validateScope self.principal.scope = .ok ())
  (h : Settles self.principal plan target audit checkpoint)
  (hlast : target.policyHistory.getLast? = some checkpoint.acceptedPublicRevisionHash) {P : Disk → Prop}

include hcandidate hscope h hlast

theorem finishCheckpoint_final (hdisk : P disk) (hwrite : P (disk.withCheckpoint checkpoint)) :
    P (finalState (self.finishCheckpoint plan answer ⟨audit, checkpoint, behind⟩ published true changed disk)) := by
  refine final_require hdisk fun accepted hacc => ?_
  rw [acceptTarget_equal hcandidate hscope h hlast] at hacc
  obtain rfl := Except.ok.inj hacc
  cases changed with
  | false => exact hdisk
  | true => exact final_publish hdisk hwrite hdisk hwrite hwrite

theorem finishCheckpoint_undisturbed :
    self.finishCheckpoint plan .synced ⟨audit, checkpoint, behind⟩ published true changed disk =
      .ok (.reconciled plan.warnings) (if changed then disk.withCheckpoint checkpoint else disk) := by
  simp only [MutationCommitTarget.finishCheckpoint, require, acceptTarget_equal hcandidate hscope h hlast, state_eq_ok,
    mapError_eq_ok]
  refine ⟨_, disk, ⟨rfl, rfl⟩, ?_⟩
  cases changed with
  | false => rfl
  | true => rfl

variable (hcontains : audit.containsOperation plan.targetDigest = true) (hlatest : audit.latestMac ≠ ZERO_DIGEST)

include hcontains hlatest

theorem reconcile_final (hdisk : P disk) (hwrite : ∀ settled, Settles self.principal plan target audit settled →
      target.policyHistory.getLast? = some settled.acceptedPublicRevisionHash → P (disk.withCheckpoint settled)) :
    P (finalState (self.reconcile plan answers
      ⟨audit, checkpoint, audit.eventsAfter checkpoint.latestAuditMac⟩ changed disk)) := by
  simp only [MutationCommitTarget.reconcile, hcontains, Bool.not_true, Bool.false_eq_true, if_false]
  split
  case isTrue => exact finishCheckpoint_final hcandidate hscope h hlast hdisk (hwrite _ h hlast)
  case isFalse hbehind =>
    obtain ⟨recorded, hrecorded, hsettles, hacc⟩ := h.recording hlatest hbehind
    refine final_require hdisk fun state hstate => ?_
    rw [mapError_eq_ok, hrecorded] at hstate
    obtain rfl := Except.ok.inj hstate
    exact finishCheckpoint_final hcandidate hscope hsettles (hacc ▸ hlast) hdisk (hwrite _ hsettles (hacc ▸ hlast))

theorem reconcile_undisturbed (disk : Disk) (changed : Bool) :
    ∃ reached, self.reconcile plan (.undisturbed plan)
        ⟨audit, checkpoint, audit.eventsAfter checkpoint.latestAuditMac⟩ changed disk =
        .ok (.reconciled plan.warnings) reached ∧
      ((reached = disk ∧ changed = false) ∨ ∃ settled, reached = disk.withCheckpoint settled ∧
        target.policyHistory.getLast? = some settled.acceptedPublicRevisionHash) := by
  simp only [MutationCommitTarget.reconcile, hcontains, Bool.not_true, Bool.false_eq_true, if_false]
  split
  case isTrue =>
    refine ⟨_, finishCheckpoint_undisturbed hcandidate hscope h hlast, ?_⟩
    cases changed with
    | false => exact .inl ⟨rfl, rfl⟩
    | true => exact .inr ⟨checkpoint, rfl, hlast⟩
  case isFalse hbehind =>
    obtain ⟨recorded, hrecorded, hsettles, hacc⟩ := h.recording hlatest hbehind
    refine ⟨disk.withCheckpoint recorded, ?_, .inr ⟨recorded, rfl, hacc ▸ hlast⟩⟩
    simp only [require, state_eq_ok, mapError_eq_ok]
    exact ⟨_, disk, ⟨hrecorded, rfl⟩, finishCheckpoint_undisturbed hcandidate hscope hsettles (hacc ▸ hlast)⟩

end Reconcile

theorem examine_eq_ok :
    self.examine codec plan observed disk = .ok examined ↔
      ∃ policy candidate accepted audit,
        readArtifact codec plan.witnessPolicies disk.shared = .ok (policy, candidate) ∧
        (plan.isExpected disk.shared policy = true ∨ plan.isTarget disk.shared policy = true) ∧
        self.shared.matchesAncestry plan.precondition.repositoryAncestry = true ∧
        (plan.isExpected disk.shared policy = true →
          self.shared.ancestryIsCurrent observed plan.precondition.repositoryAncestry = .ok true) ∧
        audit.events = disk.audit ∧ FilesSound self.principal audit disk.checkpoint ∧
        self.principal.parseReceipts disk.receipts = .ok () ∧
        self.currentCandidate plan policy candidate = .ok accepted ∧
        self.principal.acceptCandidate ⟨audit, disk.checkpoint, audit.eventsAfter disk.checkpoint.latestAuditMac⟩ accepted
          plan.timestampMs = .ok (examined.relation, examined.state) ∧
        examined.isTarget = plan.isTarget disk.shared policy := by
  simp only [MutationCommitTarget.examine, eq_ok, verifyFiles_eq_ok, Bool.not_eq_false', Bool.and_eq_false_imp,
    Bool.not_eq_true']
  constructor
  · rintro ⟨⟨policy, candidate⟩, hread, -, hknown, -, hmatches, current, hcur, -, rfl, state,
      ⟨audit, hevents, hsound, hrcpts, rfl⟩, accepted, hcandidate, ⟨relation, reached⟩, haccept, rfl⟩
    refine ⟨policy, candidate, accepted, audit, hread, ?_, hmatches, fun hexp => ?_, hevents, hsound, hrcpts,
      hcandidate, haccept, rfl⟩
    · cases hexp : plan.isExpected disk.shared policy with
      | false => exact .inr (hknown hexp)
      | true => exact .inl rfl
    · rwa [MutationCommitTarget.expectedAncestry, if_pos hexp] at hcur
  · rintro ⟨policy, candidate, accepted, audit, hread, hknown, hmatches, hcur, hevents, hsound, hrcpts,
      hcandidate, haccept, htarget⟩
    refine ⟨(policy, candidate), hread, (), fun hexp => ?_, (), hmatches, true, ?_, (), rfl, _,
      ⟨audit, hevents, hsound, hrcpts, rfl⟩, accepted, hcandidate, _, haccept, ?_⟩
    · exact hknown.resolve_left (Bool.eq_false_iff.mp hexp)
    · rw [MutationCommitTarget.expectedAncestry]
      split
      case isTrue hexp => exact hcur hexp
      case isFalse => rfl
    · rw [← htarget]

end Settling

-- The log with the intent of a plan in it, and how it comes from the log before.
structure IntentOf [Crypto] (principal : PrincipalLocalState) (plan : VaultMutationPlan) (before after : AuditLog) :
    Prop where
  contains : after.containsOperation plan.targetDigest = true
  latest : after.latestMac ≠ ZERO_DIGEST
  count : operationCount plan after.events = max 1 (operationCount plan before.events)
  sound : ∀ checkpoint, FilesSound principal before checkpoint → FilesSound principal after checkpoint

section Intent

variable [Crypto] {self : MutationCommitTarget} {plan : VaultMutationPlan} {before : AuditLog}

theorem operationCount_append (happend : before.append principal plan.auditIntent = .ok after) :
    operationCount plan after.events = operationCount plan before.events + 1 := by
  rw [operationCount, append_eq_ok happend, List.countP_append, operationCount]
  simp [AuditLog.eventOf, VaultMutationPlan.auditIntent]

-- The intent is recorded in the same way from the log that it was first written to and from the log that has it.
theorem intend_eq_ok (h : FilesSound self.principal before checkpoint)
    (hout : self.intend plan ⟨before, checkpoint, before.eventsAfter checkpoint.latestAuditMac⟩ = .ok out) :
    IntentOf self.principal plan before out.audit ∧
      self.intend plan ⟨out.audit, checkpoint, out.audit.eventsAfter checkpoint.latestAuditMac⟩ = .ok out ∧
      out.checkpoint.acceptedPublicRevisionHash = checkpoint.acceptedPublicRevisionHash ∧
      FilesSound self.principal out.audit out.checkpoint ∧
      ((out.checkpoint = checkpoint ∧ out.audit.eventsAfter checkpoint.latestAuditMac = 0) ∨
        (out.checkpoint.updatedAtMs = plan.timestampMs ∧ checkpoint.updatedAtMs ≤ plan.timestampMs)) := by
  have hintend := hout
  simp only [MutationCommitTarget.intend, mapError_eq_ok] at hout
  split at hout
  case isTrue hcontains =>
    have hcount : operationCount plan before.events = max 1 (operationCount plan before.events) :=
      (max_eq_right (operationCount_pos hcontains)).symm
    rcases (acceptAuditTail_eq_ok h).mp hout with ⟨hnone, rfl⟩ | ⟨hsome, hts, hlatest, rfl⟩
    · exact ⟨⟨hcontains, h.latestMac_ne_zero hnone, hcount, fun _ hother => hother⟩, hintend, rfl, h, .inl ⟨rfl, hnone⟩⟩
    · exact ⟨⟨hcontains, hlatest, hcount, fun _ hother => hother⟩, hintend, rfl, h.recording hlatest hts,
        .inr ⟨rfl, hts⟩⟩
  case isFalse hmissing =>
    obtain ⟨longer, happend, hts, hlatest, rfl⟩ := appendEvent_eq_ok hout
    have hmissing : (before.events.any fun event => event.operationId == plan.targetDigest) = false :=
      Bool.eq_false_iff.mpr hmissing
    have hlonger := h.append happend
    have hcount : operationCount plan longer.events = max 1 (operationCount plan before.events) := by
      rw [operationCount_append happend, operationCount_eq_zero hmissing]
      rfl
    have hcontains : longer.containsOperation plan.targetDigest = true := by
      rw [AuditLog.containsOperation, append_eq_ok happend]
      simp [AuditLog.eventOf, VaultMutationPlan.auditIntent]
    refine ⟨⟨hcontains, hlatest, hcount, fun _ hother => hother.append happend⟩, ?_, rfl,
      hlonger.recording hlatest hts, .inr ⟨rfl, hts⟩⟩
    simp only [MutationCommitTarget.intend, hcontains, if_true, mapError_eq_ok]
    have hbehind := eventsAfter_append h happend
    exact (acceptAuditTail_eq_ok hlonger).mpr (.inr ⟨by omega, hts, hlatest, rfl⟩)

end Intent

end Jury.Mutation
