import Jury.Policy.Replay.Theorems

-- The two sides of a revision: what an owner prepares against a state, and what replay makes of it.
namespace Jury.Policy

open Lib Protocol Vault

def lastTimestampMs (createdAtMs : UInt64) (revisions : List SignedPolicyRevisionV1) : UInt64 :=
  (revisions.getLast?.map (·.timestampMs)).getD createdAtMs

def extendJournal (journal : PolicyJournalV1) (revision : SignedPolicyRevisionV1) : PolicyJournalV1 :=
  { journal with revisions := journal.revisions ++ [revision] }

theorem lastTimestampMs_cons (createdAtMs : UInt64) (revision : SignedPolicyRevisionV1)
    (rest : List SignedPolicyRevisionV1) :
    lastTimestampMs createdAtMs (revision :: rest) = lastTimestampMs revision.timestampMs rest := by
  cases rest with
  | nil => rfl
  | cons next rest =>
    obtain ⟨last, hlast⟩ := Option.isSome_iff_exists.mp (by simp : (next :: rest).getLast?.isSome = true)
    simp only [lastTimestampMs, List.getLast?_cons_cons, hlast]
    rfl

variable [Crypto]

def PolicySigner.Verifies (signer : PolicySigner) : Prop :=
  ∀ descriptor message signature, signer.descriptor = .ok descriptor → signer.sign message = .ok signature →
    verifyBytes descriptor.verificationPublicKey message signature = true

variable {next prior state : PolicyState} {sequence timestampMs : UInt64} {operations : List PolicyOperationV1}
variable {prepared : PreparedPolicyRevision}

theorem replayRevisions_snoc (h : replayRevisions genesis index timestamp state revisions = .ok final)
    (revision : SignedPolicyRevisionV1) :
    replayRevisions genesis index timestamp state (revisions ++ [revision]) =
      replayRevision genesis (index + revisions.length) (lastTimestampMs timestamp revisions) final revision := by
  induction revisions generalizing index timestamp state with
  | nil =>
    obtain rfl := Except.ok.inj h
    simp only [List.nil_append, replayRevisions, List.length_nil, Nat.add_zero]
    exact bind_pure _
  | cons first rest ih =>
    simp only [replayRevisions, bind_eq_ok] at h
    obtain ⟨next, hnext, hrest⟩ := h
    have hrev := ih hrest
    rw [lastTimestampMs_cons, List.length_cons, ← Nat.add_assoc, Nat.add_right_comm, ← hrev]
    simp only [List.cons_append, replayRevisions, hnext]
    rfl

theorem replay_snoc {journal : PolicyJournalV1} {catalog : BTreeMap Digest32 WitnessPolicy}
    (h : replayPolicyWithCatalog journal catalog = .ok state) (hroom : journal.revisions.length < MAX_POLICY_REVISIONS)
    (revision : SignedPolicyRevisionV1) :
    replayPolicyWithCatalog (extendJournal journal revision) catalog =
      replayRevision journal.genesis journal.revisions.length
        (lastTimestampMs journal.genesis.createdAtMs journal.revisions) state revision := by
  simp only [replayPolicyWithCatalog, bind_eq_ok] at h
  obtain ⟨start, hstart, hreplay⟩ := h
  have hextended : startReplay (extendJournal journal revision) catalog = .ok start := by
    have hbound : ¬ (journal.revisions ++ [revision]).length > MAX_POLICY_REVISIONS := by
      rw [List.length_append, List.length_singleton]
      omega
    have hjournal : ¬ journal.revisions.length > MAX_POLICY_REVISIONS := by omega
    simpa only [startReplay, extendJournal, hbound, hjournal] using hstart
  have hrev := replayRevisions_snoc hreplay revision
  rw [Nat.zero_add] at hrev
  rw [← hrev, replayPolicyWithCatalog, hextended]
  rfl

-- A prepared revision is one that replay reads in the same way, up to the order of time: a policy state does not know
-- when its last revision was made.
structure Prepared (prior : PolicyState) (timestampMs : UInt64) (prepared : PreparedPolicyRevision)
    (sequence : UInt64) (active : PrincipalPolicyState) (next : PolicyState) : Prop where
  owner : prepared.revision.authorPrincipalId ∈ prior.owners
  author : prior.principals[prepared.revision.authorPrincipalId]? = some active
  counted : checkedAdd prior.sequence 1 = some sequence ∧ sequence.toNat ≤ MAX_POLICY_REVISIONS
  applied : applyOperations prior sequence prepared.revision.operations = .ok next
  covered : validateCompleteOwnerSlots next = .ok ()
  hashed : next.normalizedStateHash = .ok prepared.revision.resultingPolicyStateHash
  header : prepared.revision.vaultId = prior.vaultId ∧ prepared.revision.sequence = sequence ∧
    prepared.revision.previousRevisionHash = prior.terminalRevisionHash ∧
    prepared.revision.timestampMs = timestampMs
  signed : ∃ preimage, prepared.revision.signaturePreimage = some preimage ∧
    verifyBytes active.descriptor.verificationPublicKey preimage prepared.revision.signature = true
  terminal : ∃ hash, prepared.revision.recomputedHash = some hash ∧
    prepared.state = { next with terminalRevisionHash := hash, revisionHashes := next.revisionHashes ++ [hash] }

theorem prepareWithSigner_eq_ok {signer : PolicySigner} (hsigner : signer.Verifies)
    (h : prepareWithSigner prior signer timestampMs operations = .ok prepared) :
    prepared.revision.operations = operations ∧
      ∃ sequence active next, Prepared prior timestampMs prepared sequence active next := by
  simp only [prepareWithSigner, eq_ok, passed, gt_iff_lt, Nat.not_lt, Unique.exists_iff] at h
  obtain ⟨howner, active, hactive, descriptor, hdesc, rfl, sequence, hseq, hbound, next, happlied, hcovered,
    hash, hhash, preimage, hpre, signature, hsig, terminal, hterminal, rfl⟩ := h
  exact ⟨rfl, sequence, active, next, {
    owner := Std.ExtTreeSet.contains_iff_mem.mp howner
    author := hactive
    counted := ⟨hseq, hbound⟩
    applied := happlied
    covered := hcovered
    hashed := hhash
    header := ⟨rfl, rfl, rfl, rfl⟩
    signed := ⟨preimage, hpre, hsigner _ _ _ hdesc hsig⟩
    terminal := ⟨terminal, hterminal, rfl⟩ }⟩

theorem applyOperations_nonempty (h : applyOperations prior sequence operations = .ok next) :
    operations.isEmpty = false := by
  simp only [applyOperations, eq_ok] at h
  obtain ⟨-, hnonempty, -⟩ := h
  exact hnonempty

theorem Prepared.replayRevision (h : Prepared prior timestampMs prepared sequence active next)
    (hindex : sequence = UInt64.ofNat (index + 1)) (priorTimestamp : UInt64) :
    replayRevision genesis index priorTimestamp prior prepared.revision =
      if timestampMs < priorTimestamp then .error .invalidAncestry else .ok prepared.state := by
  obtain ⟨hvault, hseq, hprev, htimestamp⟩ := h.header
  obtain ⟨preimage, hpre, hsigned⟩ := h.signed
  obtain ⟨hash, hhash, hstate⟩ := h.terminal
  have hnonempty := applyOperations_nonempty h.applied
  have hnext : revisionState prior sequence prepared.revision.operations = .ok next := by
    rw [revisionState, hnonempty]
    exact h.applied
  simp only [Policy.replayRevision, ← hindex]
  by_cases hlate : timestampMs < priorTimestamp
  · simp [hvault, hseq, hprev, htimestamp, hlate, rejectIf, bind, Except.bind]
  · have howner := Std.ExtTreeSet.contains_iff_mem.mpr h.owner
    simp [hvault, hseq, hprev, htimestamp, hlate, hnonempty, howner, h.author, hpre, hsigned, hnext,
      h.hashed, h.covered, hhash, hstate, rejectIf, orReject, requireSignature, bind, Except.bind, pure, Except.pure]

theorem prepared_revision_replays_iff (policy : ReplayedPolicy) (signer : PolicySigner) (hsigner : signer.Verifies)
    (timestampMs : UInt64) (operations : List PolicyOperationV1) (prepared : PreparedPolicyRevision)
    (h : prepareWithSigner policy.state signer timestampMs operations = .ok prepared) :
    replayPolicyWithWitnessPolicies (extendJournal policy.journal prepared.revision) policy.policies =
        .ok prepared.state ↔
      lastTimestampMs policy.journal.genesis.createdAtMs policy.journal.revisions ≤ timestampMs := by
  obtain ⟨-, sequence, active, next, hprep⟩ := prepareWithSigner_eq_ok hsigner h
  obtain ⟨catalog, hcat, hreplay⟩ := replayPolicy_eq_ok.mp policy.replayed
  obtain ⟨hseq, hbound⟩ := hprep.counted
  have hcount := checkedAdd_eq_some.mp hseq
  rw [policy.sequence_toNat] at hcount
  have hindex : sequence = UInt64.ofNat (policy.journal.revisions.length + 1) := by
    rw [← UInt64.ofNat_toNat (x := sequence), hcount]
    rfl
  have hone : (1 : UInt64).toNat = 1 := rfl
  have hroom : policy.journal.revisions.length < MAX_POLICY_REVISIONS := by omega
  have hextended : replayPolicyWithWitnessPolicies (extendJournal policy.journal prepared.revision) policy.policies =
      replayPolicyWithCatalog (extendJournal policy.journal prepared.revision) catalog := by
    rw [replayPolicyWithWitnessPolicies, hcat]
    rfl
  rw [hextended, replay_snoc hreplay hroom, hprep.replayRevision hindex, ← UInt64.not_lt]
  split
  next hearly => simp [hearly]
  next hlate => simp [hlate]

end Jury.Policy

namespace Jury.Policy.Sample

open Lib Protocol Vault Protocol.Sample

theorem signer_verifies (byte : UInt8) : (signer byte).Verifies := by
  rintro _ message _ ⟨⟩ ⟨⟩
  exact beq_self_eq_true (sign (verificationKey byte) message)

def joining : List PolicyOperationV1 := [.principalAdd (descriptor .approver 7) "approver" ZERO_DIGEST]

theorem prepared_revision_replays_iff_joining : ∃ prepared,
    prepareWithSigner policy.state (signer 1) 1003 joining = .ok prepared ∧
      replayPolicyWithWitnessPolicies (extendJournal policy.journal prepared.revision) policy.policies =
        .ok prepared.state := by
  have hprep : (prepareWithSigner policy.state (signer 1) 1003 joining).isOk = true := by decide +kernel
  have htime : lastTimestampMs policy.journal.genesis.createdAtMs policy.journal.revisions ≤ 1003 := by decide +kernel
  obtain ⟨prepared, hprep⟩ := exists_eq_ok_of_isOk hprep
  exact ⟨prepared, hprep,
    (prepared_revision_replays_iff policy (signer 1) (signer_verifies 1) 1003 joining prepared hprep).mpr htime⟩

theorem backdated_revision_refused : ∃ prepared,
    prepareWithSigner policy.state (signer 1) 1001 joining = .ok prepared ∧
      ∀ state, replayPolicyWithWitnessPolicies (extendJournal policy.journal prepared.revision) policy.policies ≠
        .ok state := by
  have hrefused : (do
      let prepared ← prepareWithSigner policy.state (signer 1) 1001 joining
      return (replayPolicyWithWitnessPolicies (extendJournal policy.journal prepared.revision)
        policy.policies).isOk : Except PolicyErrorKind Bool).toOption = some false := by decide +kernel
  cases hprep : prepareWithSigner policy.state (signer 1) 1001 joining with
  | error kind =>
    rw [hprep] at hrefused
    cases hrefused
  | ok prepared =>
    refine ⟨prepared, rfl, fun state hstate => ?_⟩
    rw [hprep] at hrefused
    have hfalse : (replayPolicyWithWitnessPolicies (extendJournal policy.journal prepared.revision)
      policy.policies).isOk = false := Option.some.inj hrefused
    rw [hstate] at hfalse
    cases hfalse

end Jury.Policy.Sample
