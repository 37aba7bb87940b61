import Jury.Policy.Replay.Rotation

-- Results about whole journals: the chain of revision hashes, and the completeness of revocation.
namespace Jury.Policy

open Lib Protocol Vault

-- The part of a policy state that operations never touch: which vault it is, how far its journal
-- has been replayed, and the catalog it is replayed under.
structure Lineage where
  suite : UInt16
  vaultId : VaultId
  genesisFingerprint : Digest32
  sequence : UInt64
  terminalRevisionHash : Digest32
  revisionHashes : List Digest32
  witnessPolicies : BTreeMap Digest32 WitnessPolicy

def PolicyState.lineage (state : PolicyState) : Lineage :=
  { suite := state.suite
    vaultId := state.vaultId
    genesisFingerprint := state.genesisFingerprint
    sequence := state.sequence
    terminalRevisionHash := state.terminalRevisionHash
    revisionHashes := state.revisionHashes
    witnessPolicies := state.witnessPolicies }

variable {next state : PolicyState}
variable {sequence : UInt64}
variable {revision : SignedPolicyRevisionV1} {before revisions : List SignedPolicyRevisionV1}
variable {journal : PolicyJournalV1}

variable [Crypto]

theorem mutate_lineage (h : mutate draft operation = .ok out) : out.next.lineage = draft.next.lineage := by
  unfold PolicyState.lineage
  cases operation <;>
    simp only [mutate, addPrincipal, changeLabel, removePrincipal, grantOwner, revokeOwner, createItem, renameItem,
      deleteItem, changeRole, replacePrincipal, eq_ok] at h <;>
    aesop

-- An operation is well formed in its vault and then applied; only the keys it is recorded under come first.
theorem applyOperation_eq_ok (h : applyOperation prior sequence draft operation = .ok out) :
    validateOperation operation sequence prior.vaultId prior.genesisFingerprint = .ok () ∧
      ∃ mutationKeys, mutate { draft with mutationKeys } operation = .ok out := by
  simp only [applyOperation, eq_ok] at h
  obtain ⟨_, -, _, hvalid, _, -, hmutate⟩ := h
  exact ⟨hvalid, _, hmutate⟩

theorem applyOperation_lineage (h : applyOperation prior sequence draft operation = .ok out) :
    out.next.lineage = draft.next.lineage := by
  obtain ⟨-, mutationKeys, hmutate⟩ := applyOperation_eq_ok h
  have hlineage := mutate_lineage hmutate
  exact hlineage

theorem applyOperations_eq_ok (h : applyOperations prior sequence operations = .ok next) :
    ∃ draft,
      operations.foldlM (applyOperation prior sequence)
        { next := { prior with sequence }, readerRotations := ∅, slotRotations := ∅, mutationKeys := [] } = .ok draft ∧
      applyRotations prior draft = .ok next ∧ validateCompleteState next = .ok () := by
  simp only [applyOperations, eq_ok] at h
  obtain ⟨_, -, draft, hdraft, out, hout, _, hcomp, _, -, rfl⟩ := h
  exact ⟨draft, hdraft, hout, hcomp⟩

-- A revision without operations moves the sequence on and nothing else.
theorem revisionState_cases (h : revisionState state sequence operations = .ok next) :
    (operations = [] ∧ next = { state with sequence }) ∨ applyOperations state sequence operations = .ok next := by
  unfold revisionState at h
  split at h
  next hempty => exact .inl ⟨List.isEmpty_iff.mp hempty, (Except.ok.inj h).symm⟩
  next => exact .inr h

theorem revisionState_lineage (h : revisionState state sequence operations = .ok next) :
    next.lineage = { state.lineage with sequence } := by
  rcases revisionState_cases h with ⟨-, rfl⟩ | h
  · rfl
  · obtain ⟨draft, hdraft, hrot, -⟩ := applyOperations_eq_ok h
    obtain ⟨items, rfl, -⟩ := applyRotations_frame hrot
    exact foldlM_preserves (P := fun d => d.next.lineage = { state.lineage with sequence })
      (fun _ _ _ _ hb hc => (applyOperation_lineage hc).trans hb) rfl hdraft

structure RevisionAccepted (genesis : PolicyGenesisV1) (index : Nat) (state : PolicyState)
    (revision : SignedPolicyRevisionV1) (out : PolicyState) : Prop where
  previous : revision.previousRevisionHash = state.terminalRevisionHash
  author : revision.authorPrincipalId ∈ state.owners
  signed : ∃ author preimage, state.principals[revision.authorPrincipalId]? = some author ∧
    revision.signaturePreimage = some preimage ∧
    verifyBytes author.descriptor.verificationPublicKey preimage revision.signature = true
  result : ∃ next terminal, revisionState state (UInt64.ofNat (index + 1)) revision.operations = .ok next ∧
    revision.recomputedHash = some terminal ∧
    out = { next with
      terminalRevisionHash := terminal
      revisionHashes := next.revisionHashes ++ [terminal] }

theorem replayRevision_accepted {index : Nat} {priorTimestamp : UInt64} {out : PolicyState}
    (h : replayRevision genesis index priorTimestamp state revision = .ok out) :
    RevisionAccepted genesis index state revision out := by
  simp only [replayRevision, requireSignature, eq_ok] at h
  obtain ⟨-, hheader, -, howner, author, hauthor, preimage, hpre, -, hsigned, next, hnext, -, -, -, -, -, -,
    terminal, hterminal, rfl⟩ := h
  simp only [passed] at hheader
  exact {
    previous := hheader.1.1.2
    author := by simpa using howner
    signed := ⟨author, preimage, hauthor, hpre, by simpa using hsigned⟩
    result := ⟨next, terminal, hnext, hterminal, rfl⟩ }

-- Replay stops between any two revisions in a state that is itself the replay of a shorter journal.
theorem replayRevisions_split
    (h : replayRevisions genesis index timestamp state (before ++ revision :: after) = .ok final) :
    ∃ prior next at', replayRevisions genesis index timestamp state before = .ok prior ∧
      replayRevision genesis (index + before.length) at' prior revision = .ok next ∧
      replayRevisions genesis index timestamp state (before ++ [revision]) = .ok next := by
  induction before generalizing index timestamp state with
  | nil =>
    simp only [List.nil_append, replayRevisions, bind_eq_ok] at h
    obtain ⟨next, hnext, -⟩ := h
    exact ⟨state, next, timestamp, rfl, hnext, by simp [replayRevisions, hnext]⟩
  | cons first before ih =>
    simp only [List.cons_append, replayRevisions, bind_eq_ok] at h
    obtain ⟨reached, hreach, hrest⟩ := h
    obtain ⟨prior, next, at', hprior, hnext, hboth⟩ := ih hrest
    refine ⟨prior, next, at', by simp [replayRevisions, hreach, hprior], ?_, ?_⟩
    · rwa [List.length_cons, ← Nat.add_assoc, Nat.add_right_comm]
    · simp [replayRevisions, hreach, hboth]

-- The hashes that a state has recorded are those of the revisions it was replayed from, and each
-- revision names the hash recorded before its own.
structure Journaled (revisions : List SignedPolicyRevisionV1) (state : PolicyState) : Prop where
  length : state.revisionHashes.length = revisions.length + 1
  terminal : state.revisionHashes[revisions.length]? = some state.terminalRevisionHash
  sequence : state.sequence = UInt64.ofNat revisions.length
  linked : ∀ k revision, revisions[k]? = some revision →
    state.revisionHashes[k]? = some revision.previousRevisionHash ∧
    state.revisionHashes[k + 1]? = revision.recomputedHash

theorem replayRevision_journaled (hstate : Journaled revisions state)
    (h : replayRevision genesis revisions.length timestamp state revision = .ok next) :
    Journaled (revisions ++ [revision]) next := by
  have hacc := replayRevision_accepted h
  obtain ⟨reached, terminal, hreach, hterminal, rfl⟩ := hacc.result
  have hlineage := revisionState_lineage hreach
  have hhashes : reached.revisionHashes = state.revisionHashes := congrArg Lineage.revisionHashes hlineage
  have hseq : reached.sequence = UInt64.ofNat (revisions.length + 1) := congrArg Lineage.sequence hlineage
  constructor
  · simp [hhashes, hstate.length]
  · simp [hhashes, hstate.length]
  · simpa using hseq
  · intro k r hk
    simp only [hhashes]
    rcases Nat.lt_or_ge k revisions.length with hlt | hge
    · rw [List.getElem?_append_left hlt] at hk
      rw [List.getElem?_append_left (by rw [hstate.length]; omega),
        List.getElem?_append_left (by rw [hstate.length]; omega)]
      exact hstate.linked k r hk
    · -- The revision just accepted names the terminal hash before it.
      obtain ⟨rfl, rfl⟩ : k = revisions.length ∧ revision = r := by
        have hbound := (List.getElem?_eq_some_iff.mp hk).1
        simp only [List.length_append, List.length_singleton] at hbound
        obtain rfl : k = revisions.length := by omega
        simpa using hk
      rw [List.getElem?_append_left (by rw [hstate.length]; omega),
        List.getElem?_append_right (by rw [hstate.length]), hstate.length, hstate.terminal, hacc.previous]
      simp [hterminal]

theorem startReplay_eq_ok (h : startReplay journal catalog = .ok state) :
    journal.revisions.length ≤ MAX_POLICY_REVISIONS ∧
      ∃ fingerprint, journal.genesis.recomputedFingerprint = some fingerprint ∧
        state = genesisState journal.genesis fingerprint catalog := by
  simp only [startReplay, requireSignature, eq_ok, passed, not_lt] at h
  obtain ⟨-, hheader, -, -, -, -, -, -, fingerprint, hfp, rfl⟩ := h
  exact ⟨hheader.2, fingerprint, hfp, rfl⟩

theorem startReplay_prefix (h : startReplay journal catalog = .ok state)
    (hlen : revisions.length ≤ journal.revisions.length) :
    startReplay { journal with revisions } catalog = .ok state := by
  have hbound : ¬ revisions.length > MAX_POLICY_REVISIONS := by
    have := (startReplay_eq_ok h).1
    omega
  have hjournal : ¬ journal.revisions.length > MAX_POLICY_REVISIONS := by
    have := (startReplay_eq_ok h).1
    omega
  simpa only [startReplay, hbound, hjournal] using h

theorem replay_split (h : replayPolicyWithCatalog journal catalog = .ok final)
    (hrevs : journal.revisions = before ++ revision :: after) :
    ∃ prior next timestamp,
      replayPolicyWithCatalog { journal with revisions := before } catalog = .ok prior ∧
      replayPolicyWithCatalog { journal with revisions := before ++ [revision] } catalog = .ok next ∧
      replayRevision journal.genesis before.length timestamp prior revision = .ok next := by
  simp only [replayPolicyWithCatalog, bind_eq_ok] at h ⊢
  obtain ⟨start, hstart, hreplay⟩ := h
  rw [hrevs] at hreplay
  obtain ⟨prior, next, timestamp, hprior, hnext, hboth⟩ := replayRevisions_split hreplay
  rw [Nat.zero_add] at hnext
  exact ⟨prior, next, timestamp, ⟨start, startReplay_prefix hstart (by simp [hrevs]), hprior⟩,
    ⟨start, startReplay_prefix hstart (by simp [hrevs]), hboth⟩, hnext⟩

-- The rule for what holds of a journal and its state: it holds of the genesis alone, and a revision
-- carries it on.
theorem replay_induction {P : List SignedPolicyRevisionV1 → PolicyState → Prop}
    (hstart : ∀ fingerprint, startReplay { journal with revisions := [] } catalog =
        .ok (genesisState journal.genesis fingerprint catalog) → P [] (genesisState journal.genesis fingerprint catalog))
    (hstep : ∀ {before revision after timestamp prior next}, journal.revisions = before ++ revision :: after →
      replayPolicyWithCatalog { journal with revisions := before } catalog = .ok prior → P before prior →
      replayRevision journal.genesis before.length timestamp prior revision = .ok next → P (before ++ [revision]) next)
    (h : replayPolicyWithCatalog journal catalog = .ok state) : P journal.revisions state := by
  have hreach : ∀ revisions rest reached, journal.revisions = revisions ++ rest →
      replayPolicyWithCatalog { journal with revisions } catalog = .ok reached → P revisions reached := by
    intro revisions
    induction revisions using List.reverseRecOn with
    | nil =>
      intro rest reached _ hreplay
      simp only [replayPolicyWithCatalog, bind_eq_ok] at hreplay
      obtain ⟨start, hstarted, hdone⟩ := hreplay
      obtain rfl := Except.ok.inj hdone
      obtain ⟨-, fingerprint, -, rfl⟩ := startReplay_eq_ok hstarted
      exact hstart fingerprint hstarted
    | append_singleton before revision ih =>
      intro rest reached hrevs hreplay
      have hsplit : journal.revisions = before ++ revision :: rest := by simpa using hrevs
      obtain ⟨prior, next, timestamp, hprior, hnext, hround⟩ := replay_split h hsplit
      obtain rfl := ok_unique hnext hreplay
      exact hstep hsplit hprior (ih _ prior hsplit hprior) hround
  exact hreach journal.revisions [] state (by simp) h

theorem replay_journaled (h : replayPolicyWithCatalog journal catalog = .ok state) :
    Journaled journal.revisions state := by
  refine replay_induction (P := Journaled) ?_ (fun _ _ hprior hnext => replayRevision_journaled hprior hnext) h
  exact fun _ _ => ⟨rfl, rfl, rfl, fun k revision hk => by simp at hk⟩

theorem replay_suite (h : replayPolicyWithCatalog journal catalog = .ok state) :
    state.suite = journal.genesis.suite := by
  refine replay_induction (P := fun _ state => state.suite = journal.genesis.suite) (fun _ _ => rfl) ?_ h
  intro before revision after timestamp prior next _ _ hprior hnext
  obtain ⟨reached, terminal, hreach, -, rfl⟩ := (replayRevision_accepted hnext).result
  have hsuite : reached.suite = prior.suite := congrArg Lineage.suite (revisionState_lineage hreach)
  exact hsuite.trans hprior

theorem replayPolicy_eq_ok {journal : PolicyJournalV1} : replayPolicyWithWitnessPolicies journal policies = .ok state ↔
    ∃ catalog, witnessPolicyCatalog policies = .ok catalog ∧ replayPolicyWithCatalog journal catalog = .ok state :=
  bind_eq_ok

theorem replayed_suite (policy : ReplayedPolicy) : ∃ suite, VaultSuite.fromId policy.state.suite = some suite := by
  obtain ⟨catalog, -, hreplay⟩ := replayPolicy_eq_ok.mp policy.replayed
  rw [replay_suite hreplay]
  simp only [replayPolicyWithCatalog, startReplay, eq_ok, passed, Bool.or_eq_true, beq_iff_eq] at hreplay
  obtain ⟨_, ⟨_, ⟨⟨⟨-, hsuite⟩, -⟩, -⟩, -⟩, -⟩ := hreplay
  obtain h | h := hsuite <;> rw [h]
  · exact ⟨.suite1, rfl⟩
  · exact ⟨.suite2, rfl⟩

theorem ReplayedPolicy.journaled (policy : ReplayedPolicy) : Journaled policy.journal.revisions policy.state := by
  obtain ⟨catalog, -, hreplay⟩ := replayPolicy_eq_ok.mp policy.replayed
  exact replay_journaled hreplay

theorem ReplayedPolicy.sequence_toNat (policy : ReplayedPolicy) :
    policy.state.sequence.toNat = policy.journal.revisions.length := by
  have hreplayed := policy.replayed
  simp only [replayPolicyWithWitnessPolicies, replayPolicyWithCatalog, bind_eq_ok] at hreplayed
  obtain ⟨_, -, start, hstart, -⟩ := hreplayed
  have hlen := (startReplay_eq_ok hstart).1
  have hmaximum : MAX_POLICY_REVISIONS < 2 ^ 64 := by decide
  rw [policy.journaled.sequence, UInt64.toNat_ofNat', Nat.mod_eq_of_lt (by omega)]

theorem ReplayedPolicy.last_revision (policy : ReplayedPolicy) (h : policy.journal.revisions = before ++ [revision]) :
    ∃ prior, replayPolicyWithWitnessPolicies { policy.journal with revisions := before } policy.policies = .ok prior ∧
      revision.previousRevisionHash = prior.terminalRevisionHash ∧ revision.authorPrincipalId ∈ prior.owners := by
  have hreplayed := policy.replayed
  simp only [replayPolicyWithWitnessPolicies, bind_eq_ok] at hreplayed ⊢
  obtain ⟨catalog, hcat, hreplay⟩ := hreplayed
  obtain ⟨prior, next, _, hprior, -, hrev⟩ := replay_split hreplay h
  have hacc := replayRevision_accepted hrev
  exact ⟨prior, ⟨catalog, hcat, hprior⟩, hacc.previous, hacc.author⟩

end Jury.Policy
