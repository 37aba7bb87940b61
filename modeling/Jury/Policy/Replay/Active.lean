import Jury.Policy.Replay.Catalog
import Jury.Policy.Replay.Quorum

-- The witness policies in use: those that the slots of live items name.
namespace Jury.Policy

open Lib Protocol Vault PolicyState List

def NamedPolicy (state : PolicyState) (digest : Digest32) : Prop :=
  ∃ (itemId : ItemId) (item : ItemPolicyState), state.items[itemId]? = some item ∧
    ∃ slot ∈ item.witnessedSlots, slot.witnessPolicyDigest = digest

structure ActivePolicy (state : PolicyState) (digest : Digest32) (policy : WitnessPolicy) : Prop where
  named : NamedPolicy state digest
  found : state.witnessPolicies[digest]? = some policy

-- What replay does not look at: that a policy in use names the hash before the revision it took effect
-- in, that two of them describe a common witness alike, and that no digest is the empty mark.
structure ActivePoliciesAgree (state : PolicyState) : Prop where
  hashes : ∀ digest policy, ActivePolicy state digest policy →
    state.predecessorHashForSequence policy.vaultPolicySequence = some policy.vaultPolicyHash
  members : ∀ digest policy, ActivePolicy state digest policy → ∀ digest' policy', ActivePolicy state digest' policy' →
    ∀ witness ∈ policy.activeWitnesses, ∀ witness' ∈ policy'.activeWitnesses,
      witness.witnessId = witness'.witnessId → witness = witness'
  digests : ∀ digest policy, ActivePolicy state digest policy → digest ≠ ZERO_DIGEST

variable {state : PolicyState}

theorem mem_activePolicyDigests :
    digest ∈ state.activePolicyDigests ↔ NamedPolicy state digest := by
  unfold activePolicyDigests NamedPolicy
  rw [Std.ExtTreeSet.mem_toList, Std.ExtTreeSet.mem_ofList, contains_iff_mem, mem_flatMap]
  constructor
  · rintro ⟨item, hvalue, hdigest⟩
    obtain ⟨itemId, hitem⟩ := mem_values.mp hvalue
    obtain ⟨slot, hslot, hdigest⟩ := mem_map.mp hdigest
    exact ⟨itemId, item, hitem, slot, hslot, hdigest⟩
  · rintro ⟨itemId, item, hitem, slot, hslot, hdigest⟩
    exact ⟨item, mem_values.mpr ⟨itemId, hitem⟩, mem_map.mpr ⟨slot, hslot, hdigest⟩⟩

theorem activePolicyDigests_sorted (state : PolicyState) : strictlySortedUnique state.activePolicyDigests = true := by
  have hordered : state.activePolicyDigests.Pairwise fun a b => compare a b = .lt := Std.ExtTreeSet.ordered_toList
  exact sortedByKey_iff_pairwise.mpr hordered

theorem length_activePolicyDigests_le (hpairs : WitnessedPairs state) :
    state.activePolicyDigests.length ≤ 2 * state.items.size := by
  have hslots : ∀ item ∈ state.items.values,
      (((item.witnessedState.map (·.slots)).getD []).map (·.witnessPolicyDigest)).length ≤ 2 := by
    intro item hvalue
    obtain ⟨itemId, hitem⟩ := mem_values.mp hvalue
    cases hstate : item.witnessedState with
    | none => simp
    | some witnessed =>
      rw [length_map]
      exact le_of_eq (hpairs itemId item hitem witnessed hstate)
  have hvalues : state.items.values.length = state.items.size := by
    rw [values_eq_map_toList, length_map, Std.ExtTreeMap.length_toList]
  calc state.activePolicyDigests.length
      ≤ (state.items.values.flatMap fun item =>
          ((item.witnessedState.map (·.slots)).getD []).map (·.witnessPolicyDigest)).length := by
        rw [activePolicyDigests, Std.ExtTreeSet.length_toList]
        exact Std.ExtTreeSet.size_ofList_le
    _ ≤ state.items.values.length * 2 := by
        rw [length_flatMap]
        have hsum := sum_le_card_nsmul (state.items.values.map fun item =>
          (((item.witnessedState.map (·.slots)).getD []).map (·.witnessPolicyDigest)).length) 2 (by simpa using hslots)
        simpa using hsum
    _ = 2 * state.items.size := by rw [hvalues, Nat.mul_comm]

theorem scanWitness_returns_iff {descriptors : List WitnessPolicyDescriptor} :
    (∃ out, descriptors.foldlM scanWitness witnesses = .ok out) ↔
      (∀ a ∈ descriptors, ∀ known, witnesses[a.witnessId]? = some known → known = a) ∧
      ∀ a ∈ descriptors, ∀ b ∈ descriptors, a.witnessId = b.witnessId → a = b := by
  induction descriptors generalizing witnesses with
  | nil => simp [pure, Except.pure]
  | cons first rest ih =>
    have hround : (∃ out, (first :: rest).foldlM scanWitness witnesses = .ok out) ↔
        (∀ known, witnesses[first.witnessId]? = some known → known = first) ∧
        ∃ out, rest.foldlM scanWitness (witnesses.insert first.witnessId first) = .ok out := by
      simp only [foldlM_cons_eq_ok, scanWitness, eq_ok]
      constructor
      · rintro ⟨out, _, ⟨_, hknown, rfl⟩, hrest⟩
        refine ⟨fun known hfound => ?_, out, hrest⟩
        simpa [hfound] using hknown
      · rintro ⟨hknown, out, hrest⟩
        refine ⟨out, _, ⟨(), ?_, rfl⟩, hrest⟩
        cases hfound : witnesses[first.witnessId]? with
        | none => rfl
        | some known => simp [hknown known hfound]
    rw [hround, ih]
    constructor
    · rintro ⟨hfirst, hrest, hpairs⟩
      have hsame : ∀ a ∈ rest, a.witnessId = first.witnessId → a = first := by
        intro a ha heq
        refine (hrest a ha first ?_).symm
        rw [heq, Std.ExtTreeMap.getElem?_insert_self]
      constructor
      · intro a ha known hknown
        rcases mem_cons.mp ha with rfl | ha
        · exact hfirst known hknown
        · by_cases heq : a.witnessId = first.witnessId
          · rw [hsame a ha heq] at hknown ⊢
            exact hfirst known hknown
          · refine hrest a ha known ?_
            rwa [getElem?_insert_ne _ _ heq]
      · intro a ha b hb heq
        rcases mem_cons.mp ha with hafirst | harest <;> rcases mem_cons.mp hb with hbfirst | hbrest
        · rw [hafirst, hbfirst]
        · rw [hafirst] at heq ⊢
          exact (hsame b hbrest heq.symm).symm
        · rw [hbfirst] at heq ⊢
          exact hsame a harest heq
        · exact hpairs a harest b hbrest heq
    · rintro ⟨hknown, hpairs⟩
      refine ⟨hknown first mem_cons_self, fun a ha known hfound => ?_, fun a ha b hb =>
        hpairs a (mem_cons_of_mem _ ha) b (mem_cons_of_mem _ hb)⟩
      obtain ⟨heq, rfl⟩ | ⟨-, hfound⟩ := getElem?_insert_eq_some.mp hfound
      · exact hpairs first mem_cons_self a (mem_cons_of_mem _ ha) heq.symm
      · exact hknown a (mem_cons_of_mem _ ha) known hfound

variable [Crypto]

-- The items of an accepted state are none, or all of them were checked at the end of its last revision.
theorem replay_checked {journal : PolicyJournalV1} (h : replayPolicyWithCatalog journal catalog = .ok state) :
    state.items = ∅ ∨ ∃ checked, validateCompleteState checked = .ok () ∧ checked.items.size ≤ MAX_ITEMS ∧
      ∃ terminal hashes, state = { checked with terminalRevisionHash := terminal, revisionHashes := hashes } := by
  have hgen : ∀ journal state, journal.revisions = [] → replayPolicyWithCatalog journal catalog = .ok state →
      state.items = ∅ := by
    intro journal state hnil hreplay
    simp only [replayPolicyWithCatalog, hnil, replayRevisions, bind_eq_ok, Except.ok.injEq] at hreplay
    obtain ⟨start, hstart, rfl⟩ := hreplay
    obtain ⟨-, fingerprint, -, rfl⟩ := startReplay_eq_ok hstart
    rfl
  rcases eq_nil_or_concat journal.revisions with hnil | ⟨before, revision, hrevs⟩
  · exact .inl (hgen journal state hnil h)
  · obtain ⟨prior, next, timestamp, hprior, hnext, hstep⟩ := replay_split h (by simpa using hrevs)
    obtain rfl : next = state := by
      have hjournal : ({ journal with revisions := before ++ [revision] } : PolicyJournalV1) = journal := by
        rw [← concat_eq_append, ← hrevs]
      rw [hjournal, h] at hnext
      exact (Except.ok.inj hnext).symm
    simp only [replayRevision, revisionState, eq_ok, Bool.or_eq_false_iff] at hstep
    obtain ⟨-, ⟨-, hempty⟩, -, -, -, -, -, -, -, -, reached, hreach, -, -, -, -, -, -, terminal, -, rfl⟩ := hstep
    split at hreach
    · -- Only the first revision may be empty, and there are no items before it.
      rename_i hnone
      left
      have hfirst : before = [] := by
        simp only [hnone, Bool.true_and, Bool.not_eq_false', holds, length_eq_zero_iff]
          at hempty
        exact hempty.1
      obtain rfl := Except.ok.inj hreach
      exact hgen { journal with revisions := before } prior hfirst hprior
    · right
      simp only [applyOperations, eq_ok] at hreach
      obtain ⟨-, -, -, -, checked, -, _, hcomp, -, hsize, rfl⟩ := hreach
      exact ⟨checked, hcomp, by simpa using hsize, terminal, _, rfl⟩

theorem policyBound_of_complete (h : validateCompleteState state = .ok ()) (hnamed : NamedPolicy state digest) :
    ∃ policy, ActivePolicy state digest policy ∧ policy.vaultPolicySequence ≤ state.sequence := by
  have hnamed' := hnamed
  obtain ⟨itemId, item, hitem, slot, hslot, rfl⟩ := hnamed
  obtain ⟨policy, hbound, hseq⟩ := (item_of_complete h hitem).membersBound slot hslot
  exact ⟨policy, ⟨hnamed', hbound.bound⟩, hseq⟩

theorem ReplayedPolicy.activePolicy (policy : ReplayedPolicy) (hnamed : NamedPolicy policy.state digest) :
    ∃ witnessPolicy, ActivePolicy policy.state digest witnessPolicy ∧ witnessPolicy.digest = .ok digest ∧
      witnessPolicy.vaultPolicySequence ≤ policy.state.sequence := by
  obtain ⟨catalog, -, hreplay⟩ := replayPolicy_eq_ok.mp policy.replayed
  have hbound : ∃ witnessPolicy, ActivePolicy policy.state digest witnessPolicy ∧
      witnessPolicy.vaultPolicySequence ≤ policy.state.sequence := by
    rcases replay_checked hreplay with hnone | ⟨checked, hcomp, -, terminal, hashes, hstate⟩
    · obtain ⟨itemId, item, hitem, -⟩ := hnamed
      rw [hnone] at hitem
      simp at hitem
    · rw [hstate] at hnamed ⊢
      obtain ⟨witnessPolicy, hactive, hseq⟩ := policyBound_of_complete hcomp hnamed
      exact ⟨witnessPolicy, ⟨hnamed, hactive.found⟩, hseq⟩
  obtain ⟨witnessPolicy, hactive, hseq⟩ := hbound
  exact ⟨witnessPolicy, hactive, (policy.catalogued hactive.found).digest, hseq⟩

theorem activeWitnessPolicyEntry_eq_ok (h : state.activeWitnessPolicyEntry digest = .ok entry) :
    entry.1 = digest ∧ state.witnessPolicies[digest]? = some entry.2 ∧
      state.predecessorHashForSequence entry.2.vaultPolicySequence = some entry.2.vaultPolicyHash := by
  simp only [activeWitnessPolicyEntry, eq_ok, passed] at h
  obtain ⟨policy, hfound, -, ⟨-, hhash⟩, -, -, -, -, rfl⟩ := h
  exact ⟨rfl, hfound, hhash⟩

theorem activeWitnessPolicyEntry_returns (hfound : state.witnessPolicies[digest]? = some policy)
    (hdigest : policy.digest = .ok digest) (hseq : policy.vaultPolicySequence ≤ state.sequence)
    (hhash : state.predecessorHashForSequence policy.vaultPolicySequence = some policy.vaultPolicyHash) :
    ∃ entry, state.activeWitnessPolicyEntry digest = .ok entry := by
  refine ⟨(digest, policy), ?_⟩
  simp only [activeWitnessPolicyEntry, eq_ok, passed]
  exact ⟨policy, hfound, (), ⟨UInt64.not_lt.mpr hseq, hhash⟩, digest, hdigest, (), rfl, rfl⟩

theorem activeWitnessPolicyEntries_eq_ok (h : state.activeWitnessPolicyEntries = .ok entries) :
    entries.map (·.1) = state.activePolicyDigests ∧
      ∀ digest policy, ActivePolicy state digest policy → (digest, policy) ∈ entries := by
  simp only [activeWitnessPolicyEntries, eq_ok] at h
  obtain ⟨listed, hents, -, -, heq⟩ := h
  subst heq
  rw [mapM_eq_ok] at hents
  constructor
  · have heq : List.Forall₂ (· = ·) state.activePolicyDigests (listed.map (·.1)) := by
      rw [forall₂_map_right_iff]
      exact hents.imp fun _ _ hentry => (activeWitnessPolicyEntry_eq_ok hentry).1.symm
    exact (forall₂_eq_eq_eq ▸ heq).symm
  · intro digest policy hactive
    obtain ⟨entry, hmem, hentry⟩ := forall₂_mem_left hents (mem_activePolicyDigests.mpr hactive.named)
    obtain ⟨rfl, hfound, -⟩ := activeWitnessPolicyEntry_eq_ok hentry
    obtain rfl := some_unique hfound hactive.found
    exact hmem

theorem ReplayedPolicy.length_activePolicyDigests_le (policy : ReplayedPolicy) :
    policy.state.activePolicyDigests.length ≤ 2 * MAX_ITEMS := by
  obtain ⟨catalog, -, hreplay⟩ := replayPolicy_eq_ok.mp policy.replayed
  have hitems : policy.state.items.size ≤ MAX_ITEMS := by
    rcases replay_checked hreplay with hnone | ⟨checked, -, hsize, terminal, hashes, hstate⟩
    · rw [hnone]
      exact Nat.zero_le _
    · rw [hstate]
      exact hsize
  have hlen := Jury.Policy.length_activePolicyDigests_le (replay_witnessedPairs hreplay)
  omega

-- The set of policies in use can be computed exactly when they agree with the history and each other.
theorem ReplayedPolicy.activeSet_returns_iff (policy : ReplayedPolicy) :
    (∃ digest, policy.state.activeWitnessPolicySetDigest = .ok digest) ↔ ActivePoliciesAgree policy.state := by
  constructor
  · rintro ⟨digest, h⟩
    simp only [activeWitnessPolicySetDigest, eq_ok] at h
    obtain ⟨entries, hents, hset⟩ := h
    obtain ⟨hdigests, hlisted⟩ := activeWitnessPolicyEntries_eq_ok hents
    simp only [activeWitnessPolicyEntries, eq_ok] at hents
    obtain ⟨_, hmap, out, hscan, rfl⟩ := hents
    constructor
    · intro digest witnessPolicy hactive
      obtain ⟨_, -, hentry⟩ := forall₂_mem_right (mapM_eq_ok.mp hmap) (hlisted digest witnessPolicy hactive)
      exact (activeWitnessPolicyEntry_eq_ok hentry).2.2
    · intro digest witnessPolicy hactive digest' witnessPolicy' hactive' witness hwitness witness' hwitness' heq
      have hall := (scanWitness_returns_iff.mp ⟨out, hscan⟩).2
      exact hall witness (mem_flatMap.mpr ⟨_, hlisted digest witnessPolicy hactive, hwitness⟩)
        witness' (mem_flatMap.mpr ⟨_, hlisted digest' witnessPolicy' hactive', hwitness'⟩) heq
    · rintro digest witnessPolicy hactive rfl
      simp only [Witness.activeWitnessPolicySetDigest, eq_ok, Bool.or_eq_false_iff] at hset
      obtain ⟨-, ⟨⟨-, hnonzero⟩, -⟩, -⟩ := hset
      rw [hdigests, any_eq_false] at hnonzero
      exact hnonzero _ (mem_activePolicyDigests.mpr hactive.named) (beq_self_eq_true _)
  · intro hagree
    obtain ⟨entries, hmap⟩ : ∃ entries, policy.state.activePolicyDigests.mapM policy.state.activeWitnessPolicyEntry =
        .ok entries := by
      apply exists_mapM_eq_ok
      intro digest hdigest
      obtain ⟨witnessPolicy, hactive, hown, hseq⟩ := policy.activePolicy (mem_activePolicyDigests.mp hdigest)
      exact activeWitnessPolicyEntry_returns hactive.found hown hseq (hagree.hashes _ _ hactive)
    have hactive : ∀ entry ∈ entries, ActivePolicy policy.state entry.1 entry.2 := by
      intro entry hentry
      obtain ⟨digest, hdigest, hreturned⟩ := forall₂_mem_right (mapM_eq_ok.mp hmap) hentry
      obtain ⟨rfl, hfound, -⟩ := activeWitnessPolicyEntry_eq_ok hreturned
      exact ⟨mem_activePolicyDigests.mp hdigest, hfound⟩
    obtain ⟨out, hscan⟩ : ∃ out, (entries.flatMap fun entry => entry.2.activeWitnesses).foldlM
        scanWitness ∅ = .ok out := by
      rw [scanWitness_returns_iff]
      refine ⟨by simp, fun witness hwitness witness' hwitness' heq => ?_⟩
      obtain ⟨entry, hentry, hwitness⟩ := mem_flatMap.mp hwitness
      obtain ⟨entry', hentry', hwitness'⟩ := mem_flatMap.mp hwitness'
      exact hagree.members _ _ (hactive entry hentry) _ _ (hactive entry' hentry') witness hwitness witness' hwitness' heq
    have hents : policy.state.activeWitnessPolicyEntries = .ok entries := by
      simp only [activeWitnessPolicyEntries, eq_ok]
      exact ⟨entries, hmap, out, hscan, rfl⟩
    have hdigests := (activeWitnessPolicyEntries_eq_ok hents).1
    have hlen : policy.state.activePolicyDigests.length ≤ 2 * MAX_ITEMS := policy.length_activePolicyDigests_le
    have hbound : 2 * MAX_ITEMS ≤ Witness.MAX_CURRENT_SLOTS := by decide
    have hnonzero : (policy.state.activePolicyDigests.any (· == ZERO_DIGEST)) = false := by
      rw [any_eq_false]
      intro digest hdigest hzero
      obtain ⟨witnessPolicy, hactive, -⟩ := policy.activePolicy (mem_activePolicyDigests.mp hdigest)
      exact hagree.digests digest witnessPolicy hactive (beq_iff_eq.mp hzero)
    obtain ⟨bytes, hbytes⟩ : ∃ bytes, listFixed policy.state.activePolicyDigests (·.bytes) = some bytes := by
      have hfits : policy.state.activePolicyDigests.length < 2 ^ 32 := by
        have hsmall : 2 * MAX_ITEMS < 2 ^ 32 := by decide
        omega
      exact ⟨_, by simp only [listFixed, lengthBe, if_pos hfits]; rfl⟩
    simp only [activeWitnessPolicySetDigest, eq_ok, hents, Witness.activeWitnessPolicySetDigest]
    refine ⟨_, entries, rfl, (), ?_, bytes, hdigests ▸ hbytes, rfl⟩
    rw [hdigests, activePolicyDigests_sorted, hnonzero]
    simp only [Bool.not_true, Bool.or_false, decide_eq_false_iff_not, not_lt]
    omega

end Jury.Policy
