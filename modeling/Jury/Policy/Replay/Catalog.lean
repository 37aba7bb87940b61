import Jury.Policy.Replay.Theorems

-- The catalog of witness policies that a journal is replayed under: every policy in it is valid and
-- stands under its own digest, and replay leaves it alone.
namespace Jury.Policy

open Lib Protocol Vault

theorem OperationRule.validate_eq_ok {rule : OperationRule} (h : rule.validate = .ok u) :
    rule.eligibleApproverIds.Nodup ∧ rule.approvalThreshold.toNat ≤ rule.eligibleApproverIds.length := by
  simp only [OperationRule.validate, rejectIf_eq_ok, passed, gt_iff_lt, not_lt, and_assoc] at h
  obtain ⟨-, hsorted, hthr, -⟩ := h
  have hnodup := nodup_of_sortedByKey hsorted
  rw [List.map_id] at hnodup
  exact ⟨hnodup, hthr⟩

structure RuleOf (state : PolicyState) (operation : WitnessOperation) (rule : WitnessAccessRule)
    (witnessPolicy : WitnessPolicy) (source : OperationRule) : Prop where
  policy : state.witnessPolicies[rule.policyDigest]? = some witnessPolicy
  listed : source ∈ witnessPolicy.operationRules
  operation : source.operation = operation
  eligible : rule.eligibleApproverIds = source.eligibleApproverIds
  threshold : rule.approvalThreshold = source.approvalThreshold
  witnesses : rule.witnessThreshold = witnessPolicy.witnessThreshold

variable {state : PolicyState} {operation : WitnessOperation} {policy : WitnessPolicy}

theorem witnessAccessRule_eq_ok (h : state.witnessAccessRule itemId operation = .ok rule) :
    ∃ witnessPolicy source, RuleOf state operation rule witnessPolicy source := by
  simp only [PolicyState.witnessAccessRule, PolicyState.witnessedPolicy, eq_ok] at h
  obtain ⟨_, ⟨_, -, authority, -, witnessPolicy, hpolicy, rfl⟩, source, hsource, rfl⟩ := h
  have hop := List.find?_some hsource
  rw [beq_iff_eq] at hop
  exact ⟨witnessPolicy, source, hpolicy, List.mem_of_find?_eq_some hsource, hop, rfl, rfl, rfl⟩

variable [Crypto] {policies reordered : List WitnessPolicy} {scan out : CatalogScan}

structure Catalogued (policies : List WitnessPolicy) (digest : Digest32) (policy : WitnessPolicy) : Prop where
  listed : policy ∈ policies
  valid : policy.validate = .ok ()
  digest : policy.digest = .ok digest

-- What keeps two policies out of one catalog.
def Clash (a b : WitnessPolicy) : Prop :=
  (a.witnessPolicyId = b.witnessPolicyId ∧ a.revision = b.revision) ∨
  (1 < a.revision ∧ 1 < b.revision ∧ a.predecessorPolicyDigest = b.predecessorPolicyDigest) ∨ a.digest = b.digest

structure Listable (policies : List WitnessPolicy) : Prop where
  valid : ∀ policy ∈ policies, policy.validate = .ok () ∧ ∃ digest, policy.digest = .ok digest
  apart : policies.Pairwise (¬ Clash · ·)

structure Scanned (policies : List WitnessPolicy) (scan : CatalogScan) : Prop where
  catalog : ∀ digest policy, scan.catalog[digest]? = some policy ↔ policy ∈ policies ∧ policy.digest = .ok digest
  lineages : ∀ id revision, (id, revision) ∈ scan.lineageRevisions ↔
    ∃ policy ∈ policies, policy.witnessPolicyId = id ∧ policy.revision = revision
  successors : ∀ digest, digest ∈ scan.successors ↔
    ∃ policy ∈ policies, 1 < policy.revision ∧ policy.predecessorPolicyDigest = digest

theorem Scanned.step (hscan : Scanned policies scan) : scanWitnessPolicy scan policy = .ok out ↔
    policy.validate = .ok () ∧ (∀ earlier ∈ policies, ¬ Clash earlier policy) ∧ ∃ digest, policy.digest = .ok digest ∧
      { catalog := scan.catalog.insert digest policy
        lineageRevisions := (policy.witnessPolicyId, policy.revision) :: scan.lineageRevisions
        successors := if policy.revision > 1 then scan.successors.insert policy.predecessorPolicyDigest
          else scan.successors } = out := by
  simp only [scanWitnessPolicy, eq_ok, ← Bool.not_eq_true, Bool.or_eq_true, holds, List.contains_iff_mem,
    Std.ExtTreeSet.contains_iff_mem, Std.ExtTreeMap.contains_iff_mem, mem_iff_getElem?, hscan.lineages,
    hscan.successors, hscan.catalog, Unique.exists_iff]
  grind [Clash]

theorem Scanned.extend (hscan : Scanned policies scan) (h : scanWitnessPolicy scan policy = .ok out) :
    Scanned (policies ++ [policy]) out := by
  obtain ⟨-, hapart, digest, hdigest, rfl⟩ := hscan.step.mp h
  constructor
  · intro other found
    have hnew : found ∈ policies → found.digest = .ok other → other ≠ digest := by grind [Clash]
    grind [getElem?_insert_eq_some, hscan.catalog other found]
  · intro id revision
    simp [hscan.lineages, or_comm, eq_comm]
  · intro other
    split <;> simp_all [hscan.successors, or_comm]

theorem scan_scanned (h : policies.foldlM scanWitnessPolicy ⟨∅, [], ∅⟩ = .ok scan) :
    Scanned policies scan ∧ Listable policies := by
  induction policies using List.reverseRecOn generalizing scan with
  | nil =>
    obtain rfl := Except.ok.inj h
    exact ⟨by constructor <;> simp, by constructor <;> simp⟩
  | append_singleton policies policy ih =>
    simp only [foldlM_append_eq_ok, foldlM_cons_eq_ok] at h
    obtain ⟨before, hbefore, out, hround, hdone⟩ := h
    obtain rfl := Except.ok.inj hdone
    obtain ⟨hscan, hlist⟩ := ih hbefore
    obtain ⟨hvalid, hapart, digest, hdigest, -⟩ := hscan.step.mp hround
    refine ⟨hscan.extend hround, ?_, ?_⟩
    · simpa [or_imp, forall_and, hvalid, hdigest] using hlist.valid
    · simpa [List.pairwise_append, hlist.apart] using hapart

theorem Listable.scans (h : Listable policies) : ∃ scan, policies.foldlM scanWitnessPolicy ⟨∅, [], ∅⟩ = .ok scan := by
  induction policies using List.reverseRecOn with
  | nil => exact ⟨_, rfl⟩
  | append_singleton policies policy ih =>
    obtain ⟨hapart, -, hnew⟩ := List.pairwise_append.mp h.apart
    obtain ⟨scan, hscan⟩ := ih ⟨fun earlier hmem => h.valid earlier (by simp [hmem]), hapart⟩
    obtain ⟨hvalid, digest, hdigest⟩ := h.valid policy (by simp)
    have hround := (scan_scanned hscan).1.step.mpr ⟨hvalid, by simpa using hnew, digest, hdigest, rfl⟩
    exact ⟨_, foldlM_append_eq_ok.mpr ⟨scan, hscan, foldlM_cons_eq_ok.mpr ⟨_, hround, rfl⟩⟩⟩

theorem witnessPolicyCatalog_catalogued (h : witnessPolicyCatalog policies = .ok catalog) {digest : Digest32}
    (hpolicy : catalog[digest]? = some policy) : Catalogued policies digest policy := by
  simp only [witnessPolicyCatalog, eq_ok] at h
  obtain ⟨scan, hscan, -, -, rfl⟩ := h
  obtain ⟨hscanned, hlist⟩ := scan_scanned hscan
  obtain ⟨hlisted, hdigest⟩ := (hscanned.catalog _ _).mp hpolicy
  exact ⟨hlisted, (hlist.valid policy hlisted).1, hdigest⟩

theorem witnessPolicyCatalog_perm (hperm : reordered.Perm policies)
    (h : witnessPolicyCatalog policies = .ok catalog) : witnessPolicyCatalog reordered = .ok catalog := by
  simp only [witnessPolicyCatalog, eq_ok, forM_eq_ok] at h ⊢
  obtain ⟨scan, hscan, -, hlinked, rfl⟩ := h
  obtain ⟨hscanned, hlist⟩ := scan_scanned hscan
  have hlistable : Listable reordered :=
    ⟨fun policy hmem => hlist.valid policy (hperm.mem_iff.mp hmem),
      (hperm.pairwise_iff fun {a b} hab => by grind [Clash]).mpr hlist.apart⟩
  obtain ⟨scan', hscan'⟩ := hlistable.scans
  have hsame : scan'.catalog = scan.catalog := by
    refine Std.ExtTreeMap.ext_getElem? fun digest => Option.ext fun policy => ?_
    rw [hscanned.catalog, (scan_scanned hscan').1.catalog, hperm.mem_iff]
  exact ⟨scan', hscan', (), fun policy hmem => hsame ▸ hlinked policy ((hperm.filter _).mem_iff.mp hmem), hsame⟩

def HasRevision (policies : List WitnessPolicy) (id : WitnessPolicyId) (k : Nat) : Prop :=
  ∃ policy ∈ policies, policy.witnessPolicyId = id ∧ policy.revision.toNat = k

-- The policies of one identifier, as revisions of one another.
structure PolicyLineage (policies : List WitnessPolicy) (id : WitnessPolicyId) (count : Nat) : Prop where
  revisions : ∀ k, HasRevision policies id k ↔ 1 ≤ k ∧ k ≤ count
  root : ∀ policy ∈ policies, policy.witnessPolicyId = id →
    (policy.revision.toNat = 1 ↔ policy.predecessorPolicyDigest = ZERO_DIGEST)
  linked : ∀ policy ∈ policies, ∀ later ∈ policies, policy.witnessPolicyId = id → later.witnessPolicyId = id →
    later.revision.toNat = policy.revision.toNat + 1 → policy.digest = .ok later.predecessorPolicyDigest
  own : ∀ policy ∈ policies, ∀ later ∈ policies, later.witnessPolicyId = id →
    later.predecessorPolicyDigest ≠ ZERO_DIGEST → policy.digest = .ok later.predecessorPolicyDigest →
    policy.witnessPolicyId = id ∧ later.revision.toNat = policy.revision.toNat + 1

theorem WitnessPolicy.validate_root (h : policy.validate = .ok u) :
    1 ≤ policy.revision.toNat ∧ (policy.revision.toNat = 1 ↔ policy.predecessorPolicyDigest = ZERO_DIGEST) := by
  simp only [WitnessPolicy.validate, eq_ok, passed, Bool.and_eq_false_iff, beq_eq_false_iff_ne, ne_eq,
    ← UInt64.toNat_inj, gt_iff_lt, UInt64.lt_iff_toNat_lt, UInt64.toNat_zero, UInt64.toNat_one, and_assoc] at h
  obtain ⟨-, -, hrev, -, -, -, -, -, -, -, -, -, -, hroot, hlater, -⟩ := h
  grind

theorem witnessPolicyCatalog_lineage (h : witnessPolicyCatalog policies = .ok catalog) :
    (policies.map fun policy => (policy.witnessPolicyId, policy.revision)).Nodup ∧
      ∀ policy ∈ policies, ∃ count, PolicyLineage policies policy.witnessPolicyId count := by
  simp only [witnessPolicyCatalog, eq_ok, forM_eq_ok] at h
  obtain ⟨scan, hscan, -, hchecked, rfl⟩ := h
  obtain ⟨hscanned, hlist⟩ := scan_scanned hscan
  have hsingle : (policies.map fun policy => (policy.witnessPolicyId, policy.revision)).Nodup :=
    List.pairwise_map.mpr (hlist.apart.imp fun hapart heq => hapart (.inl (Prod.mk.inj heq)))
  have hroot := fun policy hmem => WitnessPolicy.validate_root (hlist.valid policy hmem).1
  have hprior : ∀ later ∈ policies, later.predecessorPolicyDigest ≠ ZERO_DIGEST → ∃ prior ∈ policies,
      prior.digest = .ok later.predecessorPolicyDigest ∧ scan.catalog[later.predecessorPolicyDigest]? = some prior ∧
        prior.witnessPolicyId = later.witnessPolicyId ∧ later.revision.toNat = prior.revision.toNat + 1 := by
    intro later hmem hnonzero
    have hbound := hchecked later (by grind [UInt64.lt_iff_toNat_lt, UInt64.toNat_one])
    simp only [validatePredecessor, eq_ok, passed, checkedAdd_eq_some] at hbound
    obtain ⟨prior, hfound, hid, hrev⟩ := hbound
    obtain ⟨hprior, hdigest⟩ := (hscanned.catalog _ _).mp hfound
    exact ⟨prior, hprior, hdigest, hfound, hid, hrev⟩
  refine ⟨hsingle, fun policy hlisted => ?_⟩
  classical
  have hgreatest := Nat.findGreatest_spec (P := HasRevision policies policy.witnessPolicyId)
    policy.revision.toNat_lt.le ⟨policy, hlisted, rfl, rfl⟩
  refine ⟨Nat.findGreatest (HasRevision policies policy.witnessPolicyId) (2 ^ 64), fun k => ⟨?_, ?_⟩, fun other hmem _ => (hroot other hmem).2, ?_, ?_⟩
  · rintro ⟨other, hmem, hid, rfl⟩
    exact ⟨(hroot other hmem).1, Nat.le_findGreatest other.revision.toNat_lt.le ⟨other, hmem, hid, rfl⟩⟩
  · -- Under every revision above the first there is the one before it.
    rintro ⟨hone, hle⟩
    refine Nat.decreasingInduction' (fun j _ hj hpresent => ?_) hle hgreatest
    obtain ⟨later, hmem, hid, hrev⟩ := hpresent
    obtain ⟨prior, hlist, -, -, hsame, hstep⟩ := hprior later hmem (by grind)
    exact ⟨prior, hlist, hsame.trans hid, by omega⟩
  · intro other hmem later hlater hid hlaterId hstep
    obtain ⟨prior, hlist, hdigest, -, hsame, hrev⟩ := hprior later hlater (by grind)
    obtain rfl := List.inj_on_of_nodup_map hsingle hlist hmem (by grind [UInt64.toNat_inj])
    exact hdigest
  · intro other hmem later hlater hid hnonzero hdigest
    obtain ⟨prior, -, -, hfound, hsame, hrev⟩ := hprior later hlater hnonzero
    obtain rfl := some_unique hfound ((hscanned.catalog _ _).mpr ⟨hmem, hdigest⟩)
    exact ⟨hsame.trans hid, hrev⟩

theorem replay_witnessPolicies {journal : PolicyJournalV1} (h : replayPolicyWithCatalog journal catalog = .ok state) :
    state.witnessPolicies = catalog := by
  refine replay_induction (P := fun _ state => state.witnessPolicies = catalog) (fun _ _ => rfl) ?_ h
  intro before revision after timestamp prior next _ _ hprior hnext
  obtain ⟨reached, terminal, hreach, -, rfl⟩ := (replayRevision_accepted hnext).result
  have hsame := congrArg Lineage.witnessPolicies (revisionState_lineage hreach)
  exact hsame.trans hprior

theorem ReplayedPolicy.catalogued (policy : ReplayedPolicy) {digest : Digest32}
    (h : policy.state.witnessPolicies[digest]? = some witnessPolicy) :
    Catalogued policy.policies digest witnessPolicy := by
  obtain ⟨catalog, hcat, hreplay⟩ := replayPolicy_eq_ok.mp policy.replayed
  rw [replay_witnessPolicies hreplay] at h
  exact witnessPolicyCatalog_catalogued hcat h

theorem WitnessPolicy.validate_rules (h : policy.validate = .ok u) (hrule : rule ∈ policy.operationRules) :
    rule.validate = .ok () := by
  simp only [WitnessPolicy.validate, bind_eq_ok, forM_eq_ok] at h
  obtain ⟨_, -, _, -, _, -, _, hrules, -⟩ := h
  exact hrules rule hrule

theorem ReplayedPolicy.eligible_nodup (policy : ReplayedPolicy)
    (h : policy.state.witnessAccessRule itemId operation = .ok rule) : rule.eligibleApproverIds.Nodup := by
  obtain ⟨witnessPolicy, source, hrule⟩ := witnessAccessRule_eq_ok h
  have hvalid := (policy.catalogued hrule.policy).valid
  rw [hrule.eligible]
  exact (OperationRule.validate_eq_ok (WitnessPolicy.validate_rules hvalid hrule.listed)).1

theorem witness_policies_form_lineages (journal : PolicyJournalV1) (policies : List WitnessPolicy) (state : PolicyState)
    (h : replayPolicyWithWitnessPolicies journal policies = .ok state) :
    (policies.map fun policy => (policy.witnessPolicyId, policy.revision)).Nodup ∧
      (∀ policy ∈ policies, ∃ count, PolicyLineage policies policy.witnessPolicyId count) ∧
      ∀ reordered : List WitnessPolicy, reordered.Perm policies →
        replayPolicyWithWitnessPolicies journal reordered = .ok state := by
  obtain ⟨catalog, hcat, hreplay⟩ := replayPolicy_eq_ok.mp h
  obtain ⟨hsingle, hlineage⟩ := witnessPolicyCatalog_lineage hcat
  exact ⟨hsingle, hlineage, fun reordered hperm =>
    replayPolicy_eq_ok.mpr ⟨catalog, witnessPolicyCatalog_perm hperm hcat, hreplay⟩⟩

end Jury.Policy

namespace Jury.Policy.Sample

open Lib Protocol Vault Protocol.Sample

def laterPolicy : WitnessPolicy := { witnessPolicy with revision := 2, predecessorPolicyDigest := policyDigest }

theorem later_policy_first : ∃ state, replayPolicyWithWitnessPolicies founded [laterPolicy, witnessPolicy] = .ok state ∧
    replayPolicyWithWitnessPolicies founded [witnessPolicy, laterPolicy] = .ok state ∧
    ∃ count, PolicyLineage [laterPolicy, witnessPolicy] witnessPolicy.witnessPolicyId count := by
  obtain ⟨state, hstate⟩ := exists_eq_ok_of_isOk
    (by decide +kernel : (replayPolicyWithWitnessPolicies founded [laterPolicy, witnessPolicy]).isOk = true)
  obtain ⟨-, hlineage, hperm⟩ := witness_policies_form_lineages founded _ state hstate
  exact ⟨state, hstate, hperm _ (.swap _ _ _), hlineage witnessPolicy (by simp)⟩

end Jury.Policy.Sample
