import Jury.Engine.Operations
import Jury.Protocol.Witness.Encoding
import Jury.Lib.Group

-- Counting approvals. The engine keeps at most two decisions of an approver, which is enough for the
-- count of the decisions it has before it.
namespace Jury.Engine

open Lib Protocol Witness Policy

variable {a b : KeyedApproval} {accepted : List ApprovalDecisionV1}

abbrev KeyedApproval := PrincipalId × Bytes × ApprovalDecisionV1

def approvalKey (entry : KeyedApproval) : PrincipalId × Bytes := (entry.1, entry.2.1)

structure Keyed (entry : PrincipalId × Bytes × ApprovalDecisionV1) : Prop where
  approver : entry.1 = entry.2.2.approverId
  bytes : entry.2.2.canonicalBytes = .ok entry.2.1

theorem keyApproval_eq_ok : keyApproval approval = .ok entry ↔ Keyed entry ∧ entry.2.2 = approval := by
  simp only [keyApproval, bind_eq_ok, orRefuse_eq_ok, pure_eq_ok]
  constructor
  · rintro ⟨bytes, hbytes, rfl⟩
    exact ⟨⟨rfl, hbytes⟩, rfl⟩
  · rintro ⟨⟨happr, hbytes⟩, rfl⟩
    exact ⟨entry.2.1, hbytes, Prod.ext happr.symm rfl⟩

theorem Keyed.ext (ha : Keyed a) (hb : Keyed b) (h : a.2.2 = b.2.2) : a = b := by
  have hbytes := ha.bytes
  rw [h] at hbytes
  exact Prod.ext (by rw [ha.approver, hb.approver, h]) (Prod.ext (ok_unique hbytes hb.bytes) h)

theorem Keyed.eq_of_key (ha : Keyed a) (hb : Keyed b) (hkey : approvalKey a = approvalKey b) : a = b := by
  have hbytes : a.2.1 = b.2.1 := congrArg Prod.snd hkey
  exact ha.ext hb (ApprovalDecisionV1.canonicalBytes_inj ha.bytes (hbytes ▸ hb.bytes))

def WellFormed (approvals : List ApprovalDecisionV1) : Prop :=
  ∀ decision ∈ approvals, ∃ bytes, decision.canonicalBytes = .ok bytes

-- The different decisions of a list, in the order in which the engine puts them.
structure Distinct (approvals : List ApprovalDecisionV1) (entries : List KeyedApproval) : Prop where
  increasing : Increasing approvalKey entries
  mem : ∀ entry, entry ∈ entries ↔ Keyed entry ∧ entry.2.2 ∈ approvals

theorem dedupAdjacent_eq (keyed : List KeyedApproval) :
    dedupAdjacent keyed = collapse (fun a b => a.1 == b.1 && a.2.1 == b.2.1) keyed := by
  unfold dedupAdjacent collapse
  congr
  funext entry rest
  cases rest <;> rfl

theorem normalizeApprovals_eq (h : WellFormed approvals) :
    ∃ entries, Distinct approvals entries ∧ normalizeApprovals approvals = do
      rejectIf (decide ((keepFirst 2 approvalKey entries).length > MAX_RECORDED_APPROVALS)) (refused .capacityExhausted)
      return (keepFirst 2 approvalKey entries).map (·.2.2) := by
  obtain ⟨keyed, hkeyed⟩ : ∃ keyed, approvals.mapM keyApproval = .ok keyed := by
    refine exists_mapM_eq_ok fun decision hdec => ?_
    obtain ⟨bytes, hbytes⟩ := h decision hdec
    exact ⟨(decision.approverId, bytes, decision), keyApproval_eq_ok.mpr ⟨⟨rfl, hbytes⟩, rfl⟩⟩
  have hall : ∀ entry, entry ∈ keyed ↔ Keyed entry ∧ entry.2.2 ∈ approvals := by
    have hforall := mapM_eq_ok.mp hkeyed
    refine fun entry => ⟨fun hentry => ?_, fun ⟨hown, hmem⟩ => ?_⟩
    · obtain ⟨decision, hdec, hkey⟩ := forall₂_mem_right hforall hentry
      obtain ⟨hown, rfl⟩ := keyApproval_eq_ok.mp hkey
      exact ⟨hown, hdec⟩
    · obtain ⟨other, hother, hkey⟩ := forall₂_mem_left hforall hmem
      obtain ⟨hown', heq⟩ := keyApproval_eq_ok.mp hkey
      exact hown'.ext hown heq ▸ hother
  have hsame : ∀ a b : KeyedApproval, (a.1 == b.1 && a.2.1 == b.2.1) = true ↔ approvalKey a = approvalKey b := by
    simp [approvalKey]
  have hperm := sortByKey_perm keyed approvalKey
  have hsub := collapse_sublist (fun a b : KeyedApproval => a.1 == b.1 && a.2.1 == b.2.1) (sortByKey keyed approvalKey)
  refine ⟨dedupAdjacent (sortByKey keyed approvalKey), ⟨?_, fun entry => ?_⟩, ?_⟩
  · rw [dedupAdjacent_eq]
    exact collapse_increasing hsame (sortByKey_ascending keyed approvalKey)
  · rw [dedupAdjacent_eq, ← hall]
    refine ⟨fun hentry => hperm.subset (hsub.subset hentry), fun hentry => ?_⟩
    obtain ⟨kept, hkept, hkey⟩ := exists_mem_collapse (fun a b => (hsame a b).mp) (hperm.symm.subset hentry)
    have hown := (hall kept).mp (hperm.subset (hsub.subset hkept))
    exact hown.1.eq_of_key ((hall entry).mp hentry).1 hkey ▸ hkept
  · rw [normalizeApprovals, hkeyed]
    rfl

-- The different decisions among those submitted, and of every approver the first two of them.
structure Normalized (approvals distinct accepted : List ApprovalDecisionV1) : Prop where
  nodup : distinct.Nodup
  mem : ∀ decision, decision ∈ distinct ↔ decision ∈ approvals
  accepted : ∀ approverId : PrincipalId, accepted.filter (fun decision => decision.approverId == approverId) =
    (distinct.filter fun decision => decision.approverId == approverId).take 2

theorem wellFormed_of_normalize (h : normalizeApprovals approvals = .ok accepted) : WellFormed approvals := by
  simp only [normalizeApprovals, bind_eq_ok] at h
  obtain ⟨keyed, hkeyed, -⟩ := h
  intro decision hdec
  obtain ⟨entry, -, hkey⟩ := forall₂_mem_left (mapM_eq_ok.mp hkeyed) hdec
  obtain ⟨hown, rfl⟩ := keyApproval_eq_ok.mp hkey
  exact ⟨_, hown.bytes⟩

theorem Distinct.mem_map (h : Distinct approvals entries) (hwell : WellFormed approvals) (decision : ApprovalDecisionV1) :
    decision ∈ entries.map (·.2.2) ↔ decision ∈ approvals := by
  rw [List.mem_map]
  constructor
  · rintro ⟨entry, hentry, rfl⟩
    exact ((h.mem entry).mp hentry).2
  · intro hdec
    obtain ⟨bytes, hbytes⟩ := hwell decision hdec
    exact ⟨(decision.approverId, bytes, decision), (h.mem _).mpr ⟨⟨rfl, hbytes⟩, hdec⟩, rfl⟩

theorem normalizeApprovals_eq_ok (h : normalizeApprovals approvals = .ok accepted) :
    ∃ distinct, Normalized approvals distinct accepted := by
  have hwell := wellFormed_of_normalize h
  obtain ⟨entries, hentries, heq⟩ := normalizeApprovals_eq hwell
  simp only [heq, eq_ok] at h
  obtain ⟨-, -, rfl⟩ := h
  have hown : ∀ entry ∈ entries, Keyed entry := fun entry hentry => ((hentries.mem entry).mp hentry).1
  refine ⟨entries.map (·.2.2), ?_, hentries.mem_map hwell, fun approverId => ?_⟩
  · exact hentries.increasing.nodup.map_on fun a ha b hb heq => (hown a ha).ext (hown b hb) heq
  · -- An entry stands under the approver of its decision.
    have happr : ∀ some ⊆ entries, (some.map (·.2.2)).filter (fun decision => decision.approverId == approverId) =
        (some.filter fun entry => (approvalKey entry).1 == approverId).map (·.2.2) := by
      intro some hsome
      rw [List.filter_map]
      congr 1
      refine List.filter_congr fun entry hentry => ?_
      simp only [Function.comp_apply, approvalKey, (hown entry (hsome hentry)).approver]
    rw [happr (keepFirst 2 approvalKey entries) (keepPerGroup_sublist 2 _ entries).subset,
      happr _ (List.Subset.refl entries), keepFirst, filter_keepPerGroup 2 hentries.increasing.ascending.fst,
      List.map_take]

theorem Distinct.length_kept (h : Distinct approvals entries) (approverIds : Finset PrincipalId)
    (hall : ∀ decision ∈ approvals, decision.approverId ∈ approverIds) :
    (keepFirst 2 approvalKey entries).length = ∑ approverId ∈ approverIds,
      min 2 (entries.filter fun entry => (approvalKey entry).1 == approverId).length := by
  refine length_keepFirst h.increasing approverIds fun entry hentry => ?_
  obtain ⟨hown, hmem⟩ := (h.mem entry).mp hentry
  rw [approvalKey, hown.approver]
  exact hall _ hmem

theorem Distinct.length_kept_mono (ha : Distinct first entries) (hb : Distinct second others) (h : first ⊆ second) :
    (keepFirst 2 approvalKey entries).length ≤ (keepFirst 2 approvalKey others).length := by
  have hsub : entries.Sublist others := ha.increasing.sublist_of_subset hb.increasing fun entry hentry =>
    (hb.mem entry).mpr (((ha.mem entry).mp hentry).imp_right fun hmem => h hmem)
  have happr : ∀ decision ∈ second, decision.approverId ∈ (second.map (·.approverId)).toFinset :=
    fun decision hdec => List.mem_toFinset.mpr (List.mem_map_of_mem hdec)
  rw [ha.length_kept _ fun decision hdec => happr decision (h hdec), hb.length_kept _ happr]
  exact Finset.sum_le_sum fun approverId _ => min_le_min_left 2 (hsub.filter _).length_le

theorem wellFormed_append : WellFormed (first ++ second) ↔ WellFormed first ∧ WellFormed second :=
  List.forall_mem_append

theorem normalize_absorbs (ha : WellFormed first) (hb : WellFormed second) :
    (do normalizeApprovals ((← normalizeApprovals first) ++ second)) = normalizeApprovals (first ++ second) := by
  obtain ⟨entries, hentries, heq⟩ := normalizeApprovals_eq ha
  obtain ⟨all, hall, hboth⟩ := normalizeApprovals_eq (wellFormed_append.mpr ⟨ha, hb⟩)
  have hmono := hentries.length_kept_mono hall (List.subset_append_left first second)
  by_cases hfull : (keepFirst 2 approvalKey entries).length > MAX_RECORDED_APPROVALS
  · simp only [heq, hboth, rejectIf, hfull, hfull.trans_le hmono, decide_true, if_true]
    rfl
  have hkept : (keepFirst 2 approvalKey entries).map (·.2.2) ⊆ first := fun decision hdec =>
    (hentries.mem_map ha decision).mp (((keepPerGroup_sublist 2 _ entries).map _).subset hdec)
  obtain ⟨kept, hdistinct, hsecond⟩ :=
    normalizeApprovals_eq (wellFormed_append.mpr ⟨fun decision hdec => ha decision (hkept hdec), hb⟩)
  have hfirst : normalizeApprovals first = .ok ((keepFirst 2 approvalKey entries).map (·.2.2)) := by
    rw [heq, rejectIf, decide_eq_false hfull]
    rfl
  have hsame : keepFirst 2 approvalKey kept = keepFirst 2 approvalKey all := by
    refine keep_absorbs (P := fun entry => Keyed entry ∧ entry.2.2 ∈ second) hentries.increasing hall.increasing
      hdistinct.increasing (fun entry => ?_) fun entry => ?_
    · rw [hall.mem, hentries.mem, List.mem_append, and_or_left]
    · rw [hdistinct.mem, List.mem_append, and_or_left]
      refine or_congr_left ⟨?_, fun hentry => ?_⟩
      · rintro ⟨hown, hmem⟩
        obtain ⟨other, hother, heq⟩ := List.mem_map.mp hmem
        have hown' := ((hentries.mem other).mp ((keepPerGroup_sublist 2 _ entries).subset hother)).1
        exact hown'.ext hown heq ▸ hother
      · have hown := ((hentries.mem entry).mp ((keepPerGroup_sublist 2 _ entries).subset hentry)).1
        exact ⟨hown, List.mem_map_of_mem hentry⟩
  rw [hfirst, hboth, ← hsame, ← hsecond]
  rfl

theorem normalize_congr (ha : WellFormed first) (h : ∀ decision, decision ∈ first ↔ decision ∈ second) :
    normalizeApprovals first = normalizeApprovals second := by
  obtain ⟨entries, hentries, heq⟩ := normalizeApprovals_eq ha
  obtain ⟨others, hothers, heq'⟩ := normalizeApprovals_eq fun decision hdec => ha decision ((h decision).mpr hdec)
  have hsame : entries = others := hentries.increasing.eq_of_mem hothers.increasing fun entry => by
    rw [hentries.mem, hothers.mem, h]
  rw [heq, heq', hsame]

theorem normalize_accepts (ha : WellFormed approvals) (h : (approvals.map (·.approverId)).toFinset.card ≤ 32) :
    ∃ accepted, normalizeApprovals approvals = .ok accepted := by
  obtain ⟨entries, hentries, heq⟩ := normalizeApprovals_eq ha
  have hlen : (keepFirst 2 approvalKey entries).length ≤ MAX_RECORDED_APPROVALS := by
    rw [hentries.length_kept _ fun decision hdec => List.mem_toFinset.mpr (List.mem_map_of_mem hdec)]
    calc _ ≤ (approvals.map (·.approverId)).toFinset.card • 2 := Finset.sum_le_card_nsmul _ _ _ fun _ _ => min_le_left 2 _
      _ ≤ MAX_RECORDED_APPROVALS := Nat.mul_le_mul_right 2 h
  rw [heq, rejectIf, decide_eq_false (Nat.not_lt.mpr hlen)]
  exact ⟨_, rfl⟩

section Standing

variable (decisions : Set ApprovalDecisionV1) (approverId : PrincipalId)

def SoleDecision (decision : ApprovalDecisionV1) : Prop :=
  decision ∈ decisions ∧ decision.approverId = approverId ∧
    ∀ other ∈ decisions, other.approverId = approverId → other = decision

def Approving : Prop := ∃ decision, SoleDecision decisions approverId decision ∧ decision.decision = .approve

def InConflict : Prop :=
  ∃ first ∈ decisions, ∃ second ∈ decisions, first.approverId = approverId ∧ second.approverId = approverId ∧
    first ≠ second

def Undecided : Prop := ∀ decision ∈ decisions, decision.approverId ≠ approverId

end Standing

open Classical in
-- The count that the protocol asks for: an approver with one decision counts as that decision, one with
-- several different ones is in conflict and counts for nothing.
noncomputable def documentedTally (decisions : Set ApprovalDecisionV1) (rule : WitnessAccessRule) : ApprovalTally where
  approved := rule.eligibleApproverIds.countP fun approverId => decide (Approving decisions approverId)
  undecided := rule.eligibleApproverIds.countP fun approverId => decide (Undecided decisions approverId)
  conflicted := rule.eligibleApproverIds.any fun approverId => decide (InConflict decisions approverId)

inductive Outcome where
  | approved
  | denied (reason : WitnessReasonV1)
  | pending
deriving DecidableEq

-- Refused as soon as the threshold is out of reach, approved when it is met.
def documentedOutcome (tally : ApprovalTally) (threshold : Nat) : Outcome :=
  if tally.approved + tally.undecided < threshold then
    .denied (if tally.conflicted then .approvalConflict else .approvalDenied)
  else if threshold ≤ tally.approved then .approved
  else .pending

theorem documentedOutcome_ne_approved {tally : ApprovalTally} (h : tally.approved < threshold) :
    documentedOutcome tally threshold ≠ .approved := by
  unfold documentedOutcome
  rw [if_neg (Nat.not_le.mpr h)]
  split <;> simp

section Tally

variable {decisions : List ApprovalDecisionV1} {approverId : PrincipalId}

theorem mem_filter_approver :
    decision ∈ decisions.filter (fun decision => decision.approverId == approverId) ↔
      decision ∈ decisions ∧ decision.approverId = approverId := by
  simp

theorem standing_cases (hnodup : decisions.Nodup) (approverId : PrincipalId) :
    (decisions.filter (fun decision => decision.approverId == approverId) = [] ∧
        Undecided {decision | decision ∈ decisions} approverId) ∨
      (∃ decision, decisions.filter (fun decision => decision.approverId == approverId) = [decision] ∧
        SoleDecision {decision | decision ∈ decisions} approverId decision) ∨
      ∃ first second rest, decisions.filter (fun decision => decision.approverId == approverId) =
          first :: second :: rest ∧ InConflict {decision | decision ∈ decisions} approverId := by
  have hmem : ∀ decision, decision ∈ decisions.filter (fun decision => decision.approverId == approverId) ↔
      decision ∈ decisions ∧ decision.approverId = approverId := fun _ => mem_filter_approver
  have hdistinct := hnodup.filter fun decision => decision.approverId == approverId
  generalize decisions.filter (fun decision => decision.approverId == approverId) = own at hmem hdistinct
  match own with
  | [] =>
    refine .inl ⟨rfl, fun decision hdec happr => ?_⟩
    have hnone := (hmem decision).mpr ⟨hdec, happr⟩
    cases hnone
  | [decision] =>
    obtain ⟨hdec, happr⟩ := (hmem decision).mp List.mem_cons_self
    refine .inr (.inl ⟨decision, rfl, hdec, happr, fun other hother hsame => ?_⟩)
    have hsole := (hmem other).mpr ⟨hother, hsame⟩
    exact List.mem_singleton.mp hsole
  | first :: second :: rest =>
    obtain ⟨hfirst, happr⟩ := (hmem first).mp List.mem_cons_self
    obtain ⟨hsecond, happrover'⟩ := (hmem second).mp (List.mem_cons_of_mem _ List.mem_cons_self)
    refine .inr (.inr ⟨first, second, rest, rfl, first, hfirst, second, hsecond, happr, happrover', ?_⟩)
    exact (List.pairwise_cons.mp hdistinct).1 second List.mem_cons_self

variable {set : Set ApprovalDecisionV1}

theorem SoleDecision.not_undecided (h : SoleDecision set approverId decision) :
    ¬ Undecided set approverId := fun hnone => hnone decision h.1 h.2.1

theorem SoleDecision.not_inConflict (h : SoleDecision set approverId decision) : ¬ InConflict set approverId := by
  rintro ⟨first, hfirst, second, hsecond, happr, happrover', hne⟩
  exact hne ((h.2.2 first hfirst happr).trans (h.2.2 second hsecond happrover').symm)

theorem InConflict.not_undecided (h : InConflict set approverId) : ¬ Undecided set approverId := by
  obtain ⟨first, hfirst, -, -, happr, -⟩ := h
  exact fun hnone => hnone first hfirst happr

theorem Approving.iff_of_sole (h : SoleDecision set approverId decision) :
    Approving set approverId ↔ decision.decision = .approve := by
  constructor
  · rintro ⟨other, hother, happrove⟩
    rw [← h.2.2 other hother.1 hother.2.1]
    exact happrove
  · exact fun happrove => ⟨decision, h, happrove⟩

open Classical in
theorem tallyApprover_eq (hnodup : decisions.Nodup) (tally : ApprovalTally) :
    tallyApprover decisions tally approverId = {
      approved := tally.approved + if Approving {decision | decision ∈ decisions} approverId then 1 else 0
      undecided := tally.undecided + if Undecided {decision | decision ∈ decisions} approverId then 1 else 0
      conflicted := tally.conflicted || decide (InConflict {decision | decision ∈ decisions} approverId) } := by
  unfold tallyApprover
  rcases standing_cases hnodup approverId with
    ⟨hown, hundecided⟩ | ⟨decision, hown, hsole⟩ | ⟨first, second, rest, hown, hconflict⟩
  · have happroving : ¬ Approving {decision | decision ∈ decisions} approverId :=
      fun ⟨_, hsole, _⟩ => hsole.not_undecided hundecided
    have hconflict : ¬ InConflict {decision | decision ∈ decisions} approverId :=
      fun hconflict => hconflict.not_undecided hundecided
    simp [hown, hundecided, happroving, hconflict]
  · have hundecided := hsole.not_undecided
    have hconflict := hsole.not_inConflict
    by_cases happrove : decision.decision = .approve
    · simp [hown, hundecided, hconflict, Approving.iff_of_sole hsole, happrove]
    · simp [hown, hundecided, hconflict, Approving.iff_of_sole hsole, happrove]
  · have hundecided := hconflict.not_undecided
    have happroving : ¬ Approving {decision | decision ∈ decisions} approverId :=
      fun ⟨_, hsole, _⟩ => hsole.not_inConflict hconflict
    simp [hown, hundecided, happroving, hconflict]

open Classical in
theorem foldl_tallyApprover (hnodup : decisions.Nodup) (approverIds : List PrincipalId) (tally : ApprovalTally) :
    approverIds.foldl (tallyApprover decisions) tally = {
      approved := tally.approved +
        approverIds.countP fun approverId => decide (Approving {decision | decision ∈ decisions} approverId)
      undecided := tally.undecided +
        approverIds.countP fun approverId => decide (Undecided {decision | decision ∈ decisions} approverId)
      conflicted := tally.conflicted ||
        approverIds.any fun approverId => decide (InConflict {decision | decision ∈ decisions} approverId) } := by
  induction approverIds generalizing tally with
  | nil => simp
  | cons approverId rest ih =>
    rw [List.foldl_cons, ih, tallyApprover_eq hnodup]
    simp only [List.countP_cons, List.any_cons, decide_eq_true_eq, Bool.or_assoc, ApprovalTally.mk.injEq, and_true]
    constructor <;> omega

theorem tallyApprovals_eq_documented (hnodup : decisions.Nodup) (rule : WitnessAccessRule) :
    tallyApprovals decisions rule = documentedTally {decision | decision ∈ decisions} rule := by
  rw [tallyApprovals, foldl_tallyApprover hnodup]
  simp [documentedTally]

section Normalized

variable {approvals distinct accepted : List ApprovalDecisionV1} {decision : ApprovalDecisionV1}

section Normalized

variable (h : Normalized approvals distinct accepted)

include h

theorem Normalized.set_eq : {decision | decision ∈ approvals} = {decision | decision ∈ distinct} :=
  Set.ext fun decision => (h.mem decision).symm

theorem Normalized.tally (rule : WitnessAccessRule) :
    tallyApprovals accepted rule = documentedTally {decision | decision ∈ approvals} rule := by
  have hround : tallyApprover accepted = tallyApprover distinct := by
    funext tally approverId
    unfold tallyApprover
    rw [h.accepted approverId]
    generalize distinct.filter (fun decision => decision.approverId == approverId) = own
    match own with
    | [] => rfl
    | [_] => rfl
    | _ :: _ :: _ => rfl
  rw [h.set_eq, ← tallyApprovals_eq_documented h.nodup, tallyApprovals, tallyApprovals, hround]

theorem Normalized.mem_accepted
    (hfew : (distinct.filter fun other => other.approverId == decision.approverId).length ≤ 2) :
    decision ∈ accepted ↔ decision ∈ approvals := by
  have hacc := h.accepted decision.approverId
  rw [List.take_of_length_le hfew] at hacc
  have hmem : decision ∈ accepted ↔ decision ∈ distinct := by
    have hfilter : decision ∈ accepted.filter (fun other => other.approverId == decision.approverId) ↔
        decision ∈ distinct.filter (fun other => other.approverId == decision.approverId) := by rw [hacc]
    simpa only [mem_filter_approver, and_true] using hfilter
  exact hmem.trans (h.mem decision)

theorem Normalized.mem_of_sole (hsole : SoleDecision {decision | decision ∈ approvals} approverId decision) :
    decision ∈ accepted := by
  refine (h.mem_accepted ?_).mpr hsole.1
  obtain rfl := hsole.2.1
  rw [h.set_eq] at hsole
  rcases standing_cases h.nodup decision.approverId with ⟨hown, -⟩ | ⟨_, hown, -⟩ | ⟨_, _, _, -, hconflict⟩
  · rw [hown]
    exact Nat.zero_le _
  · rw [hown]
    exact Nat.le_succ _
  · exact absurd hconflict hsole.not_inConflict

end Normalized

end Normalized

end Tally

-- A clock reading inside the validity interval of a decision, with the skew that is allowed at its start.
structure CurrentApproval (approval : ApprovalDecisionV1) (nowMs : UInt64) : Prop where
  issued : approval.issuedAtMs.toNat ≤ nowMs.toNat + ACCEPTED_CLOCK_SKEW_MS.toNat
  begun : ∀ notBefore, approval.notBeforeMs = some notBefore →
    notBefore.toNat ≤ nowMs.toNat + ACCEPTED_CLOCK_SKEW_MS.toNat
  unexpired : nowMs.toNat < approval.expiresAtMs.toNat

theorem approvalIsCurrent_iff : approvalIsCurrent approval nowMs = true ↔ CurrentApproval approval nowMs := by
  have hle : ∀ time : UInt64, time ≤ saturatingAdd nowMs ACCEPTED_CLOCK_SKEW_MS ↔
      time.toNat ≤ nowMs.toNat + ACCEPTED_CLOCK_SKEW_MS.toNat := fun time => by
    rw [← UInt64.not_lt, saturatingAdd_lt_iff, not_lt]
  simp only [approvalIsCurrent, holds, Option.all_eq_true, hle, UInt64.lt_iff_toNat_lt]
  exact ⟨fun ⟨⟨hissued, hunexp⟩, hbegun⟩ => ⟨hissued, hbegun, hunexp⟩,
    fun ⟨hissued, hbegun, hunexp⟩ => ⟨⟨hissued, hunexp⟩, hbegun⟩⟩

theorem CurrentApproval.between (hfirst : CurrentApproval approval first) (hlast : CurrentApproval approval last)
    (hle : first ≤ middle) (hle' : middle ≤ last) : CurrentApproval approval middle := by
  rw [UInt64.le_iff_toNat_le] at hle hle'
  have hissued := hfirst.issued
  have hunexp := hlast.unexpired
  refine ⟨by omega, fun notBefore hnotBefore => ?_, by omega⟩
  have hbegun := hfirst.begun notBefore hnotBefore
  omega

variable [Crypto]

-- An active approver whom the rule admits has signed this decision about exactly this request.
structure BoundApproval (approval : ApprovalDecisionV1) (request : WitnessRequestV1) (manifest : ActionManifestV1)
    (rule : WitnessAccessRule) (policy : WitnessPolicy) (descriptor : ApproverPolicyDescriptor) : Prop where
  active : policy.activeApprover approval.approverId = some descriptor
  eligible : approval.approverId ∈ rule.eligibleApproverIds
  forRequest : approval.requestId = request.requestId ∧ request.digest = .ok approval.requestDigest
  forManifest : manifest.digest = .ok approval.actionManifestDigest ∧
    approval.presentationDigest = manifest.presentationDigest
  forPolicy : approval.witnessPolicyId = request.witnessPolicyId ∧
    approval.witnessPolicyRevision = request.witnessPolicyRevision ∧
    approval.witnessPolicyDigest = request.witnessPolicyDigest
  forWitnesses : request.intendedWitnessSetDigest = .ok approval.intendedWitnessSetDigest
  key : approval.approverKeyFingerprint = descriptor.signingKeyFingerprint ∧
    approval.approverKeyEpoch = descriptor.signingKeyEpoch ∧ approval.approvalMode = descriptor.approvalMode
  interval : request.issuedAtMs ≤ approval.issuedAtMs ∧ approval.expiresAtMs ≤ request.expiresAtMs
  signed : ∃ preimage, approval.signaturePreimage = .ok preimage ∧
    verifyBytes descriptor.signingPublicKey preimage approval.signature = true

section Merge

variable {approval : ApprovalDecisionV1}

theorem validateApprovalAgainstPolicy_eq_ok
    (h : validateApprovalAgainstPolicy approval request manifest rule policy = .ok u) :
    ∃ descriptor, BoundApproval approval request manifest rule policy descriptor := by
  simp only [validateApprovalAgainstPolicy, eq_ok, orRefuse_eq_ok, passed, gt_iff_lt, UInt64.not_lt,
    List.contains_iff_mem, and_assoc] at h
  obtain ⟨_, -, descriptor, hdesc, requestDigest, hrequest, manifestDigest, hman, setDigest, hset, _, heligible, hid,
    rfl, rfl, hpresentation, hpolicyId, hrev, hdigest, rfl, hfp, hepoch, hmode, hissued, hexpires, preimage, hpre,
    hsigned⟩ := h
  exact ⟨descriptor, {
    active := hdesc
    eligible := heligible
    forRequest := ⟨hid, hrequest⟩
    forManifest := ⟨hman, hpresentation⟩
    forPolicy := ⟨hpolicyId, hrev, hdigest⟩
    forWitnesses := hset
    key := ⟨hfp, hepoch, hmode⟩
    interval := ⟨hissued, hexpires⟩
    signed := ⟨preimage, hpre, hsigned⟩ }⟩

def consideredApprovals (recorded submitted : List ApprovalDecisionV1) (nowMs : UInt64) : List ApprovalDecisionV1 :=
  (recorded.filter fun approval => approvalIsCurrent approval nowMs) ++ submitted

structure Merged (recorded submitted : List ApprovalDecisionV1) (request : WitnessRequestV1)
    (manifest : ActionManifestV1) (validated : ValidatedRequest) (nowMs : UInt64)
    (accepted : List ApprovalDecisionV1) : Prop where
  fresh : ∀ approval ∈ submitted, CurrentApproval approval nowMs
  bound : ∀ approval ∈ consideredApprovals recorded submitted nowMs,
    ∃ descriptor, BoundApproval approval request manifest validated.rule validated.policy descriptor
  normalized : ∃ distinct, Normalized (consideredApprovals recorded submitted nowMs) distinct accepted

theorem mergeApprovals_eq_ok (h : mergeApprovals recorded submitted request manifest validated nowMs = .ok accepted) :
    Merged recorded submitted request manifest validated nowMs accepted := by
  simp only [mergeApprovals, bind_eq_ok, forM_eq_ok] at h
  obtain ⟨_, hrecorded, _, hsubmitted, hnorm⟩ := h
  have hvalid : ∀ approval ∈ submitted,
      validateApprovalStatic approval request manifest validated = .ok () ∧ CurrentApproval approval nowMs := by
    intro approval happ
    have hchecked := hsubmitted approval happ
    simp only [validateApproval, eq_ok, Bool.not_eq_false'] at hchecked
    obtain ⟨_, hstatic, hcur⟩ := hchecked
    exact ⟨hstatic, approvalIsCurrent_iff.mp hcur⟩
  refine ⟨fun approval happ => (hvalid approval happ).2, fun approval happ => ?_, normalizeApprovals_eq_ok hnorm⟩
  rcases List.mem_append.mp happ with hold | hnew
  · exact validateApprovalAgainstPolicy_eq_ok (hrecorded approval (List.mem_of_mem_filter hold))
  · exact validateApprovalAgainstPolicy_eq_ok (hvalid approval hnew).1

theorem Merged.current (h : Merged recorded submitted request manifest validated nowMs accepted)
    (happ : approval ∈ consideredApprovals recorded submitted nowMs) : CurrentApproval approval nowMs := by
  rcases List.mem_append.mp happ with hold | hnew
  · exact approvalIsCurrent_iff.mp (List.mem_filter.mp hold).2
  · exact h.fresh approval hnew

end Merge

end Jury.Engine
