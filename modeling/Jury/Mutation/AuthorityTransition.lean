import Jury.Engine.Requests
import Jury.Policy.Replay.Catalog

-- Which changes of witness authority a mutation or an import has to acknowledge, and what a witness
-- policy authorizes.
namespace Jury.Mutation

open Lib Protocol Vault Witness Policy Engine

inductive MutationErrorKind where
  | invalidCurrentState
  | invalidPlan
  | unauthorized
  | noChange
  | capacityExhausted
  | directDowngradeRequiresAcknowledgement
  | missingItemEnvelope
  | unexpectedItemEnvelope
  | transferBehind
  | transferDiverged
  | transferDowngrade
deriving DecidableEq

def witnessDigest (item : ItemPolicyState) : Option Digest32 :=
  (item.witnessedState.bind fun state => state.slots.head?).map (·.witnessPolicyDigest)

def assuranceIsWeaker (prior next : PlatformAssurance) : Bool :=
  match prior, next with
  | .stableExecutableIdentity, .normalizedPathOnly => true
  | _, _ => false

def eligibleSetIsBroader (prior next : List PrincipalId) : Bool :=
  next.any fun id => !prior.contains id

def ruleIsWeaker (priorRule nextRule : OperationRule) : Bool :=
  decide (nextRule.approvalThreshold < priorRule.approvalThreshold)
    || decide (nextRule.allowedRequestLifetimeMs > priorRule.allowedRequestLifetimeMs)
    || decide (nextRule.maxTimeoutMs > priorRule.maxTimeoutMs)
    || decide (nextRule.maxOutputBytes > priorRule.maxOutputBytes)
    || decide (nextRule.maxTargetCount > priorRule.maxTargetCount)
    || assuranceIsWeaker priorRule.requiredPlatformAssurance nextRule.requiredPlatformAssurance
    || eligibleSetIsBroader priorRule.eligibleApproverIds nextRule.eligibleApproverIds

def witnessPolicyIsWeaker (prior next : WitnessPolicy) : Bool :=
  decide (next.witnessThreshold < prior.witnessThreshold)
    || prior.operationRules.any fun priorRule =>
      (next.operationRules.find? fun nextRule => nextRule.operation == priorRule.operation).all (ruleIsWeaker priorRule)

-- Whether direct access was added, witness policies changed, and one of them became weaker.
structure TransitionFlags where
  directDowngrade : Bool
  witnessChanged : Bool
  witnessWeakened : Bool
deriving DecidableEq

def replacements (operations : List PolicyOperationV1) : BTreeMap PrincipalId PrincipalId :=
  Std.ExtTreeMap.ofList
    (operations.filterMap fun operation =>
      match operation with
      | .principalReplace priorPrincipalId nextDescriptor _ => some (priorPrincipalId, nextDescriptor.principalId)
      | _ => none) compare

def directDowngraded (replaced : BTreeMap PrincipalId PrincipalId) (prior : Option ItemPolicyState)
    (next : ItemPolicyState) : Bool :=
  let priorDirectRecipients := ((prior.map (·.directSlots)).getD []).map fun slot =>
    replaced[slot.recipientPrincipalId]?.getD slot.recipientPrincipalId
  let nextDirectRecipients := next.directSlots.map (·.recipientPrincipalId)
  let priorMode := prior.bind (·.accessMode)
  (!nextDirectRecipients.isEmpty && !(priorMode == some .directOnly || priorMode == some .mixed))
    || nextDirectRecipients.any fun principal => !priorDirectRecipients.contains principal

def flagItem (current target : PolicyState) (replaced : BTreeMap PrincipalId PrincipalId) (flags : TransitionFlags)
    (itemId : ItemId) : Except MutationErrorKind TransitionFlags :=
  match target.items[itemId]? with
  | none => .ok flags
  | some next => do
    let prior := current.items[itemId]?
    let flags := { flags with directDowngrade := flags.directDowngrade || directDowngraded replaced prior next }
    let priorDigest := prior.bind witnessDigest
    let nextDigest := witnessDigest next
    if priorDigest = nextDigest then return flags
    else
      let flags := { flags with
        witnessChanged := flags.witnessChanged || (priorDigest.isSome || nextDigest.isSome) }
      match priorDigest, nextDigest with
      | some priorDigest, some nextDigest => do
        let priorPolicy ← orReject current.witnessPolicies[priorDigest]? .invalidCurrentState
        let nextPolicy ← orReject target.witnessPolicies[nextDigest]? .invalidPlan
        return { flags with witnessWeakened := flags.witnessWeakened || witnessPolicyIsWeaker priorPolicy nextPolicy }
      | _, _ => return flags

def transitionFlags (current target : PolicyState) (touched : BTreeSet ItemId) (operations : List PolicyOperationV1) :
    Except MutationErrorKind TransitionFlags :=
  touched.toList.foldlM (flagItem current target (replacements operations))
    { directDowngrade := false, witnessChanged := false, witnessWeakened := false }

def accessRule (policy : WitnessPolicy) (rule : OperationRule) : WitnessAccessRule where
  policyId := policy.witnessPolicyId
  policyRevision := policy.revision
  policyDigest := ZERO_DIGEST
  operation := rule.operation
  eligibleApproverIds := rule.eligibleApproverIds
  approvalThreshold := rule.approvalThreshold
  witnessIds := policy.activeWitnesses.map (·.witnessId)
  witnessThreshold := policy.witnessThreshold
  allowedRequestLifetimeMs := rule.allowedRequestLifetimeMs
  maxTimeoutMs := rule.maxTimeoutMs
  maxOutputBytes := rule.maxOutputBytes
  maxTargetCount := rule.maxTargetCount
  requiredPlatformAssurance := rule.requiredPlatformAssurance
  automaticReadTargets := rule.automaticReadTargets
  carriesQuorumClaim := false

structure RuleSatisfied (policy : WitnessPolicy) (rule : OperationRule) (manifest : ActionManifestV1)
    (approvers : List PrincipalId) : Prop where
  operation : rule.operation = manifest.operation
  approved : rule.approvalThreshold.toNat ≤ (rule.eligibleApproverIds.filter fun id => approvers.contains id).length
  automatic : validateAutomaticRule manifest (accessRule policy rule) = .ok ()
  ordered : manifest.issuedAtMs ≤ manifest.expiresAtMs
  lifetime : manifest.expiresAtMs - manifest.issuedAtMs ≤ rule.allowedRequestLifetimeMs
  workload : validateWorkloadLimits manifest (accessRule policy rule) = .ok ()

-- The policy releases the action on these approvals when this many witnesses contribute.
structure Authorizes (policy : WitnessPolicy) (manifest : ActionManifestV1) (approvers : List PrincipalId)
    (witnesses : Nat) : Prop where
  rule : ∃ rule ∈ policy.operationRules, RuleSatisfied policy rule manifest approvers
  quorum : policy.witnessThreshold.toNat ≤ witnesses

-- Whatever the next policy authorizes the prior one did.
def AuthorityKept (prior next : WitnessPolicy) : Prop :=
  ∀ manifest approvers witnesses, Authorizes next manifest approvers witnesses →
    Authorizes prior manifest approvers witnesses

-- What the comparison does not look at: operations that only the next policy has, and automatic reads.
def RulesCovered (prior next : WitnessPolicy) : Prop :=
  ∀ nextRule ∈ next.operationRules, ∃ priorRule ∈ prior.operationRules, priorRule.operation = nextRule.operation ∧
    (priorRule.approvalThreshold = 0 → nextRule.approvalThreshold = 0 ∧
      ∀ target ∈ nextRule.automaticReadTargets, target ∈ priorRule.automaticReadTargets)

-- An item of both states goes from one policy to the other.
structure MovesItem (current target : PolicyState) (itemId : ItemId) (prior next : WitnessPolicy) : Prop where
  before : ∃ item digest, current.items[itemId]? = some item ∧ witnessDigest item = some digest ∧
    current.witnessPolicies[digest]? = some prior
  after : ∃ item digest, target.items[itemId]? = some item ∧ witnessDigest item = some digest ∧
    target.witnessPolicies[digest]? = some next
  changed : (current.items[itemId]?.bind witnessDigest) ≠ target.items[itemId]?.bind witnessDigest

-- The change from one policy to the other passes without an acknowledgement: it does not count as
-- weaker, or an item is moved by operations whose flags do not say so.
def PassesSilently (prior next : WitnessPolicy) : Prop :=
  witnessPolicyIsWeaker prior next = false ∨
    ∃ current target touched operations flags itemId, transitionFlags current target touched operations = .ok flags ∧
      flags.witnessWeakened = false ∧ itemId ∈ touched ∧ MovesItem current target itemId prior next

theorem flagItem_weakened (h : flagItem current target replaced flags itemId = .ok out)
    (hout : out.witnessWeakened = false) :
    flags.witnessWeakened = false ∧
      ∀ prior next, MovesItem current target itemId prior next → witnessPolicyIsWeaker prior next = false := by
  unfold flagItem at h
  cases htarget : target.items[itemId]? with
  | none =>
    rw [htarget] at h
    obtain rfl := Except.ok.inj h
    refine ⟨hout, fun prior next hmoves => ?_⟩
    obtain ⟨item, -, hitem, -⟩ := hmoves.after
    rw [htarget] at hitem
    cases hitem
  | some nextItem =>
    simp only [htarget] at h
    split at h
    · rename_i hsame
      obtain rfl := Except.ok.inj h
      refine ⟨hout, fun prior next hmoves => absurd ?_ hmoves.changed⟩
      rw [htarget, hsame]
      rfl
    · split at h
      · rename_i priorDigest nextDigest hprior hnext
        simp only [eq_ok] at h
        obtain ⟨priorPolicy, hpriorPolicy, nextPolicy, hnextPolicy, rfl⟩ := h
        simp only [Bool.or_eq_false_iff] at hout
        refine ⟨hout.1, fun prior next hmoves => ?_⟩
        obtain ⟨item, digest, hitem, hdigest, hfound⟩ := hmoves.before
        obtain ⟨item', digest', hitem', hdigest', hfound'⟩ := hmoves.after
        rw [hitem, Option.bind_some, hdigest] at hprior
        obtain rfl := some_unique hitem' htarget
        rw [hdigest'] at hnext
        obtain rfl := Option.some.inj hprior
        obtain rfl := Option.some.inj hnext
        rw [hfound] at hpriorPolicy
        rw [hfound'] at hnextPolicy
        obtain rfl := Option.some.inj hpriorPolicy
        obtain rfl := Option.some.inj hnextPolicy
        exact hout.2
      · rename_i hnone
        obtain rfl := Except.ok.inj h
        refine ⟨hout, fun prior next hmoves => ?_⟩
        obtain ⟨item, digest, hitem, hdigest, -⟩ := hmoves.before
        obtain ⟨item', digest', hitem', hdigest', -⟩ := hmoves.after
        obtain rfl := some_unique hitem' htarget
        exact absurd hdigest' (hnone digest digest' (by rw [hitem, Option.bind_some, hdigest]))

-- The flag is raised once and stays, so that a run without it found no item weakened.
theorem foldlM_flagItem_weakened {itemIds : List ItemId}
    (h : itemIds.foldlM (flagItem current target replaced) flags = .ok out) (hout : out.witnessWeakened = false) :
    flags.witnessWeakened = false ∧ ∀ itemId ∈ itemIds, ∀ prior next, MovesItem current target itemId prior next →
      witnessPolicyIsWeaker prior next = false := by
  induction itemIds generalizing flags with
  | nil =>
    obtain rfl := Except.ok.inj h
    exact ⟨hout, by simp⟩
  | cons first rest ih =>
    obtain ⟨reached, hreach, hrest⟩ := foldlM_cons_eq_ok.mp h
    obtain ⟨hflag, htail⟩ := ih hrest
    obtain ⟨hstart, hfirst⟩ := flagItem_weakened hreach hflag
    refine ⟨hstart, fun itemId hmem => ?_⟩
    rcases List.mem_cons.mp hmem with rfl | hmem
    · exact hfirst
    · exact htail itemId hmem

theorem PassesSilently.not_weaker (h : PassesSilently prior next) : witnessPolicyIsWeaker prior next = false := by
  rcases h with hweaker | ⟨current, target, touched, operations, flags, itemId, hflags, hquiet, htouched, hmoves⟩
  · exact hweaker
  · exact (foldlM_flagItem_weakened hflags hquiet).2 itemId (Std.ExtTreeSet.mem_toList.mpr htouched) prior next hmoves

section Rules

structure RuleNarrowed (priorRule nextRule : OperationRule) : Prop where
  threshold : priorRule.approvalThreshold ≤ nextRule.approvalThreshold
  lifetime : nextRule.allowedRequestLifetimeMs ≤ priorRule.allowedRequestLifetimeMs
  timeout : nextRule.maxTimeoutMs ≤ priorRule.maxTimeoutMs
  output : nextRule.maxOutputBytes ≤ priorRule.maxOutputBytes
  targets : nextRule.maxTargetCount ≤ priorRule.maxTargetCount
  assurance : priorRule.requiredPlatformAssurance.tag ≤ nextRule.requiredPlatformAssurance.tag
  eligible : ∀ id ∈ nextRule.eligibleApproverIds, id ∈ priorRule.eligibleApproverIds

variable {rule : OperationRule} {policy : WitnessPolicy}

theorem ruleNarrowed_of_not_weaker (h : ruleIsWeaker priorRule nextRule = false) : RuleNarrowed priorRule nextRule := by
  simp only [ruleIsWeaker, passed, eligibleSetIsBroader, List.any_eq_false, Bool.not_eq_true', Bool.not_eq_false,
    List.contains_iff_mem, and_assoc] at h
  obtain ⟨hthr, hlifetime, htimeout, houtput, htargets, hassurance, heligible⟩ := h
  refine ⟨UInt8.not_lt.mp hthr, UInt64.not_lt.mp hlifetime, UInt64.not_lt.mp htimeout, UInt32.not_lt.mp houtput,
    UInt8.not_lt.mp htargets, ?_, heligible⟩
  generalize priorRule.requiredPlatformAssurance = prior at hassurance ⊢
  generalize nextRule.requiredPlatformAssurance = next at hassurance ⊢
  revert hassurance
  cases prior <;> cases next <;> decide

theorem approved_of_narrowed {approvers : List PrincipalId}
    (h : RuleNarrowed priorRule nextRule) (hvalid : nextRule.validate = .ok ())
    (happroved : nextRule.approvalThreshold.toNat ≤
      (nextRule.eligibleApproverIds.filter fun id => approvers.contains id).length) :
    priorRule.approvalThreshold.toNat ≤
      (priorRule.eligibleApproverIds.filter fun id => approvers.contains id).length := by
  have hnodup := ((OperationRule.validate_eq_ok hvalid).1).filter fun id => approvers.contains id
  have hsubset : (nextRule.eligibleApproverIds.filter fun id => approvers.contains id) ⊆
      priorRule.eligibleApproverIds.filter fun id => approvers.contains id := by
    intro id hid
    obtain ⟨hmem, happr⟩ := List.mem_filter.mp hid
    exact List.mem_filter.mpr ⟨h.eligible id hmem, happr⟩
  have hlen := (hnodup.subperm hsubset).length_le
  have hthr := UInt8.le_iff_toNat_le.mp h.threshold
  omega

theorem validateWorkloadLimits_eq_ok  :
    validateWorkloadLimits manifest (accessRule policy rule) = .ok u ↔
      manifest.timeoutMs ≤ rule.maxTimeoutMs ∧ manifest.outputLimitBytes ≤ rule.maxOutputBytes ∧
      manifest.approvalTarget.entries.length ≤ rule.maxTargetCount.toNat ∧
      rule.requiredPlatformAssurance.tag ≤ manifest.platformAssurance.tag := by
  simp only [validateWorkloadLimits, rejectIf_eq_ok, passed, gt_iff_lt, UInt64.not_lt, UInt32.not_lt, UInt8.not_lt,
    Nat.not_lt, and_assoc]
  exact Iff.rfl

theorem workload_of_narrowed (h : RuleNarrowed priorRule nextRule)
    (hworkload : validateWorkloadLimits manifest (accessRule next nextRule) = .ok ()) :
    validateWorkloadLimits manifest (accessRule prior priorRule) = .ok () := by
  rw [validateWorkloadLimits_eq_ok] at hworkload ⊢
  obtain ⟨htimeout, houtput, htargets, hassurance⟩ := hworkload
  have htargetCount := UInt8.le_iff_toNat_le.mp h.targets
  exact ⟨UInt64.le_trans htimeout h.timeout, UInt32.le_trans houtput h.output, by omega,
    UInt8.le_trans h.assurance hassurance⟩

theorem validateAutomaticRule_eq_ok  :
    validateAutomaticRule manifest (accessRule policy rule) = .ok u ↔
      (rule.approvalThreshold = 0 → manifest.operation = .readStdout ∧
        ∀ entry ∈ manifest.approvalTarget.entries,
          ⟨entry.itemId, manifest.contentRole, entry.fieldId⟩ ∈ rule.automaticReadTargets) := by
  unfold validateAutomaticRule
  by_cases hzero : rule.approvalThreshold = 0
  · have hlisted : automaticTargetsListed manifest (accessRule policy rule) = true ↔
        ∀ entry ∈ manifest.approvalTarget.entries,
          ⟨entry.itemId, manifest.contentRole, entry.fieldId⟩ ∈ rule.automaticReadTargets := by
      simp only [automaticTargetsListed, accessRule, List.all_eq_true, List.any_eq_true, holds]
      refine forall₂_congr fun entry _ => ⟨?_, fun hmem => ⟨_, hmem, ⟨rfl, rfl⟩, rfl⟩⟩
      rintro ⟨target, hmem, ⟨hitem, hrole⟩, hfield⟩
      rw [← hitem, ← hrole, ← hfield]
      exact hmem
    simp only [accessRule, hzero, bne_self_eq_false, Bool.false_eq_true, if_false, rejectIf_eq_ok, passed, true_imp_iff]
    rw [and_comm]
    exact and_congr_right fun _ => hlisted
  · simp [accessRule, hzero]

def firstIdentifier (kind : IdentifierKind) : Identifier kind := .repeated kind 1 (by decide)

-- The largest action that a rule allows, reading the given targets.
def probe (rule : OperationRule) (contentRole : ContentRole) (entries : List ApprovalTargetEntryV1) :
    ActionManifestV1 where
  schema := 1
  requestId := firstIdentifier .request
  vaultId := firstIdentifier .vault
  genesisFingerprint := ZERO_DIGEST
  itemId := firstIdentifier .item
  keyEpoch := 1
  itemAccessMode := .witnessedOnly
  slotId := firstIdentifier .slot
  contentRole
  revision := 1
  revisionSealId := firstIdentifier .revisionSeal
  vaultPolicySequence := 1
  vaultPolicyHash := ZERO_DIGEST
  witnessPolicyId := firstIdentifier .witnessPolicy
  witnessPolicyRevision := 1
  witnessPolicyDigest := ZERO_DIGEST
  requesterPrincipalId := firstIdentifier .principal
  requestedAccessRole := .owner
  operation := rule.operation
  operationContext := .readStdout
  approvalTarget := { entries, presentationDigest := ZERO_DIGEST }
  approvalTargetDigest := ZERO_DIGEST
  executableIdentity := none
  arguments := []
  workingDirectoryCommitment := none
  environmentInjections := []
  stdinTarget := none
  stdinMode := .none
  outputSink := .stdout
  outputSinkCommitment := none
  platformAssurance := rule.requiredPlatformAssurance
  timeoutMs := rule.maxTimeoutMs
  outputLimitBytes := rule.maxOutputBytes
  issuedAtMs := 0
  notBeforeMs := none
  expiresAtMs := rule.allowedRequestLifetimeMs
  presentationDigest := ZERO_DIGEST

theorem probe_satisfies {entries : List ApprovalTargetEntryV1} (hvalid : rule.validate = .ok ())
    (hcount : entries.length ≤ 1) (hautomatic : rule.approvalThreshold = 0 → ∀ entry ∈ entries,
      ⟨entry.itemId, contentRole, entry.fieldId⟩ ∈ rule.automaticReadTargets) :
    RuleSatisfied policy rule (probe rule contentRole entries) rule.eligibleApproverIds := by
  have hthr := (OperationRule.validate_eq_ok hvalid).2
  simp only [OperationRule.validate, rejectIf_eq_ok, Bool.or_eq_false_iff, beq_eq_false_iff_ne, and_assoc] at hvalid
  obtain ⟨-, -, -, -, -, -, htargets, -, -, -, -, hread, -⟩ := hvalid
  refine ⟨rfl, ?_, ?_, UInt64.zero_le, ?_, ?_⟩
  · have hall : (rule.eligibleApproverIds.filter fun id => rule.eligibleApproverIds.contains id) =
        rule.eligibleApproverIds := by
      apply List.filter_eq_self.mpr
      intro id hid
      exact List.contains_iff_mem.mpr hid
    rwa [hall]
  · refine validateAutomaticRule_eq_ok.mpr fun hzero => ⟨?_, hautomatic hzero⟩
    simp only [hzero, beq_self_eq_true, Bool.true_and, passed] at hread
    exact hread.1
  · simp [probe]
  · refine validateWorkloadLimits_eq_ok.mpr ⟨UInt64.le_refl _, UInt32.le_refl _, ?_, UInt8.le_refl _⟩
    have hpositive : 0 < rule.maxTargetCount.toNat := by
      rw [Nat.pos_iff_ne_zero]
      intro hzero
      exact htargets (UInt8.toNat_inj.mp hzero)
    exact hcount.trans hpositive

theorem body_not_automatic (hvalid : rule.validate = .ok ()) (itemId : ItemId) :
    ⟨itemId, .body, none⟩ ∉ rule.automaticReadTargets := by
  simp only [OperationRule.validate, rejectIf_eq_ok, Bool.or_eq_false_iff, List.any_eq_false] at hvalid
  obtain ⟨⟨⟨-, hshape⟩, -⟩, -⟩ := hvalid
  intro hmem
  exact hshape _ hmem rfl

variable [Crypto] {prior next : WitnessPolicy}

theorem operations_nodup (h : prior.validate = .ok u) : (prior.operationRules.map (·.operation)).Nodup := by
  simp only [WitnessPolicy.validate, eq_ok, passed] at h
  obtain ⟨_, ⟨⟨⟨-, hsorted⟩, -⟩, -⟩, -⟩ := h
  exact nodup_of_sortedByKey hsorted

theorem rule_unique (h : prior.validate = .ok u) (hrule : rule ∈ prior.operationRules)
    (hother : other ∈ prior.operationRules) (hop : rule.operation = other.operation) : rule = other :=
  List.inj_on_of_nodup_map (operations_nodup h) hrule hother hop

theorem narrowed_of_not_weaker (hnext : next.validate = .ok u) (h : witnessPolicyIsWeaker prior next = false)
    (hpriorRule : priorRule ∈ prior.operationRules)
    (hnextRule : nextRule ∈ next.operationRules) (hop : priorRule.operation = nextRule.operation) :
    RuleNarrowed priorRule nextRule := by
  simp only [witnessPolicyIsWeaker, Bool.or_eq_false_iff, List.any_eq_false, Bool.not_eq_true] at h
  have hrule := h.2 priorRule hpriorRule
  cases hfound : next.operationRules.find? fun rule => rule.operation == priorRule.operation with
  | none => simp [hfound] at hrule
  | some found =>
    rw [hfound, Option.all_some] at hrule
    have hsame := List.find?_some hfound
    rw [beq_iff_eq] at hsame
    have hunique := rule_unique hnext (List.mem_of_find?_eq_some hfound) hnextRule (hsame.trans hop)
    exact ruleNarrowed_of_not_weaker (hunique ▸ hrule)

theorem authorityKept_of_covered (hnext : next.validate = .ok ()) (hweaker : witnessPolicyIsWeaker prior next = false)
    (hcovered : RulesCovered prior next) : AuthorityKept prior next := by
  intro manifest approvers witnesses hauthorized
  obtain ⟨⟨nextRule, hnextRule, hsatisfied⟩, hquorum⟩ := hauthorized
  obtain ⟨priorRule, hpriorRule, hop, hautomatic⟩ := hcovered nextRule hnextRule
  have hnarrowed := narrowed_of_not_weaker hnext hweaker hpriorRule hnextRule hop
  have hvalid := WitnessPolicy.validate_rules hnext hnextRule
  refine ⟨⟨priorRule, hpriorRule, ?_⟩, ?_⟩
  · refine {
      operation := hop.trans hsatisfied.operation
      approved := approved_of_narrowed hnarrowed hvalid hsatisfied.approved
      automatic := validateAutomaticRule_eq_ok.mpr fun hzero => ?_
      ordered := hsatisfied.ordered
      lifetime := UInt64.le_trans hsatisfied.lifetime hnarrowed.lifetime
      workload := workload_of_narrowed hnarrowed hsatisfied.workload }
    obtain ⟨hnextZero, htargets⟩ := hautomatic hzero
    obtain ⟨hread, hlisted⟩ := validateAutomaticRule_eq_ok.mp hsatisfied.automatic hnextZero
    exact ⟨hread, fun entry hentry => htargets _ (hlisted entry hentry)⟩
  · simp only [witnessPolicyIsWeaker, passed, UInt8.not_lt] at hweaker
    have hthr := UInt8.le_iff_toNat_le.mp hweaker.1
    omega

theorem covered_of_authorityKept (hprior : prior.validate = .ok ()) (hnext : next.validate = .ok ())
    (hkept : AuthorityKept prior next) : RulesCovered prior next := by
  intro nextRule hnextRule
  have hvalid := WitnessPolicy.validate_rules hnext hnextRule
  -- What any action of the rule tells about the prior policy.
  have hcase : ∀ (contentRole : ContentRole) (entries : List ApprovalTargetEntryV1), entries.length ≤ 1 →
      (nextRule.approvalThreshold = 0 → ∀ entry ∈ entries,
        ⟨entry.itemId, contentRole, entry.fieldId⟩ ∈ nextRule.automaticReadTargets) →
      ∃ priorRule ∈ prior.operationRules, priorRule.operation = nextRule.operation ∧
        (priorRule.approvalThreshold = 0 → ∀ entry ∈ entries,
          ⟨entry.itemId, contentRole, entry.fieldId⟩ ∈ priorRule.automaticReadTargets) := by
    intro contentRole entries hcount hautomatic
    have hauthorized : Authorizes next (probe nextRule contentRole entries) nextRule.eligibleApproverIds
        next.witnessThreshold.toNat :=
      ⟨⟨nextRule, hnextRule, probe_satisfies hvalid hcount hautomatic⟩, Nat.le_refl _⟩
    obtain ⟨priorRule, hpriorRule, hsatisfied⟩ := (hkept _ _ _ hauthorized).rule
    refine ⟨priorRule, hpriorRule, hsatisfied.operation, fun hzero => ?_⟩
    exact (validateAutomaticRule_eq_ok.mp hsatisfied.automatic hzero).2
  obtain ⟨priorRule, hpriorRule, hop, -⟩ := hcase .body [] (by simp) (by simp)
  have hunique : ∀ other ∈ prior.operationRules, other.operation = nextRule.operation → other = priorRule :=
    fun other hother hsame => rule_unique hprior hother hpriorRule (hsame.trans hop.symm)
  refine ⟨priorRule, hpriorRule, hop, fun hzero => ⟨?_, ?_⟩⟩
  · -- With approvals the next rule would read a whole body.
    by_contra hnonzero
    obtain ⟨other, hother, hsame, hlisted⟩ := hcase .body [⟨firstIdentifier .item, none, ZERO_DIGEST⟩] (by simp)
      (fun habsurd => absurd habsurd hnonzero)
    obtain rfl := hunique other hother hsame
    exact body_not_automatic (WitnessPolicy.validate_rules hprior hpriorRule) _ (hlisted hzero _ List.mem_cons_self)
  · intro target htarget
    obtain ⟨other, hother, hsame, hlisted⟩ := hcase target.contentRole [⟨target.itemId, target.fieldId, ZERO_DIGEST⟩]
      (by simp) (fun _ entry hentry => by rw [List.mem_singleton.mp hentry]; exact htarget)
    obtain rfl := hunique other hother hsame
    exact hlisted hzero _ List.mem_cons_self

-- A change of policy that passes silently keeps the authority over an item exactly when it brings no
-- operation of its own and reads nothing automatically that was not read so before.
theorem authority_kept_iff (prior next : WitnessPolicy) (hprior : prior.validate = .ok ())
    (hnext : next.validate = .ok ()) (hsilent : PassesSilently prior next) :
    AuthorityKept prior next ↔ RulesCovered prior next :=
  ⟨covered_of_authorityKept hprior hnext, authorityKept_of_covered hnext hsilent.not_weaker⟩

end Rules

end Jury.Mutation

namespace Jury.Mutation.Sample

open Policy Engine Protocol.Sample Policy.Sample

def stricterPolicy : WitnessPolicy :=
  { witnessPolicy with operationRules := [{ readRule with approvalThreshold := 2 }] }

theorem authority_kept_stricter : AuthorityKept witnessPolicy stricterPolicy := by
  have hprior : witnessPolicy.validate = .ok () := by decide +kernel
  have hnext : stricterPolicy.validate = .ok () := by decide +kernel
  have hsilent : PassesSilently witnessPolicy stricterPolicy := .inl (by decide +kernel)
  refine (authority_kept_iff witnessPolicy stricterPolicy hprior hnext hsilent).mpr ?_
  intro nextRule hnextRule
  obtain rfl := List.mem_singleton.mp hnextRule
  exact ⟨readRule, List.mem_cons_self, rfl, fun hzero => absurd hzero (by decide)⟩

def automaticPolicy (fields : List UInt8) : WitnessPolicy :=
  { witnessPolicy with
    operationRules := [{ readRule with
      eligibleApproverIds := []
      approvalThreshold := 0
      automaticReadTargets := fields.map fun field => ⟨witnessedItem, .body, some (identifier .field field)⟩ }] }

-- One more field is read automatically, and the change does not count as weaker.
theorem automatic_reads_widened :
    (automaticPolicy [2]).validate = .ok () ∧ (automaticPolicy [1, 2]).validate = .ok () ∧
      witnessPolicyIsWeaker (automaticPolicy [2]) (automaticPolicy [1, 2]) = false ∧
      (Engine.Sample.manifest 1 10000 20000).validateShape = .ok () ∧
      Authorizes (automaticPolicy [1, 2]) (Engine.Sample.manifest 1 10000 20000) [] 2 ∧
      ¬ Authorizes (automaticPolicy [2]) (Engine.Sample.manifest 1 10000 20000) [] 2 := by
  refine ⟨by decide +kernel, by decide +kernel, by decide +kernel, by decide +kernel, ?_, ?_⟩
  · refine ⟨⟨_, List.mem_cons_self, by decide +kernel, by decide +kernel, by decide +kernel, by decide +kernel,
      by decide +kernel, by decide +kernel⟩, by decide +kernel⟩
  · rintro ⟨⟨rule, hrule, hsatisfied⟩, -⟩
    obtain rfl := List.mem_singleton.mp hrule
    have hrefused : validateAutomaticRule (Engine.Sample.manifest 1 10000 20000) (accessRule (automaticPolicy [2])
        { readRule with
          eligibleApproverIds := []
          approvalThreshold := 0
          automaticReadTargets := [⟨witnessedItem, .body, some (identifier .field 2)⟩] }) ≠ .ok () := by
      decide +kernel
    exact hrefused hsatisfied.automatic

end Jury.Mutation.Sample
