import Jury.Engine.Capsules
import Jury.Engine.Response

-- The checks that an endpoint makes of a request, and those that a witness makes of it. A witness asks for more: it has
-- to be a member, the request has to be in time, and the share in the slot has to be its own.
namespace Jury.Engine

open Lib Protocol Vault Witness Policy

def seatOf (slot : WitnessedSlotV1) (witnessId : PrincipalId) : Option Seat :=
  (slot.capsules.find? fun capsule => capsule.witnessId == witnessId).map capsuleSeat

def requestedSlot (state : PolicyState) (request : WitnessRequestV1) : Option WitnessedSlotV1 := do
  let policy ← state.witnessPolicies[request.witnessPolicyDigest]?
  let item ← state.items[request.itemId]?
  let witnessed ← item.witnessedState
  witnessed.slots.find? (slotMatches request policy)

-- The requested slot deals a witness the index and the key that the first slot of its item does. Replay has compared
-- those of the first slot with the policy.
def DealtAsFirst (state : PolicyState) (request : WitnessRequestV1) (witnessId : PrincipalId) : Prop :=
  ∀ item ∈ state.items[request.itemId]?, ∀ witnessed ∈ item.witnessedState, ∀ first ∈ witnessed.slots.head?,
    ∀ slot ∈ requestedSlot state request, seatOf slot witnessId = seatOf first witnessId

-- A witness that the policy counts among its active members, under the keys that the witness holds.
structure ActiveMember (policy : WitnessPolicy) (identity : WitnessEngineIdentity) (own : PrincipalDescriptorV1)
    (descriptor : WitnessPolicyDescriptor) : Prop where
  active : descriptor ∈ policy.activeWitnesses
  shown : identity.publicDescriptor = some own
  named : identity.principalId = descriptor.witnessId ∧ own.principalId = descriptor.witnessId
  verification : own.verificationPublicKey = descriptor.signingPublicKey
  recipient : own.recipientPublicKey = descriptor.contributionPublicKey

variable [Crypto] {checkpoint : VaultPolicyCheckpointV1} {request : WitnessRequestV1} {manifest : ActionManifestV1}
  {validated : ValidatedRequestPolicy}

structure Admits (identity : WitnessEngineIdentity) (state : PolicyState) (checkpoint : VaultPolicyCheckpointV1)
    (request : WitnessRequestV1) (nowMs : UInt64) (validated : ValidatedRequestPolicy) (out : ValidatedRequest) :
    Prop where
  member : validateCheckpoint state checkpoint identity = .ok ()
  time : validateRequestTime request nowMs = .ok ()
  own : validateOwnCapsule identity validated = .ok out.capsule
  suite : VaultSuite.fromId validated.slot.suite = some out.suite
  same : out.rule = validated.rule ∧ out.policy = validated.policy ∧
    out.capsuleSetDigest = validated.slot.capsuleSetDigest

variable {state : PolicyState}

theorem validateCheckpointPublic_eq_ok (h : validateCheckpointPublic state checkpoint = .ok policies) :
    (checkpoint.vaultId = state.vaultId ∧ checkpoint.genesisFingerprint = state.genesisFingerprint ∧
      checkpoint.vaultPolicySequence = state.sequence ∧ checkpoint.vaultPolicyHash = state.terminalRevisionHash) ∧
    ∀ digest policy, ActivePolicy state digest policy → policy ∈ policies := by
  simp only [validateCheckpointPublic, validateCheckpointPolicy, eq_ok, passed] at h
  obtain ⟨-, -, -, ⟨⟨⟨hvault, hgen⟩, hseq⟩, hhash⟩, entries, hents, -, -, -, -, -, -, -, -, -, -, -, -,
    rfl⟩ := h
  refine ⟨⟨hvault, hgen, hseq, hhash⟩, fun digest policy hactive => ?_⟩
  exact List.mem_map.mpr ⟨(digest, policy), (activeWitnessPolicyEntries_eq_ok hents).2 digest policy hactive, rfl⟩

-- A witness makes the public checks against the checkpoint that it has stored, and its own.
theorem validateRequest_iff : validateRequest identity state logical request manifest nowMs = .ok out ↔
      ∃ registered validated, logical.vaults[request.vaultId]? = some registered ∧
        PublicRequest state registered.currentCheckpoint request manifest validated ∧
        Admits identity state registered.currentCheckpoint request nowMs validated out := by
  constructor
  · intro h
    simp only [validateRequest, eq_ok] at h
    obtain ⟨_, hman, _, hstored, _, htime, validated, hgoverned, _, hworkload, _, hautomatic, capsule, hown, suite,
      hsuite, rfl⟩ := h
    obtain ⟨registered, hreg, hckpt⟩ := validateStoredCheckpoint_eq_ok hstored
    have hvalid := hckpt.valid
    simp only [validateCheckpoint, bind_eq_ok] at hvalid
    obtain ⟨policies, hpols, -⟩ := hvalid
    refine ⟨registered, validated, hreg, ⟨hman, ⟨policies, hpols⟩,
      ⟨request.policyCheckpointDigest, hckpt.named, ?_⟩, hgoverned, hworkload, hautomatic⟩,
      hckpt.valid, htime, hown, hsuite, rfl, rfl, rfl⟩
    obtain ⟨⟨hvault, hgen, hseq, hhash⟩, -⟩ := validateCheckpointPublic_eq_ok hpols
    simp only [validateManifestPolicy, eq_ok] at hgoverned
    obtain ⟨_, hpolicy, -, -, rfl⟩ := hgoverned
    have hgranted := validateRequestPolicy_eq_ok hpolicy
    simp [requestMatchesCheckpoint, hvault, hgen, hseq, hhash, hgranted.vault, hgranted.history]
  · rintro ⟨registered, validated, hreg, hpublic, hadmits⟩
    obtain ⟨policies, hpols⟩ := hpublic.published
    obtain ⟨⟨-, -, hseq, -⟩, -⟩ := validateCheckpointPublic_eq_ok hpols
    have hstored : validateStoredCheckpoint identity state logical request = .ok () := by
      simp only [validateStoredCheckpoint, validateRegisteredCheckpoint, eq_ok, orRefuse_eq_ok, passed]
      exact ⟨registered, hreg, (), ⟨(), by simp [hseq], (), by simp [hseq], hadmits.member⟩, _,
        hpublic.checkpointDigest, rfl⟩
    simp only [validateRequest, eq_ok]
    refine ⟨(), hpublic.described, (), hstored, (), hadmits.time, validated, hpublic.governed, (), hpublic.workload, (),
      hpublic.automatic, _, hadmits.own, _, hadmits.suite, ?_⟩
    obtain ⟨hrule, hpolicy, hdigest⟩ := hadmits.same
    rw [← hrule, ← hpolicy, ← hdigest]

theorem PublicRequest.requested (h : PublicRequest state checkpoint request manifest validated) :
    ∃ item witnessed, state.items[request.itemId]? = some item ∧ item.witnessedState = some witnessed ∧
      validated.slot ∈ witnessed.slots ∧ requestedSlot state request = some validated.slot ∧
      ActivePolicy state validated.slot.witnessPolicyDigest validated.policy := by
  have hgoverned := h.governed
  simp only [validateManifestPolicy, validateRequestPolicy, validateWitnessSet, validateSlot, eq_ok,
    Option.bind_eq_some_iff] at hgoverned
  obtain ⟨_, ⟨-, -, -, -, -, -, rule, -, -, -, -, -, -, -, policy, ⟨_, hpolicy, -, -, -, -, -, -, -, -, -, -, rfl⟩, _,
    ⟨item, hitem, -, -, slot, ⟨witnessed, hwit, hfound⟩, -, -, rfl⟩, rfl⟩, -, -, rfl⟩ := hgoverned
  have hmem := List.mem_of_find?_eq_some hfound
  have hdigest : slot.witnessPolicyDigest = request.witnessPolicyDigest := by
    have hmatches := List.find?_some hfound
    simp only [slotMatches, holds] at hmatches
    exact hmatches.2
  refine ⟨item, witnessed, hitem, hwit, hmem, ?_, ⟨request.itemId, item, hitem, slot, ?_, rfl⟩, hdigest ▸ hpolicy⟩
  · simp [requestedSlot, hpolicy, hitem, hwit, hfound]
  · simpa [ItemPolicyState.witnessedSlots, hwit] using hmem

theorem ActiveMember.accepts_checkpoint (h : ActiveMember validated.policy identity own descriptor)
    (hpublic : PublicRequest state checkpoint request manifest validated) :
    validateCheckpoint state checkpoint identity = .ok () := by
  obtain ⟨policies, hpols⟩ := hpublic.published
  obtain ⟨-, -, -, -, -, -, hactive⟩ := hpublic.requested
  have hlisted := (validateCheckpointPublic_eq_ok hpols).2 _ _ hactive
  obtain ⟨hmem, hstatus⟩ := List.mem_filter.mp h.active
  simp only [validateCheckpoint, eq_ok, Bool.not_eq_false', List.any_eq_true, holds]
  exact ⟨policies, hpols, own, h.shown, validated.policy, hlisted, descriptor, hmem,
    ⟨⟨beq_iff_eq.mp hstatus, h.named.2.symm⟩, h.verification.symm⟩, h.recipient.symm⟩

-- The seat of a member in the first slot is the one in its policy, so that the requested slot is compared with both.
theorem ActiveMember.seat_iff (policy : ReplayedPolicy) (h : ActiveMember validated.policy identity own descriptor)
    (hpublic : PublicRequest policy.state checkpoint request manifest validated) :
    (∃ capsule, validateOwnCapsule identity validated = .ok capsule) ↔
      DealtAsFirst policy.state request identity.principalId := by
  obtain ⟨item, witnessed, hitem, hwit, hslot, hrequested, hactive⟩ := hpublic.requested
  obtain ⟨first, bound, hhead, hfirst, hfollows, hshaped⟩ := replayed_firstBound policy hitem hwit
  have hfirstShaped := hshaped first (List.mem_of_head? hhead)
  obtain rfl : bound = validated.policy := by
    have hfound := hactive.found
    rw [(hfollows _ hslot).policy, hfirst.found] at hfound
    exact Option.some.inj hfound
  have hown : ∀ capsule, validateOwnCapsule identity validated = .ok capsule ↔
      validated.slot.capsules.find? (fun capsule => capsule.witnessId == identity.principalId) = some capsule ∧
      capsuleSeat capsule = descriptorSeat descriptor := fun capsule =>
    validateOwnCapsule_eq_ok (hfirst.apart hfirstShaped) h.active h.named.1 h.shown h.verification h.recipient
  have hkept : seatOf first identity.principalId = some (descriptorSeat descriptor) := by
    obtain ⟨capsule, hcapsule, hseat⟩ :=
      List.mem_map.mp ((hfirst.seats hfirstShaped).mem_iff.mpr (List.mem_map_of_mem h.active))
    have hwitness : capsule.witnessId = identity.principalId := (congrArg Seat.witnessId hseat).trans h.named.1.symm
    rw [seatOf, (find?_of_apart hfirstShaped.apart).mpr ⟨hcapsule, hwitness⟩, Option.map_some, hseat]
  constructor
  · rintro ⟨capsule, hcapsule⟩ other hother state hstate head hhead' slot hfound
    obtain rfl := some_unique hitem hother
    obtain rfl := some_unique hwit hstate
    obtain rfl := some_unique hhead hhead'
    obtain rfl := some_unique hrequested hfound
    obtain ⟨hdealt, hseat⟩ := (hown capsule).mp hcapsule
    rw [hkept, seatOf, hdealt, Option.map_some, hseat]
  · intro hdealt
    have hsame := hdealt item hitem witnessed hwit first hhead validated.slot hrequested
    rw [hkept, seatOf, Option.map_eq_some_iff] at hsame
    obtain ⟨capsule, hcapsule⟩ := hsame
    exact ⟨capsule, (hown capsule).mpr hcapsule⟩

theorem validators_agree_iff (policy : ReplayedPolicy) (identity : WitnessEngineIdentity)
    (logical : WitnessLogicalState) (request : WitnessRequestV1) (manifest : ActionManifestV1) (nowMs : UInt64) :
    (∀ out, validateRequest identity policy.state logical request manifest nowMs = .ok out →
      ∃ registered slot, logical.vaults[request.vaultId]? = some registered ∧
        validatePublicRequest policy.state registered.currentCheckpoint request manifest =
          .ok { rule := out.rule, policy := out.policy, slot } ∧
        slot.capsules.find? (fun capsule => capsule.witnessId == identity.principalId) = some out.capsule ∧
        slot.capsuleSetDigest = out.capsuleSetDigest) ∧
    ∀ registered validated own descriptor, logical.vaults[request.vaultId]? = some registered →
      validatePublicRequest policy.state registered.currentCheckpoint request manifest = .ok validated →
      validateRequestTime request nowMs = .ok () → ActiveMember validated.policy identity own descriptor →
      ((∃ out, validateRequest identity policy.state logical request manifest nowMs = .ok out) ↔
        DealtAsFirst policy.state request identity.principalId) := by
  constructor
  · intro out h
    obtain ⟨registered, ⟨_, _, slot⟩, hreg, hpublic, hadmits⟩ := validateRequest_iff.mp h
    obtain ⟨rfl, rfl, hdigest⟩ := hadmits.same
    have hown := hadmits.own
    simp only [validateOwnCapsule, eq_ok] at hown
    obtain ⟨_, hcapsule, -, -, -, -, -, -, rfl⟩ := hown
    exact ⟨registered, slot, hreg, validatePublicRequest_eq_ok.mpr hpublic, hcapsule, hdigest.symm⟩
  · intro registered validated own descriptor hreg hpublic htime hmember
    rw [validatePublicRequest_eq_ok] at hpublic
    rw [← hmember.seat_iff policy hpublic]
    constructor
    · rintro ⟨out, hout⟩
      obtain ⟨other, found, hother, hfound, hadmits⟩ := validateRequest_iff.mp hout
      obtain rfl := some_unique hreg hother
      rw [publicRequest_unique hpublic hfound]
      exact ⟨_, hadmits.own⟩
    · rintro ⟨capsule, hcapsule⟩
      obtain ⟨suite, hsuite⟩ : ∃ suite, VaultSuite.fromId validated.slot.suite = some suite := by
        obtain ⟨item, witnessed, hitem, hwit, hslot, -⟩ := hpublic.requested
        obtain ⟨_, _, -, -, hfollows, -⟩ := replayed_firstBound policy hitem hwit
        rw [(hfollows _ hslot).suite]
        exact replayed_suite policy
      exact ⟨⟨suite, validated.rule, validated.policy, capsule, validated.slot.capsuleSetDigest⟩,
        validateRequest_iff.mpr ⟨registered, validated, hreg, hpublic, hmember.accepts_checkpoint hpublic,
          htime, hcapsule, hsuite, rfl, rfl, rfl⟩⟩

end Jury.Engine

namespace Jury.Engine.Sample

open Lib Protocol Witness Protocol.Sample Policy.Sample

def standing (currentCheckpoint : VaultPolicyCheckpointV1) : RegisteredWitnessVault where
  acceptedRegistration := ⟨∅, by decide⟩
  currentCheckpoint
  currentPolicyMaterial := ⟨∅, by decide⟩

def storing (checkpoint : VaultPolicyCheckpointV1) : WitnessLogicalState :=
  { WitnessLogicalState.empty (identifier .principal 6) with
    vaults := (∅ : BTreeMap VaultId RegisteredWitnessVault).insert checkpoint.vaultId (standing checkpoint) }

theorem second_member : ActiveMember witnessPolicy (witness 6) (descriptor .witness 6) (witnessDescriptor 6 2) :=
  ⟨by decide +kernel, rfl, ⟨rfl, rfl⟩, by decide +kernel, by decide +kernel⟩

theorem validators_agree_body :
    ∃ out, validateRequest (witness 6) policy.state (storing checkpoint) (request 1 (manifest 1 3000 4000))
      (manifest 1 3000 4000) 3100 = .ok out := by
  have hpublic : (·.policy) <$> validatePublicRequest policy.state checkpoint (request 1 (manifest 1 3000 4000))
      (manifest 1 3000 4000) = .ok witnessPolicy := by decide +kernel
  obtain ⟨validated, hpublic, hpolicy⟩ := map_eq_ok.mp hpublic
  refine ((validators_agree_iff policy (witness 6) (storing checkpoint) (request 1 (manifest 1 3000 4000))
    (manifest 1 3000 4000) 3100).2 (standing checkpoint) validated _ _ ?_ hpublic (by decide +kernel)
      (hpolicy ▸ second_member)).mpr ?_
  · decide +kernel
  · unfold DealtAsFirst
    decide +kernel

def crookedCheckpoint : VaultPolicyCheckpointV1 := checkpointOf crooked 1 ZERO_DIGEST 2000

def crookedManifest : ActionManifestV1 :=
  { manifest 1 3000 4000 with
    vaultPolicySequence := crooked.state.sequence
    vaultPolicyHash := crooked.state.terminalRevisionHash }

def crookedRequest : WitnessRequestV1 :=
  let unsigned := { request 1 crookedManifest with policyCheckpointDigest := digestOf crookedCheckpoint.digest }
  { unsigned with clientSignature := sign (verificationKey 1) (unsigned.signaturePreimage.toOption.getD ∅) }

theorem crooked_request_refused :
    (·.policy) <$> validatePublicRequest crooked.state crookedCheckpoint crookedRequest crookedManifest =
      .ok witnessPolicy ∧
    validateRequestTime crookedRequest 3100 = .ok () ∧
    ActiveMember witnessPolicy (witness 6) (descriptor .witness 6) (witnessDescriptor 6 2) ∧
    validateRequest (witness 6) crooked.state (storing crookedCheckpoint) crookedRequest crookedManifest 3100 =
      .error (refused .policyDenied) :=
  ⟨by decide +kernel, by decide +kernel, second_member, by decide +kernel⟩

end Jury.Engine.Sample
