import Jury.Engine.Run
import Jury.Policy.Replay.Active

-- Which witnessed slots the members of a witness policy can work with. Replay compares the capsules of
-- the first slot of an item with the policy, and those of the others only with the witnesses of the first.
namespace Jury.Engine

open Lib Protocol Vault Policy

structure Seat where
  witnessId : PrincipalId
  shareIndex : UInt8
  contributionKeyFingerprint : Digest32
deriving DecidableEq

def capsuleSeat (capsule : WitnessShareCapsuleV1) : Seat :=
  ⟨capsule.witnessId, capsule.shareIndex, capsule.contributionKeyFingerprint⟩

def descriptorSeat (descriptor : WitnessPolicyDescriptor) : Seat :=
  ⟨descriptor.witnessId, descriptor.shareIndex, descriptor.contributionKeyFingerprint⟩

def HoldsKeys (state : PolicyState) (identity : WitnessEngineIdentity) : Prop :=
  ∃ principal, state.principals[identity.principalId]? = some principal ∧
    identity.publicDescriptor = some principal.descriptor

structure SlotUsable (state : PolicyState) (policy : WitnessPolicy) (slot : WitnessedSlotV1) : Prop where
  seats : (slot.capsules.map capsuleSeat).Perm (policy.activeWitnesses.map descriptorSeat)
  threshold : slot.threshold = policy.witnessThreshold
  memberCount : slot.memberCount.toNat = policy.activeWitnesses.length
  suite : slot.suite = policy.suite
  accepted : ∀ descriptor ∈ policy.activeWitnesses, ∀ identity : WitnessEngineIdentity,
    identity.principalId = descriptor.witnessId → HoldsKeys state identity →
    ∀ rule, ∃ capsule, validateOwnCapsule identity { rule, policy, slot } = .ok capsule

def SlotsUsable (state : PolicyState) : Prop :=
  ∀ (itemId : ItemId) (item : ItemPolicyState) (witnessed : WitnessedStateV1), state.items[itemId]? = some item →
    item.witnessedState = some witnessed → ∀ slot ∈ witnessed.slots, ∃ policy,
      state.witnessPolicies[slot.witnessPolicyDigest]? = some policy ∧ SlotUsable state policy slot

-- The slots of one item deal their shares under the same indexes and to the same keys.
def DealtAlike (witnessed : WitnessedStateV1) : Prop :=
  ∀ slot ∈ witnessed.slots, ∀ other ∈ witnessed.slots,
    slot.capsules.map (fun capsule => (capsule.shareIndex, capsule.contributionKeyFingerprint)) =
      other.capsules.map (fun capsule => (capsule.shareIndex, capsule.contributionKeyFingerprint))

instance (witnessed : WitnessedStateV1) : Decidable (DealtAlike witnessed) :=
  inferInstanceAs (Decidable (∀ slot ∈ witnessed.slots, ∀ other ∈ witnessed.slots, _ = _))

variable {capsules : List WitnessShareCapsuleV1} {slot : WitnessedSlotV1} {itemId : ItemId}
variable {witnessed : WitnessedStateV1} {policy : WitnessPolicy}
variable {descriptor : WitnessPolicyDescriptor}

theorem map_capsuleSeat_eq_iff {others : List WitnessShareCapsuleV1} :
    capsules.map capsuleSeat = others.map capsuleSeat ↔
      capsules.map (·.witnessId) = others.map (·.witnessId) ∧
      capsules.map (fun capsule => (capsule.shareIndex, capsule.contributionKeyFingerprint)) =
        others.map (fun capsule => (capsule.shareIndex, capsule.contributionKeyFingerprint)) := by
  induction capsules generalizing others with
  | nil => simp
  | cons first rest ih =>
    cases others with
    | nil => simp
    | cons other others =>
      simp only [List.map_cons, List.cons.injEq, ih, capsuleSeat, Seat.mk.injEq, Prod.mk.injEq]
      tauto

theorem map_witnessId_seats (capsules : List WitnessShareCapsuleV1) :
    (capsules.map capsuleSeat).map (·.witnessId) = capsules.map (·.witnessId) := by
  rw [List.map_map]
  rfl

theorem map_witnessId_descriptors (descriptors : List WitnessPolicyDescriptor) :
    (descriptors.map descriptorSeat).map (·.witnessId) = descriptors.map (·.witnessId) := by
  rw [List.map_map]
  rfl

theorem seats_eq_of_perm {seats : List Seat} (hperm : seats.Perm others)
    (hids : seats.map (·.witnessId) = others.map (·.witnessId)) (hnodup : (others.map (·.witnessId)).Nodup) :
    seats = others := by
  have hlen : seats.length = others.length := hperm.length_eq
  refine List.ext_getElem hlen fun index hseat hother => ?_
  refine List.inj_on_of_nodup_map hnodup (hperm.mem_iff.mp (List.getElem_mem hseat)) (List.getElem_mem hother) ?_
  have hat := congrArg (fun ids => ids[index]?) hids
  simpa [hseat, hother] using hat

section Shape

structure SlotShaped (slot : WitnessedSlotV1) : Prop where
  counted : slot.memberCount.toNat = slot.capsules.length
  apart : (slot.capsules.map (·.witnessId)).Nodup

variable [Crypto]

theorem scanCapsule_apart (h : capsules.foldlM (scanCapsule slot) scan = .ok out) :
    (capsules.map (·.witnessId)).Nodup ∧ ∀ capsule ∈ capsules, capsule.witnessId ∉ scan.witnesses := by
  induction capsules generalizing scan with
  | nil => simp
  | cons first rest ih =>
    simp only [foldlM_cons_eq_ok, scanCapsule, eq_ok, Bool.or_eq_false_iff] at h
    obtain ⟨_, ⟨-, -, -, ⟨⟨-, hfresh⟩, -⟩, rfl⟩, hrest⟩ := h
    obtain ⟨hnodup, hnew⟩ := ih hrest
    have hunseen := not_mem_of_contains hfresh
    refine ⟨List.nodup_cons.mpr ⟨fun hmem => ?_, hnodup⟩, fun capsule hcapsule => ?_⟩
    · obtain ⟨capsule, hcapsule, hsame⟩ := List.mem_map.mp hmem
      exact hnew capsule hcapsule (hsame ▸ Std.ExtTreeSet.mem_insert_self)
    · rcases List.mem_cons.mp hcapsule with rfl | hcapsule
      · exact hunseen
      · exact fun hmem => hnew capsule hcapsule (Std.ExtTreeSet.mem_insert.mpr (.inr hmem))

theorem validateWitnessedSlot_shaped {vaultId : VaultId} {genesisFingerprint : Digest32}
    {keyEpoch sequence : UInt64} {mode : ItemAccessMode} {u : Unit}
    (h : validateWitnessedSlot slot vaultId genesisFingerprint itemId keyEpoch sequence mode = .ok u) :
    SlotShaped slot := by
  simp only [validateWitnessedSlot, eq_ok, passed] at h
  obtain ⟨-, ⟨-, hcounted⟩, scan, hscan, -⟩ := h
  exact ⟨hcounted, (scanCapsule_apart hscan).1⟩

def SlotsShaped (state : PolicyState) : Prop :=
  ∀ (itemId : ItemId) (item : ItemPolicyState), state.items[itemId]? = some item →
    ∀ witnessed, item.witnessedState = some witnessed → ∀ slot ∈ witnessed.slots, SlotShaped slot

theorem replayRevision_slotsShaped (hprior : SlotsShaped prior)
    (h : replayRevision genesis index timestamp prior revision = .ok next) : SlotsShaped next := by
  intro itemId item hitem witnessed hstate
  cases replayRevision_slotOrigin h itemId item hitem with
  | kept old hfound _ hsame => exact hprior itemId old hfound witnessed (hsame ▸ hstate)
  | sealed _ hvalid =>
    rw [hstate] at hvalid
    simp only [validateAccessPaths, validateWitnessedState, bind_eq_ok] at hvalid
    obtain ⟨mode, -, -, -, -, -, scan, hscan, -⟩ := hvalid
    refine foldlM_forall (fun slot before after hround => ?_) hscan
    simp only [scanWitnessedSlot, bind_eq_ok] at hround
    obtain ⟨_, hslot, -⟩ := hround
    exact validateWitnessedSlot_shaped hslot

theorem replay_slotsShaped {journal : PolicyJournalV1} {catalog : BTreeMap Digest32 WitnessPolicy}
    (h : replayPolicyWithCatalog journal catalog = .ok state) : SlotsShaped state := by
  refine replay_induction (P := fun _ => SlotsShaped) ?_
    (fun _ _ hprior hnext => replayRevision_slotsShaped hprior hnext) h
  intro _ _ itemId item hitem
  simp [genesisState] at hitem

end Shape

structure FirstBound (state : PolicyState) (policy : WitnessPolicy) (first : WitnessedSlotV1) : Prop where
  found : state.witnessPolicies[first.witnessPolicyDigest]? = some policy
  threshold : policy.witnessThreshold = first.threshold
  suite : policy.suite = state.suite
  members : (first.capsules.map (·.witnessId)).Perm (policy.activeWitnesses.map (·.witnessId))
  capsules : ∀ capsule ∈ first.capsules, validateCapsuleBinding state policy capsule = .ok ()

structure FollowsFirst (state : PolicyState) (first slot : WitnessedSlotV1) : Prop where
  threshold : slot.threshold = first.threshold
  policy : slot.witnessPolicyDigest = first.witnessPolicyDigest
  witnesses : slot.capsules.map (·.witnessId) = first.capsules.map (·.witnessId)
  suite : slot.suite = state.suite

theorem firstBound_of_witnessed (h : validateItemWitnessed state itemId item mode witnessed = .ok u) :
    ∃ first policy, witnessed.slots.head? = some first ∧ FirstBound state policy first ∧
      ∀ slot ∈ witnessed.slots, FollowsFirst state first slot := by
  simp only [validateItemWitnessed, validateItemPolicyBinding, eq_ok, forM_eq_ok, passed, List.any_eq_false,
    and_assoc] at h
  obtain ⟨first, hfirst, -, hslots, -, -, first', hfirst', policy, hpolicy, -, hsuite, hsuites, -, -, -, -, -, -, hthr,
    -, hmembers, -, -, hcapsules, -⟩ := h
  obtain rfl : first = first' := some_unique hfirst hfirst'
  refine ⟨first, policy, hfirst, ⟨hpolicy, hthr, hsuite, ?_, hcapsules⟩, fun slot hslot => ?_⟩
  · exact (sortByKey_perm _ _).symm.trans (hmembers ▸ sortByKey_perm _ _)
  · have hsame := hslots slot hslot
    simp only [validateItemWitnessedSlot, rejectIf_eq_ok, passed, and_assoc] at hsame
    obtain ⟨-, -, -, -, hthr, -, -, hdigest, hwits⟩ := hsame
    exact ⟨hthr, hdigest, hwits, by simpa using hsuites slot hslot⟩

structure MemberKeys (state : PolicyState) (descriptor : WitnessPolicyDescriptor) (principal : PrincipalPolicyState) :
    Prop where
  registered : state.principals[descriptor.witnessId]? = some principal
  verification : principal.descriptor.verificationPublicKey = descriptor.signingPublicKey
  recipient : principal.descriptor.recipientPublicKey = descriptor.contributionPublicKey

section Bound

variable (h : FirstBound state policy first)

include h

theorem FirstBound.seat {capsule : WitnessShareCapsuleV1} (hcapsule : capsule ∈ first.capsules) :
    ∃ descriptor ∈ policy.activeWitnesses, ∃ principal, MemberKeys state descriptor principal ∧
      descriptorSeat descriptor = capsuleSeat capsule := by
  have hbound := h.capsules capsule hcapsule
  simp only [validateCapsuleBinding, eq_ok, passed] at hbound
  obtain ⟨descriptor, hfound, principal, hprin, ⟨⟨⟨-, hverif⟩, hrecip⟩, hindex⟩, hkey⟩ := hbound
  have hid : descriptor.witnessId = capsule.witnessId := by simpa using List.find?_some hfound
  refine ⟨descriptor, List.mem_of_find?_eq_some hfound, principal, ⟨hprin, hverif, hrecip⟩, ?_⟩
  rw [descriptorSeat, capsuleSeat, hid, hindex, hkey]

theorem FirstBound.apart (hshaped : SlotShaped first) : (policy.activeWitnesses.map (·.witnessId)).Nodup :=
  h.members.nodup_iff.mp hshaped.apart

theorem FirstBound.seats (hshaped : SlotShaped first) :
    (first.capsules.map capsuleSeat).Perm (policy.activeWitnesses.map descriptorSeat) := by
  have hcapsules : (first.capsules.map capsuleSeat).Nodup :=
    .of_map (·.witnessId) (by rw [map_witnessId_seats]; exact hshaped.apart)
  have hdescriptors : (policy.activeWitnesses.map descriptorSeat).Nodup :=
    .of_map (·.witnessId) (by rw [map_witnessId_descriptors]; exact h.apart hshaped)
  rw [List.perm_ext_iff_of_nodup hcapsules hdescriptors]
  intro seat
  constructor
  · intro hseat
    obtain ⟨capsule, hcapsule, rfl⟩ := List.mem_map.mp hseat
    obtain ⟨descriptor, hmem, -, -, hsame⟩ := h.seat hcapsule
    exact hsame ▸ List.mem_map_of_mem hmem
  · intro hseat
    obtain ⟨descriptor, hdesc, rfl⟩ := List.mem_map.mp hseat
    obtain ⟨capsule, hcapsule, hid⟩ := List.mem_map.mp (h.members.mem_iff.mpr (List.mem_map_of_mem hdesc))
    obtain ⟨other, hother, -, -, hsame⟩ := h.seat hcapsule
    have hwitness : other.witnessId = descriptor.witnessId := (congrArg Seat.witnessId hsame).trans hid
    rw [← List.inj_on_of_nodup_map (h.apart hshaped) hother hdesc hwitness, hsame]
    exact List.mem_map_of_mem hcapsule

theorem FirstBound.memberKeys (hshaped : SlotShaped first) (hdesc : descriptor ∈ policy.activeWitnesses) :
    ∃ principal, MemberKeys state descriptor principal := by
  obtain ⟨capsule, hcapsule, hid⟩ := List.mem_map.mp (h.members.mem_iff.mpr (List.mem_map_of_mem hdesc))
  obtain ⟨other, hother, principal, hkeys, hsame⟩ := h.seat hcapsule
  have hwitness : other.witnessId = descriptor.witnessId := (congrArg Seat.witnessId hsame).trans hid
  exact ⟨principal, List.inj_on_of_nodup_map (h.apart hshaped) hother hdesc hwitness ▸ hkeys⟩

end Bound

theorem find?_of_apart {α κ : Type} [DecidableEq κ] {key : α → κ} {values : List α} {a : α} {k : κ}
    (h : (values.map key).Nodup) :
    values.find? (fun value => key value == k) = some a ↔ a ∈ values ∧ key a = k := by
  constructor
  · intro hfound
    exact ⟨List.mem_of_find?_eq_some hfound, by simpa using List.find?_some hfound⟩
  · rintro ⟨hmem, rfl⟩
    obtain ⟨found, hfound⟩ := Option.isSome_iff_exists.mp (List.find?_isSome (p := fun value => key value == key a).mpr
      ⟨a, hmem, beq_self_eq_true _⟩)
    have hsame : key found = key a := by simpa using List.find?_some hfound
    rw [hfound, List.inj_on_of_nodup_map h (List.mem_of_find?_eq_some hfound) hmem hsame]

-- Of a member that holds its keys only the seat is compared.
theorem validateOwnCapsule_eq_ok {identity : WitnessEngineIdentity} {own : PrincipalDescriptorV1}
    (hactive : (policy.activeWitnesses.map (·.witnessId)).Nodup) (hdesc : descriptor ∈ policy.activeWitnesses)
    (hid : identity.principalId = descriptor.witnessId) (hpublic : identity.publicDescriptor = some own)
    (hverif : own.verificationPublicKey = descriptor.signingPublicKey)
    (hrecip : own.recipientPublicKey = descriptor.contributionPublicKey) :
    validateOwnCapsule identity { rule, policy, slot } = .ok capsule ↔
      slot.capsules.find? (fun capsule => capsule.witnessId == identity.principalId) = some capsule ∧
      capsuleSeat capsule = descriptorSeat descriptor := by
  have hfound : policy.witnessDescriptors.find? (fun descriptor =>
      descriptor.status == .active && descriptor.witnessId == identity.principalId) = some descriptor := by
    have hown := (find?_of_apart hactive).mpr ⟨hdesc, hid.symm⟩
    simpa only [WitnessPolicy.activeWitnesses, List.find?_filter, Bool.decide_and, Bool.decide_eq_true] using hown
  simp only [validateOwnCapsule, eq_ok, passed, hfound, hpublic, Option.some.injEq]
  constructor
  · rintro ⟨found, hcapsule, _, rfl, _, rfl, -, ⟨⟨-, hindex⟩, hkey⟩, rfl⟩
    have hwitness : found.witnessId = identity.principalId := by simpa using List.find?_some hcapsule
    exact ⟨hcapsule, by rw [capsuleSeat, descriptorSeat, hwitness, hid, hindex, hkey]⟩
  · rintro ⟨hcapsule, hseat⟩
    simp only [capsuleSeat, descriptorSeat, Seat.mk.injEq] at hseat
    exact ⟨capsule, hcapsule, _, rfl, _, rfl, (), ⟨⟨⟨hverif.symm, hrecip.symm⟩, hseat.2.1.symm⟩, hseat.2.2.symm⟩, rfl⟩

theorem slotUsable_iff
    (hfirst : FirstBound state policy first) (hfollows : FollowsFirst state first slot) (hfirstShaped : SlotShaped first)
    (hshaped : SlotShaped slot) :
    SlotUsable state policy slot ↔ slot.capsules.map capsuleSeat = first.capsules.map capsuleSeat := by
  constructor
  · intro husable
    refine seats_eq_of_perm (husable.seats.trans (hfirst.seats hfirstShaped).symm) ?_ ?_
    · rw [map_witnessId_seats, map_witnessId_seats, hfollows.witnesses]
    · rw [map_witnessId_seats]
      exact hfirstShaped.apart
  · intro hsame
    have hseats : (slot.capsules.map capsuleSeat).Perm (policy.activeWitnesses.map descriptorSeat) :=
      hsame ▸ hfirst.seats hfirstShaped
    refine ⟨hseats, hfollows.threshold.trans hfirst.threshold.symm, ?_, hfollows.suite.trans hfirst.suite.symm, ?_⟩
    · simpa [hshaped.counted] using hseats.length_eq
    · intro descriptor hdesc identity hid hkeys rule
      obtain ⟨member, hmember⟩ := hfirst.memberKeys hfirstShaped hdesc
      obtain ⟨principal, hprin, hpublic⟩ := hkeys
      obtain rfl : principal = member := by
        rw [hid, hmember.registered] at hprin
        exact (Option.some.inj hprin).symm
      obtain ⟨own, hown, hseat⟩ := List.mem_map.mp (hseats.mem_iff.mpr (List.mem_map_of_mem hdesc))
      have hwitness : own.witnessId = identity.principalId := (congrArg Seat.witnessId hseat).trans hid.symm
      exact ⟨own, (validateOwnCapsule_eq_ok (hfirst.apart hfirstShaped) hdesc hid hpublic hmember.verification
        hmember.recipient).mpr ⟨(find?_of_apart hshaped.apart).mpr ⟨hown, hwitness⟩, hseat⟩⟩

variable [Crypto]

theorem replayed_firstBound (policy : ReplayedPolicy) (hitem : policy.state.items[itemId]? = some item)
    (hwit : item.witnessedState = some witnessed) :
    ∃ first bound, witnessed.slots.head? = some first ∧ FirstBound policy.state bound first ∧
      (∀ slot ∈ witnessed.slots, FollowsFirst policy.state first slot) ∧
      ∀ slot ∈ witnessed.slots, SlotShaped slot := by
  obtain ⟨catalog, -, hreplay⟩ := replayPolicy_eq_ok.mp policy.replayed
  have hshaped := replay_slotsShaped hreplay itemId item hitem witnessed hwit
  rcases replay_checked hreplay with hnone | ⟨checked, hcomp, -, terminal, hashes, hstate⟩
  · rw [hnone] at hitem
    simp at hitem
  · rw [hstate] at hitem ⊢
    obtain ⟨mode, -, -, hchecked⟩ := (item_of_complete hcomp hitem).slots
    obtain ⟨first, bound, hhead, ⟨hfound, hthr, hsuite, hmembers, hcapsules⟩, hfollows⟩ :=
      firstBound_of_witnessed (hchecked witnessed hwit)
    refine ⟨first, bound, hhead, ⟨hfound, hthr, hsuite, hmembers, hcapsules⟩, ?_, hshaped⟩
    intro slot hslot
    obtain ⟨hthr, hdigest, hwits, hsuite⟩ := hfollows slot hslot
    exact ⟨hthr, hdigest, hwits, hsuite⟩

theorem slots_usable_iff (policy : ReplayedPolicy) :
    SlotsUsable policy.state ↔
      ∀ (itemId : ItemId) (item : ItemPolicyState) (witnessed : WitnessedStateV1),
        policy.state.items[itemId]? = some item → item.witnessedState = some witnessed → DealtAlike witnessed := by
  constructor
  · intro husable itemId item witnessed hitem hwit
    obtain ⟨first, bound, hhead, hfirst, hfollows, hshaped⟩ := replayed_firstBound policy hitem hwit
    have hmem := List.mem_of_head? hhead
    have hsame : ∀ slot ∈ witnessed.slots, slot.capsules.map capsuleSeat = first.capsules.map capsuleSeat := by
      intro slot hslot
      obtain ⟨named, hnamed, hslotUsable⟩ := husable itemId item witnessed hitem hwit slot hslot
      rw [(hfollows slot hslot).policy, hfirst.found] at hnamed
      rw [← Option.some.inj hnamed] at hslotUsable
      exact (slotUsable_iff hfirst (hfollows slot hslot) (hshaped first hmem) (hshaped slot hslot)).mp hslotUsable
    intro slot hslot other hother
    exact (map_capsuleSeat_eq_iff.mp ((hsame slot hslot).trans (hsame other hother).symm)).2
  · intro halike itemId item witnessed hitem hwit slot hslot
    obtain ⟨first, bound, hhead, hfirst, hfollows, hshaped⟩ := replayed_firstBound policy hitem hwit
    have hmem := List.mem_of_head? hhead
    have hsame : slot.capsules.map capsuleSeat = first.capsules.map capsuleSeat :=
      map_capsuleSeat_eq_iff.mpr ⟨(hfollows slot hslot).witnesses,
        halike itemId item witnessed hitem hwit slot hslot first hmem⟩
    refine ⟨bound, (hfollows slot hslot).policy ▸ hfirst.found, ?_⟩
    exact (slotUsable_iff hfirst (hfollows slot hslot) (hshaped first hmem) (hshaped slot hslot)).mpr hsame

end Jury.Engine

namespace Jury.Engine.Sample

open Lib Protocol Vault Policy Protocol.Sample Policy.Sample

theorem slots_usable_iff_policy : SlotsUsable policy.state := by
  refine (slots_usable_iff policy).mpr fun itemId item witnessed hitem hwit => ?_
  have halike : (policy.state.items.toList.all fun entry =>
      entry.2.witnessedState.all fun witnessed => decide (DealtAlike witnessed)) = true := by decide +kernel
  have hentry := List.all_eq_true.mp halike _ (Std.ExtTreeMap.mem_toList_iff_getElem?_eq_some.mpr hitem)
  rw [hwit] at hentry
  exact of_decide_eq_true hentry

-- The witnessed item of the sample policy, except that its body is dealt under the indexes one and three
-- where the policy has one and two.
def crookedSlot : WitnessedSlotV1 :=
  let unbound := { witnessedSlot .body with capsules := [capsule .body 5 1, capsule .body 6 3] }
  { unbound with capsuleSetDigest := unbound.recomputedCapsuleSetDigest.getD ZERO_DIGEST }

def crookedState : WitnessedStateV1 :=
  let slots := [witnessedSlot .descriptor, crookedSlot]
  { slots, digest := (witnessedSlotSetDigest slots).getD ZERO_DIGEST }

def crookedJournal : PolicyJournalV1 :=
  extend founded [witnessPolicy] 1 1002 [
    .ownerRevoke (identifier .principal 2),
    .principalAdd (descriptor .approver 3) "approver" ZERO_DIGEST,
    .principalAdd (descriptor .approver 4) "approver" ZERO_DIGEST,
    .principalAdd (descriptor .witness 5) "witness" ZERO_DIGEST,
    .principalAdd (descriptor .witness 6) "witness" ZERO_DIGEST,
    .itemCreate witnessedItem .canonical 1 (metadata 1 1 1) (FixedBytes.replicate 32 7) [] (some crookedState)]

theorem crooked_journal_replays : (replayPolicyWithWitnessPolicies crookedJournal [witnessPolicy]).isOk = true := by
  decide +kernel

def crooked : ReplayedPolicy := .ofReplay crookedJournal [witnessPolicy] crooked_journal_replays

theorem crooked_item : ∃ item, crooked.state.items[witnessedItem]? = some item ∧
    item.witnessedState = some crookedState := by
  have h : (crooked.state.items[witnessedItem]?.bind (·.witnessedState)) = some crookedState := by decide +kernel
  exact Option.bind_eq_some_iff.mp h

theorem crooked_policy : crooked.state.witnessPolicies[crookedSlot.witnessPolicyDigest]? = some witnessPolicy := by
  decide +kernel

theorem crooked_keys : HoldsKeys crooked.state (witness 6) := by
  have h : crooked.state.principals[identifier .principal 6]?.map (·.descriptor) = some (descriptor .witness 6) := by
    decide +kernel
  obtain ⟨principal, hprin, hdesc⟩ := Option.map_eq_some_iff.mp h
  exact ⟨principal, hprin, hdesc ▸ rfl⟩

theorem crooked_capsule (rule : WitnessAccessRule) :
    validateOwnCapsule (witness 6) { rule, policy := witnessPolicy, slot := crookedSlot } =
      .error (refused .policyDenied) := by
  have hcapsule : crookedSlot.capsules.find? (fun capsule => capsule.witnessId == (witness 6).principalId) =
      some (capsule .body 6 3) := by decide +kernel
  have hdesc : witnessPolicy.witnessDescriptors.find? (fun descriptor =>
      descriptor.status == .active && descriptor.witnessId == (witness 6).principalId) =
        some (witnessDescriptor 6 2) := by decide +kernel
  have hindex : ((witnessDescriptor 6 2).shareIndex != (capsule .body 6 3).shareIndex) = true := by decide +kernel
  have hpublic : (witness 6).publicDescriptor = some (descriptor .witness 6) := rfl
  simp only [validateOwnCapsule, hcapsule, hdesc, hpublic, orReject, Bind.bind, Except.bind, hindex, rejectIf,
    Bool.or_true, Bool.true_or, if_true]

theorem crooked_body_refused :
    (∃ item, crooked.state.items[witnessedItem]? = some item ∧ item.witnessedState = some crookedState) ∧
    crookedSlot ∈ crookedState.slots ∧
    witnessDescriptor 6 2 ∈ witnessPolicy.activeWitnesses ∧ HoldsKeys crooked.state (witness 6) ∧
    (∀ rule, validateOwnCapsule (witness 6) { rule, policy := witnessPolicy, slot := crookedSlot } =
      .error (refused .policyDenied)) ∧
    ¬ SlotsUsable crooked.state := by
  have hmember : witnessDescriptor 6 2 ∈ witnessPolicy.activeWitnesses := by decide +kernel
  have hslot : crookedSlot ∈ crookedState.slots := List.mem_cons_of_mem _ List.mem_cons_self
  refine ⟨crooked_item, hslot, hmember, crooked_keys, crooked_capsule, fun husable => ?_⟩
  obtain ⟨item, hitem, hwit⟩ := crooked_item
  obtain ⟨policy, hpolicy, hslotUsable⟩ := husable _ item crookedState hitem hwit crookedSlot hslot
  obtain rfl : policy = witnessPolicy := some_unique hpolicy crooked_policy
  obtain ⟨rule, -⟩ := exists_eq_ok_of_isOk (x := crooked.state.witnessAccessRule witnessedItem .readStdout)
    (by decide +kernel)
  obtain ⟨capsule, hacc⟩ := hslotUsable.accepted _ hmember (witness 6) rfl crooked_keys rule
  rw [crooked_capsule] at hacc
  cases hacc

end Jury.Engine.Sample
