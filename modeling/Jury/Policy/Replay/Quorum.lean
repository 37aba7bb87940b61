import Jury.Policy.Replay.Sealing

-- When an item is said to need a quorum: what the access explanation says to a principal, what the
-- authority of the item says, and what the slots of the item say.
namespace Jury.Policy

open Lib Protocol Vault

-- What an explanation may claim: nobody reads the item alone, and the three claims are one.
structure QuorumClaimHonest (state : PolicyState) (itemId : ItemId) (item : ItemPolicyState) (principalId : PrincipalId)
    (capability : Capability) : Prop where
  nobodyAlone : (state.access itemId principalId capability).carriesQuorumClaim = true → item.directSlots = []
  agree : (state.access itemId principalId capability).allowed = true →
    (state.access itemId principalId capability).path = .witnessed →
    ∃ witnessed authority, item.witnessedState = some witnessed ∧
      state.witnessAuthority itemId = .ok (some authority) ∧
      (state.access itemId principalId capability).carriesQuorumClaim = authority.carriesQuorumClaim ∧
      authority.carriesQuorumClaim = witnessed.hasItemQuorumClaim item.directSlots.length

def holdsDirectSlot (item : ItemPolicyState) (principalId : PrincipalId) : Bool :=
  item.directSlots.any fun slot => slot.recipientPrincipalId == principalId

-- A mixed item leaves no reader to the witnesses alone.
def readersHoldSlots (state : PolicyState) (itemId : ItemId) (item : ItemPolicyState) : Prop :=
  item.accessMode = some .mixed → ∀ reader ∈ state.effectiveReaderIds itemId, holdsDirectSlot item reader = true

-- The principal may use the item, and only through its witnesses.
structure WitnessedAccess (state : PolicyState) (itemId : ItemId) (item : ItemPolicyState) (principalId : PrincipalId)
    (capability : Capability) : Prop where
  current : principalId ∈ state.principals
  role : ∃ role, state.effectiveRole itemId principalId = some role ∧ rolePermits role capability = true
  slotless : holdsDirectSlot item principalId = false
  witnessed : item.witnessedState.isSome = true

variable {state : PolicyState} {itemId : ItemId} {item : ItemPolicyState}

theorem access_of_witnessedAccess (hitem : state.items[itemId]? = some item)
    (h : WitnessedAccess state itemId item principalId capability) :
    (state.access itemId principalId capability).carriesQuorumClaim = true := by
  obtain ⟨hcur, ⟨role, hrole, hpermits⟩, hslotless, hwit⟩ := h
  have hcontains : state.principals.contains principalId = true := Std.ExtTreeMap.contains_iff_mem.mpr hcur
  unfold holdsDirectSlot at hslotless
  simp [PolicyState.access, hitem, hcontains, hrole, hpermits, hslotless, hwit]

theorem witnessedAccess_of_access (hitem : state.items[itemId]? = some item)
    (h : (state.access itemId principalId capability).carriesQuorumClaim = true ∨
      (state.access itemId principalId capability).path = .witnessed) :
    WitnessedAccess state itemId item principalId capability := by
  simp only [PolicyState.access, hitem] at h
  split at h
  · simp [denied] at h
  · rename_i hcur
    split at h
    · simp [denied] at h
    · rename_i role hrole
      split at h
      · simp [denied] at h
      · rename_i hpermits
        have hpermits : rolePermits role capability = true := by simpa using hpermits
        have hcur : principalId ∈ state.principals := by simpa using hcur
        have hpath : holdsDirectSlot item principalId = false ∧ item.witnessedState.isSome = true := by
          unfold holdsDirectSlot
          cases hdir : item.directSlots.any fun slot => slot.recipientPrincipalId == principalId <;>
            cases hwit : item.witnessedState.isSome <;>
            simp [hdir, hwit, denied] at h ⊢
        exact ⟨hcur, ⟨role, hrole, hpermits⟩, hpath.1, hpath.2⟩

theorem mem_principals_of_reader [Crypto]
    {reader : PrincipalId} (hstate : Complete state) (hitem : state.items[itemId]? = some item)
    (hreader : (state.effectiveRole itemId reader).isSome = true) : reader ∈ state.principals := by
  have hactive : ∃ kinds, ActiveAs state reader kinds := by
    by_cases howner : reader ∈ state.owners
    · exact ⟨_, hstate.owners reader howner⟩
    · rw [PolicyState.effectiveRole, if_neg (fun hmem => howner (Std.ExtTreeSet.contains_iff_mem.mp hmem)), hitem,
        Option.bind_some, Option.isSome_iff_exists] at hreader
      obtain ⟨role, hgrant⟩ := hreader
      exact ⟨_, (hstate.grants itemId item hitem reader role hgrant).2⟩
  obtain ⟨-, principal, hprin, -⟩ := hactive
  exact mem_of_getElem? hprin

section Pairs

variable [Crypto]

-- The slots of a witnessed item are a pair, one for the descriptor and one for the body.
def WitnessedPairs (state : PolicyState) : Prop :=
  ∀ (itemId : ItemId) (item : ItemPolicyState), state.items[itemId]? = some item →
    ∀ witnessed, item.witnessedState = some witnessed → witnessed.slots.length = 2

theorem replayRevision_witnessedPairs (hprior : WitnessedPairs prior)
    (h : replayRevision genesis index timestamp prior revision = .ok next) : WitnessedPairs next := by
  intro itemId item hitem witnessed hstate
  cases replayRevision_slotOrigin h itemId item hitem with
  | kept old hfound _ hsame => exact hprior itemId old hfound witnessed (hsame ▸ hstate)
  | sealed _ hvalid =>
    rw [hstate] at hvalid
    simp only [validateAccessPaths, validateWitnessedState, eq_ok, bne_eq_false_iff_eq] at hvalid
    obtain ⟨_, -, _, -, _, hlen, -⟩ := hvalid
    exact hlen

theorem replay_witnessedPairs {journal : PolicyJournalV1} {catalog : BTreeMap Digest32 WitnessPolicy}
    (h : replayPolicyWithCatalog journal catalog = .ok state) : WitnessedPairs state := by
  refine replay_induction (P := fun _ => WitnessedPairs) ?_
    (fun _ _ hprior hnext => replayRevision_witnessedPairs hprior hnext) h
  intro _ _ itemId item hitem
  simp [genesisState] at hitem

end Pairs

theorem witnessAuthority_claim (hitem : state.items[itemId]? = some item)
    (hwit : item.witnessedState = some witnessed) (hpair : witnessed.slots.length = 2) :
    ∃ authority, state.witnessAuthority itemId = .ok (some authority) ∧
      authority.carriesQuorumClaim = item.directSlots.isEmpty ∧
      authority.carriesQuorumClaim = witnessed.hasItemQuorumClaim item.directSlots.length := by
  obtain ⟨first, hfirst⟩ : ∃ first, witnessed.slots.head? = some first := by
    cases hslots : witnessed.slots with
    | nil => simp [hslots] at hpair
    | cons first rest => exact ⟨first, rfl⟩
  have hclaim : item.directSlots.isEmpty = witnessed.hasItemQuorumClaim item.directSlots.length := by
    cases hslots : item.directSlots <;> simp [WitnessedStateV1.hasItemQuorumClaim, hpair]
  have hauthority : ∃ authority, state.witnessAuthority itemId = .ok (some authority) ∧
      authority.carriesQuorumClaim = item.directSlots.isEmpty := by
    simp only [PolicyState.witnessAuthority, hitem, orReject, Bind.bind, Except.bind, hwit, hfirst]
    exact ⟨_, rfl, rfl⟩
  obtain ⟨authority, hfound, hempty⟩ := hauthority
  exact ⟨authority, hfound, hempty, hempty.trans hclaim⟩

variable [Crypto]

-- The claims on an item are honest for everyone exactly when a mixed item has a direct slot for each of
-- its readers.
theorem quorumClaims_honest_iff (journal : PolicyJournalV1) (catalog : BTreeMap Digest32 WitnessPolicy)
    (state : PolicyState) (h : replayPolicyWithCatalog journal catalog = .ok state) (itemId : ItemId)
    (item : ItemPolicyState) (hitem : state.items[itemId]? = some item) :
    (∀ principalId capability, QuorumClaimHonest state itemId item principalId capability) ↔
      readersHoldSlots state itemId item := by
  have hcomp := replay_complete journal catalog state h
  constructor
  · intro hhonest hmixed reader hreader
    by_contra hslotless
    rw [Bool.not_eq_true] at hslotless
    rw [mem_effectiveReaderIds] at hreader
    obtain ⟨role, hrole⟩ := Option.isSome_iff_exists.mp hreader
    have hpermits : rolePermits role .read = true := by cases role <;> rfl
    have hmode : item.directSlots ≠ [] ∧ item.witnessedState.isSome = true := by
      cases hdir : item.directSlots <;> cases hwit : item.witnessedState <;>
        simp [ItemPolicyState.accessMode, slotTableMode, hdir, hwit] at hmixed ⊢
    have hclaim := access_of_witnessedAccess hitem
      ⟨mem_principals_of_reader hcomp hitem hreader, ⟨role, hrole, hpermits⟩, hslotless, hmode.2⟩
    exact hmode.1 ((hhonest reader .read).nobodyAlone hclaim)
  · intro hslots principalId capability
    have hempty : WitnessedAccess state itemId item principalId capability → item.directSlots = [] := by
      intro haccess
      obtain ⟨role, hrole, -⟩ := haccess.role
      by_contra hdir
      have hmixed : item.accessMode = some .mixed := by
        have hwit := haccess.witnessed
        cases hslots : item.directSlots with
        | nil => exact absurd hslots hdir
        | cons slot rest =>
          cases hstate : item.witnessedState with
          | none => simp [hstate] at hwit
          | some witnessed => simp [ItemPolicyState.accessMode, slotTableMode, hslots, hstate]
      have hreader : principalId ∈ state.effectiveReaderIds itemId := by
        rw [mem_effectiveReaderIds, hrole]
        rfl
      have hheld := hslots hmixed principalId hreader
      rw [haccess.slotless] at hheld
      cases hheld
    constructor
    · intro hclaim
      exact hempty (witnessedAccess_of_access hitem (.inl hclaim))
    · intro _ hpath
      have haccess := witnessedAccess_of_access hitem (.inr hpath)
      obtain ⟨witnessed, hwit⟩ := Option.isSome_iff_exists.mp haccess.witnessed
      obtain ⟨authority, hauthority, hclaim, hagree⟩ := witnessAuthority_claim hitem hwit
        (replay_witnessedPairs h itemId item hitem witnessed hwit)
      refine ⟨witnessed, authority, hwit, hauthority, ?_, hagree⟩
      rw [access_of_witnessedAccess hitem haccess, hclaim, hempty haccess]
      rfl

end Jury.Policy

namespace Jury.Policy.Sample

open Lib Protocol Vault Protocol.Sample

theorem quorumClaims_honest_witnessedItem :
    ∃ state item, replayPolicyWithCatalog journal catalog = .ok state ∧ state.items[witnessedItem]? = some item ∧
      item.accessMode = some .witnessedOnly ∧
      ∀ principalId capability, QuorumClaimHonest state witnessedItem item principalId capability := by
  have hreplayed : Returns (replayPolicyWithCatalog journal catalog) (fun state =>
      state.items[witnessedItem]?.any fun item => item.accessMode == some .witnessedOnly) = true := by decide +kernel
  obtain ⟨state, hstate, hfound⟩ := returns_iff.mp hreplayed
  obtain ⟨item, hitem, hmode⟩ := (Option.any_eq_true _ _).mp hfound
  have hmode : item.accessMode = some .witnessedOnly := by simpa using hmode
  refine ⟨state, item, hstate, hitem, hmode, ?_⟩
  refine (quorumClaims_honest_iff journal catalog state hstate witnessedItem item hitem).mpr ?_
  intro hmixed
  rw [hmode] at hmixed
  cases hmixed

def mixedItem : ItemId := identifier .item 2

def unsharedJournal : PolicyJournalV1 :=
  extend founded [] 1 1002 [
    .ownerRevoke (identifier .principal 2),
    .principalAdd (descriptor .approver 3) "approver" ZERO_DIGEST,
    .principalAdd (descriptor .approver 4) "approver" ZERO_DIGEST,
    .principalAdd (descriptor .witness 5) "witness" ZERO_DIGEST,
    .principalAdd (descriptor .witness 6) "witness" ZERO_DIGEST,
    .itemCreate mixedItem .canonical 1 (metadata 1 1 1) (FixedBytes.replicate 32 7)
      [directSlot mixedItem 1 2 .descriptor .owner 1 1, directSlot mixedItem 1 2 .body .owner 1 2] none]

def mixedPolicy : WitnessPolicy :=
  { witnessPolicy with vaultPolicySequence := 3, vaultPolicyHash := (scopeOf unsharedJournal []).2 }

-- Principal 2 becomes a reader through the witnesses while the owner keeps its direct slots.
def mixedJournal : PolicyJournalV1 :=
  extend unsharedJournal [mixedPolicy] 1 1003 [
    .itemRoleChange mixedItem (identifier .principal 2) none (some .reader),
    .itemReaderSetChange mixedItem 1 2 [identifier .principal 1] [identifier .principal 1, identifier .principal 2]
      (metadata 2 2 3) (FixedBytes.replicate 32 8),
    .itemSlotsReplace mixedItem 2
      [{ directSlot mixedItem 2 3 .descriptor .owner 1 3 with itemAccessMode := .mixed },
        { directSlot mixedItem 2 3 .body .owner 1 4 with itemAccessMode := .mixed }]
      (some (Sealing.state ⟨mixedItem, 2, .mixed, mixedPolicy, 20⟩))]

-- The reader is told that the item needs a quorum, which the item's authority denies: its owner reads it alone.
theorem quorumClaim_overstated :
    ∃ state item, replayPolicyWithWitnessPolicies mixedJournal [mixedPolicy] = .ok state ∧
      state.items[mixedItem]? = some item ∧ item.directSlots ≠ [] ∧
      (state.access mixedItem (identifier .principal 2) .read).carriesQuorumClaim = true ∧
      (∃ authority, state.witnessAuthority mixedItem = .ok (some authority) ∧ authority.carriesQuorumClaim = false) ∧
      ¬ QuorumClaimHonest state mixedItem item (identifier .principal 2) .read := by
  have hreplayed : Returns (replayPolicyWithWitnessPolicies mixedJournal [mixedPolicy]) (fun state =>
      (state.items[mixedItem]?.any fun item => !item.directSlots.isEmpty) &&
      (state.access mixedItem (identifier .principal 2) .read).carriesQuorumClaim &&
      Returns (state.witnessAuthority mixedItem) (fun authority => authority.any (!·.carriesQuorumClaim))) = true := by
    decide +kernel
  obtain ⟨state, hstate, hchecked⟩ := returns_iff.mp hreplayed
  simp only [Bool.and_eq_true] at hchecked
  obtain ⟨⟨hfound, hclaim⟩, hreturned⟩ := hchecked
  obtain ⟨item, hitem, hdir⟩ := (Option.any_eq_true _ _).mp hfound
  have hdir : item.directSlots ≠ [] := by simpa using hdir
  obtain ⟨found, hfound, hdenied⟩ := returns_iff.mp hreturned
  obtain ⟨authority, rfl, hdenied⟩ := (Option.any_eq_true _ _).mp hdenied
  refine ⟨state, item, hstate, hitem, hdir, hclaim, ⟨authority, hfound, by simpa using hdenied⟩, ?_⟩
  exact fun hhonest => hdir (hhonest.nobodyAlone hclaim)

end Jury.Policy.Sample
