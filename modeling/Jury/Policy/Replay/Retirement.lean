import Jury.Policy.Replay.Advance
import Jury.Policy.Replay.Sealing
import Jury.Policy.Replay.SingleUse

-- What a stretch of a journal leaves as it is: a principal that is gone stays gone, one that takes its place is new to
-- the vault, and an item keeps its slots unless an operation writes them.
namespace Jury.Policy

open Lib Protocol Vault Std

def replacedBy : PolicyOperationV1 → Option (PrincipalId × PrincipalId)
  | .principalReplace priorPrincipalId nextDescriptor _ => some (priorPrincipalId, nextDescriptor.principalId)
  | _ => none

def writesSlots (itemId : ItemId) : PolicyOperationV1 → Bool
  | .itemCreate written .. | .itemDelete written .. | .itemSlotsReplace written .. => written == itemId
  | _ => false

def ItemPolicyState.slotTable (item : ItemPolicyState) : List DirectSlotV1 × Option WitnessedStateV1 :=
  (item.directSlots, item.witnessedState)

@[mk_iff]
structure Retired (state : PolicyState) (id : PrincipalId) : Prop where
  known : id ∈ state.historicalPrincipalIds
  gone : id ∉ state.principals

def PrincipalsKnown (state : PolicyState) : Prop :=
  ∀ id, id ∈ state.principals → id ∈ state.historicalPrincipalIds

structure PrincipalsEvolve (start final : PolicyState) (operations : List PolicyOperationV1) : Prop where
  known : PrincipalsKnown final
  remembered : ∀ id, id ∈ start.historicalPrincipalIds → id ∈ final.historicalPrincipalIds
  retired : ∀ id, Retired start id → Retired final id ∧ ∀ nextId, (id, nextId) ∉ operations.filterMap replacedBy
  replaced : ∀ priorId nextId, (priorId, nextId) ∈ operations.filterMap replacedBy →
    Retired final priorId ∧ nextId ∉ start.historicalPrincipalIds

def SlotsKept (start final : PolicyState) (itemId : ItemId) : Prop :=
  start.items[itemId]?.map (·.slotTable) = final.items[itemId]?.map (·.slotTable)

structure Evolves (start final : PolicyState) (operations : List PolicyOperationV1) : Prop where
  principals : PrincipalsEvolve start final operations
  slots : ∀ itemId, (∀ operation ∈ operations, writesSlots itemId operation = false) → SlotsKept start final itemId

section Principals

variable {start final : PolicyState} {operations : List PolicyOperationV1}

theorem PrincipalsEvolve.refl (hknown : PrincipalsKnown start) : PrincipalsEvolve start start [] where
  known := hknown
  remembered _ hid := hid
  retired _ hretired := ⟨hretired, fun _ => List.not_mem_nil⟩
  replaced _ _ hmem := nomatch hmem

theorem PrincipalsEvolve.trans (h : PrincipalsEvolve start middle operations)
    (h' : PrincipalsEvolve middle final later) : PrincipalsEvolve start final (operations ++ later) where
  known := h'.known
  remembered id hid := h'.remembered id (h.remembered id hid)
  retired id hretired := by
    obtain ⟨hmiddle, hfirst⟩ := h.retired id hretired
    obtain ⟨hfinal, hsecond⟩ := h'.retired id hmiddle
    refine ⟨hfinal, fun nextId hmem => ?_⟩
    rw [List.filterMap_append, List.mem_append] at hmem
    exact hmem.elim (hfirst nextId) (hsecond nextId)
  replaced priorId nextId hmem := by
    rw [List.filterMap_append, List.mem_append] at hmem
    rcases hmem with hfirst | hsecond
    · obtain ⟨hretired, hfresh⟩ := h.replaced priorId nextId hfirst
      exact ⟨(h'.retired priorId hretired).1, hfresh⟩
    · obtain ⟨hretired, hfresh⟩ := h'.replaced priorId nextId hsecond
      exact ⟨hretired, fun hmem => hfresh (h.remembered nextId hmem)⟩

theorem PrincipalsEvolve.congr {start' final' : PolicyState} (h : PrincipalsEvolve start final operations)
    (hstart : start'.principals = start.principals)
    (hstartRecord : start'.historicalPrincipalIds = start.historicalPrincipalIds)
    (hfinal : final'.principals = final.principals)
    (hfinalRecord : final'.historicalPrincipalIds = final.historicalPrincipalIds) :
    PrincipalsEvolve start' final' operations := by
  obtain ⟨hknown, hremembered, hretired, hrepl⟩ := h
  constructor <;> simp only [PrincipalsKnown, retired_iff, hstart, hstartRecord, hfinal, hfinalRecord] at *
  · exact hknown
  · exact hremembered
  · exact hretired
  · exact hrepl

end Principals

theorem TableOrigin.slotTable (h : TableOrigin prior operations itemId item)
    (hunwritten : ∀ operation ∈ operations, writesSlots itemId operation = false) :
    ∃ old, prior.items[itemId]? = some old ∧ item.slotTable = old.slotTable := by
  cases h with
  | kept old hfound _ hdir hwit =>
    exact ⟨old, hfound, by rw [ItemPolicyState.slotTable, hdir, hwit]; rfl⟩
  | created _ _ _ hasked | replaced _ _ _ hasked =>
    have hwritten := hunwritten _ hasked
    simp [writesSlots] at hwritten

section Step

variable [Crypto] {draft : Draft} {operation : PolicyOperationV1}

variable {prior next : PolicyState} {sequence : UInt64} {operations : List PolicyOperationV1}

end Step

section Run

theorem Evolves.trans (h : Evolves start middle operations) (h' : Evolves middle final later) :
    Evolves start final (operations ++ later) where
  principals := h.principals.trans h'.principals
  slots itemId hunwritten := by
    rw [List.forall_mem_append] at hunwritten
    exact (h.slots itemId hunwritten.1).trans (h'.slots itemId hunwritten.2)

variable [Crypto]

variable {journal : PolicyJournalV1} {catalog : BTreeMap Digest32 WitnessPolicy} {final : PolicyState}

end Run

end Jury.Policy
