import Mathlib

-- Two storages that are written one after the other. A store keeps a value; an anchor, kept elsewhere,
-- vouches for it. A new value is committed together with the anchor that is to follow, then the anchor
-- is swapped, then the store is told. The process may stop between any two of these steps and goes on
-- from what the storages hold.
namespace Jury.Lib.SplitWrite

variable {σ α : Type}

structure Store (σ α : Type) where
  value : σ
  published : Option α
  pending : Option α

structure Pair (σ α : Type) where
  store : Store σ α
  anchor : Option α
  -- Every store there has been, the current one first.
  history : List (Store σ α)

def Pair.write (pair : Pair σ α) (store : Store σ α) : Pair σ α :=
  { pair with store, history := store :: pair.history }

-- What an anchor is: values are numbered by their generation and anchors by their stamp, and an anchor
-- covers a value as the successor of another anchor.
structure Protocol (σ α : Type) where
  generation : σ → Nat
  stamp : α → Nat
  covers : σ → Option α → α → Prop

inductive Publish : Pair σ α → Pair σ α → Prop where
  | swap {pair : Pair σ α} {candidate : α} (hpend : pair.store.pending = some candidate)
      (hanchor : pair.anchor = pair.store.published) : Publish pair { pair with anchor := some candidate }
  | mark {pair : Pair σ α} {candidate : α} (hpend : pair.store.pending = some candidate)
      (hanchor : pair.anchor = some candidate) :
      Publish pair (pair.write { value := pair.store.value, published := some candidate, pending := none })

abbrev Publishes : Pair σ α → Pair σ α → Prop := Relation.ReflTransGen Publish

namespace Protocol

variable (protocol : Protocol σ α)

def stampOf : Option α → Nat
  | none => 0
  | some anchor => protocol.stamp anchor

structure Commit (pair : Pair σ α) (value : σ) (candidate : α) : Prop where
  settled : pair.store.pending = none
  published : pair.anchor = pair.store.published
  generation : protocol.generation value = protocol.generation pair.store.value + 1
  stamp : protocol.stamp candidate = protocol.generation value
  covers : protocol.covers value pair.store.published candidate

inductive Step : Pair σ α → Pair σ α → Prop where
  | publish {pair next : Pair σ α} (h : Publish pair next) : Step pair next
  | commit {pair : Pair σ α} {value : σ} {candidate : α} (h : protocol.Commit pair value candidate) :
      Step pair (pair.write { value, published := pair.store.published, pending := some candidate })

abbrev Steps : Pair σ α → Pair σ α → Prop := Relation.ReflTransGen protocol.Step

variable {pair next : Pair σ α} {store : Store σ α}

theorem steps_of_publishes (h : Publishes pair next) : protocol.Steps pair next :=
  Relation.ReflTransGen.mono (fun _ _ => Step.publish) _ _ h

structure Sound (store : Store σ α) : Prop where
  settled : store.pending = none → protocol.stampOf store.published = protocol.generation store.value
  covered : ∀ anchor, store.pending = none → store.published = some anchor →
    ∃ predecessor, protocol.covers store.value predecessor anchor
  vouched : ∀ anchor, store.published = some anchor → ∃ value predecessor, protocol.covers value predecessor anchor
  stamped : ∀ candidate, store.pending = some candidate →
    protocol.stamp candidate = protocol.generation store.value
  follows : store.pending ≠ none → protocol.stampOf store.published + 1 = protocol.generation store.value
  covers : ∀ candidate, store.pending = some candidate → protocol.covers store.value store.published candidate

structure Coherent (pair : Pair σ α) : Prop where
  current : pair.store ∈ pair.history
  sound : ∀ store ∈ pair.history, protocol.Sound store
  anchored : pair.anchor = pair.store.published ∨
    ∃ candidate, pair.store.pending = some candidate ∧ pair.anchor = some candidate

def initial (value : σ) : Pair σ α :=
  let store := { value, published := none, pending := none }
  { store, anchor := none, history := [store] }

theorem initial_coherent {value : σ} (h : protocol.generation value = 0) : protocol.Coherent (initial value) where
  current := by simp [initial]
  sound := by
    intro store hstore
    obtain rfl : store = { value, published := none, pending := none } := by simpa [initial] using hstore
    exact ⟨fun _ => h.symm, by simp, by simp, by simp, by simp, by simp⟩
  anchored := .inl rfl

variable {protocol}

theorem Coherent.sound_store (h : protocol.Coherent pair) : protocol.Sound pair.store :=
  h.sound _ h.current

theorem Coherent.write (h : protocol.Coherent pair) (hsound : protocol.Sound store)
    (hanchored : pair.anchor = store.published ∨
      ∃ candidate, store.pending = some candidate ∧ pair.anchor = some candidate) :
    protocol.Coherent (pair.write store) where
  current := List.mem_cons_self
  sound := by
    intro other hother
    rcases List.mem_cons.mp hother with rfl | hother
    · exact hsound
    · exact h.sound other hother
  anchored := hanchored

theorem Publish.coherent (h : Publish pair next) (hpair : protocol.Coherent pair) : protocol.Coherent next := by
  cases h with
  | swap hpend hanchor => exact ⟨hpair.current, hpair.sound, .inr ⟨_, hpend, rfl⟩⟩
  | mark hpend hanchor =>
    have hstore := hpair.sound_store
    refine hpair.write ⟨fun _ => hstore.stamped _ hpend, ?_, ?_, by simp, by simp, by simp⟩ (.inl hanchor)
    · intro anchor _ hpubd
      obtain rfl := Option.some.inj hpubd
      exact ⟨_, hstore.covers _ hpend⟩
    · intro anchor hpubd
      obtain rfl := Option.some.inj hpubd
      exact ⟨_, _, hstore.covers _ hpend⟩

theorem Step.coherent (h : protocol.Step pair next) (hpair : protocol.Coherent pair) : protocol.Coherent next := by
  cases h with
  | publish h => exact Publish.coherent h hpair
  | commit h =>
    have hsettled := hpair.sound_store.settled h.settled
    refine hpair.write ⟨by simp, by simp, hpair.sound_store.vouched, ?_, fun _ => ?_, ?_⟩ (.inl h.published)
    · intro candidate hcand
      obtain rfl := Option.some.inj hcand
      exact h.stamp
    · exact (congrArg (· + 1) hsettled).trans h.generation.symm
    · intro candidate hcand
      obtain rfl := Option.some.inj hcand
      exact h.covers

theorem Steps.coherent (h : protocol.Steps pair next) (hpair : protocol.Coherent pair) : protocol.Coherent next := by
  induction h with
  | refl => exact hpair
  | tail _ hstep ih => exact Step.coherent hstep ih

-- An anchor takes over from another: it covers a value as its successor, under the next number.
def Succeeds (protocol : Protocol σ α) (anchor successor : Option α) : Prop :=
  ∃ value candidate, successor = some candidate ∧ protocol.covers value anchor candidate ∧
    protocol.stamp candidate = protocol.stampOf anchor + 1

theorem Step.anchor (h : protocol.Step pair next) (hpair : protocol.Coherent pair) :
    Relation.ReflGen protocol.Succeeds pair.anchor next.anchor := by
  have hsound := hpair.sound_store
  cases h with
  | commit => exact .refl
  | publish h =>
    cases h with
    | mark => exact .refl
    | swap hpend hanchor =>
      refine .single ⟨_, _, rfl, hanchor ▸ hsound.covers _ hpend, ?_⟩
      rw [hanchor, hsound.follows (by simp [hpend])]
      exact hsound.stamped _ hpend

theorem Steps.anchors (h : protocol.Steps pair next) (hpair : protocol.Coherent pair) :
    Relation.ReflTransGen protocol.Succeeds pair.anchor next.anchor := by
  induction h with
  | refl => exact .refl
  | tail hsteps hstep ih => exact ih.trans (Step.anchor hstep (Steps.coherent hsteps hpair)).to_reflTransGen

-- A store that is behind the anchor, as one restored from an earlier moment is.
structure RolledBack (protocol : Protocol σ α) (pair : Pair σ α) : Prop where
  sound : protocol.Sound pair.store
  behind : protocol.generation pair.store.value < protocol.stampOf pair.anchor

theorem Sound.stampOf_le (h : protocol.Sound store) :
    protocol.stampOf store.published ≤ protocol.generation store.value := by
  cases hpend : store.pending with
  | none => exact (h.settled hpend).le
  | some candidate =>
    have := h.follows (by simp [hpend])
    omega

section RolledBack

variable (h : protocol.RolledBack pair)

include h

theorem RolledBack.anchor_ne_published : pair.anchor ≠ pair.store.published := by
  intro heq
  have hle := h.sound.stampOf_le
  have hbehind := h.behind
  rw [heq] at hbehind
  omega

theorem RolledBack.anchor_ne_pending {candidate : α} (hpend : pair.store.pending = some candidate) :
    pair.anchor ≠ some candidate := by
  intro heq
  have hstamp := h.sound.stamped candidate hpend
  have hbehind := h.behind
  rw [heq] at hbehind
  exact absurd hbehind (by simp [stampOf, hstamp])

theorem RolledBack.not_step : ¬ protocol.Step pair next := by
  intro hstep
  cases hstep with
  | publish hpublish =>
    cases hpublish with
    | swap _ hanchor => exact h.anchor_ne_published hanchor
    | mark hpend hanchor => exact h.anchor_ne_pending hpend hanchor
  | commit hcommit => exact h.anchor_ne_published hcommit.published

theorem RolledBack.eq_of_steps (hsteps : protocol.Steps pair next) : next = pair := by
  rcases Relation.ReflTransGen.cases_head hsteps with heq | ⟨middle, hstep, _⟩
  · exact heq.symm
  · exact absurd hstep h.not_step

end RolledBack

end Protocol

variable {pair next : Pair σ α}

theorem Publish.value_eq (h : Publish pair next) : next.store.value = pair.store.value := by
  cases h <;> rfl

theorem Publishes.value_eq (h : Publishes pair next) : next.store.value = pair.store.value := by
  induction h with
  | refl => rfl
  | tail _ hstep ih => exact hstep.value_eq.trans ih

end Jury.Lib.SplitWrite
