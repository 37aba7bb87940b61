import Jury.Engine.Operations
import Jury.Lib.SplitWrite
import Jury.Protocol.Witness.Encoding

-- The storages of an engine follow the split-write protocol: whatever an operation does and however
-- its calls end, the database and the anchor only ever move by the steps of that protocol.
namespace Jury.Engine

open Lib Lib.SplitWrite Protocol Witness

def PersistedWitnessState.record (state : PersistedWitnessState) :
    Store WitnessLogicalState WitnessStateAnchorV1 where
  value := state.logical
  published := state.publishedAnchor
  pending := state.pendingAnchor

theorem PersistedWitnessState.record_inj {a b : PersistedWitnessState} (h : a.record = b.record) : a = b := by
  cases a
  cases b
  simpa [record] using h

def World.pair (world : World) : Pair WitnessLogicalState WitnessStateAnchorV1 where
  store := world.store.record
  anchor := world.anchor
  history := world.history.map (·.record)

structure World.Agrees (world next : World) : Prop where
  witnessId : next.witnessId = world.witnessId
  store : next.store = world.store
  anchor : next.anchor = world.anchor
  history : next.history = world.history

theorem World.Agrees.refl (world : World) : world.Agrees world := ⟨rfl, rfl, rfl, rfl⟩

theorem World.Agrees.trans {a : World} (hab : a.Agrees b) (hbc : b.Agrees c) : a.Agrees c :=
  ⟨hbc.witnessId.trans hab.witnessId, hbc.store.trans hab.store, hbc.anchor.trans hab.anchor,
    hbc.history.trans hab.history⟩

instance : Std.Refl World.Agrees := ⟨World.Agrees.refl⟩

instance : IsTrans World World.Agrees := ⟨fun _ _ _ => World.Agrees.trans⟩

theorem World.Agrees.pair {world : World} (h : world.Agrees next) : next.pair = world.pair := by
  simp only [World.pair, h.store, h.anchor, h.history]

theorem World.pair_write (world : World) (state : PersistedWitnessState) :
    (world.write state).pair = world.pair.write state.record := rfl

theorem World.nextFault_agrees (world : World) : world.Agrees world.nextFault.2 := by
  unfold World.nextFault
  split
  · exact .refl world
  · exact ⟨rfl, rfl, rfl, rfl⟩

section Calls

variable {α : Type}

theorem readCall_final (mapError : StorageErrorKind → WitnessEngineError) (read : World → Except StorageErrorKind α)
    (world : World) : world.Agrees (finalState (readCall mapError read world)) := by
  have h := world.nextFault_agrees
  unfold readCall
  dsimp only
  split
  · split <;> exact h
  · exact h
  · exact h

theorem readCall_ok {read : World → Except StorageErrorKind α} (h : readCall mapError read world = .ok a next) :
    world.Agrees next ∧ read next = .ok a := by
  have hagrees := readCall_final mapError read world
  rw [h] at hagrees
  refine ⟨hagrees, ?_⟩
  unfold readCall at h
  dsimp only at h
  split at h
  · split at h
    · next hread =>
      injection h with ha hnext
      rw [← ha, ← hnext]
      exact hread
    · exact absurd h (by simp)
  · exact absurd h (by simp)
  · exact absurd h (by simp)

theorem writeCall_final (mapError : StorageErrorKind → WitnessEngineError)
    (change : World → Except StorageErrorKind (α × World)) (world : World) :
    world.Agrees (finalState (writeCall mapError change world)) ∨
      ∃ before a, world.Agrees before ∧ change before = .ok (a, finalState (writeCall mapError change world)) := by
  have h := world.nextFault_agrees
  unfold writeCall
  dsimp only
  split
  · split
    · next a after hchange => exact .inr ⟨_, a, h, hchange⟩
    · exact .inl h
  · exact .inl h
  · split
    · next a after hchange => exact .inr ⟨_, a, h, hchange⟩
    · exact .inl h

theorem writeCall_error (h : writeCall mapError change world = .error error next) :
    world.Agrees next ∨ ∃ before a, world.Agrees before ∧ change before = .ok (a, next) := by
  have hfinal := writeCall_final mapError change world
  rwa [h] at hfinal

theorem writeCall_ok (h : writeCall mapError change world = .ok a next) :
    ∃ before, world.Agrees before ∧ change before = .ok (a, next) := by
  refine ⟨world.nextFault.2, world.nextFault_agrees, ?_⟩
  unfold writeCall at h
  dsimp only at h
  split at h
  · split at h
    · next hchange =>
      injection h with ha hnext
      rw [← ha, ← hnext]
      exact hchange
    · exact absurd h (by simp)
  · exact absurd h (by simp)
  · split at h <;> exact absurd h (by simp)

end Calls

variable {world : World}

theorem exactAnchorEq_true (h : exactAnchorEq left right = .ok true) : left = right := by
  simp only [exactAnchorEq, eq_ok, orRefuse_eq_ok, beq_iff_eq] at h
  obtain ⟨bytes, hleft, _, hright, rfl⟩ := h
  exact WitnessStateAnchorV1.canonicalBytes_inj hleft hright

variable {witnessId : PrincipalId}

theorem observedIs_true (h : observedIs observed candidate = true) : observed = some candidate := by
  cases observed with
  | none => simp [observedIs] at h
  | some anchor =>
    simp only [observedIs, Option.any_some] at h
    split at h
    · next hexact =>
      subst h
      rw [exactAnchorEq_true hexact]
    · exact absurd h (by simp)

theorem predecessorMatches_true {published : Option WitnessStateAnchorV1}
    (h : predecessorMatches published external = .ok true) : external = published := by
  cases published <;> cases external
  case none.none => rfl
  case some.some => rw [exactAnchorEq_true h]
  all_goals simp [predecessorMatches] at h

theorem confirmReadback_eq_ok (h : confirmReadback candidate observed = .ok ()) : observed = some candidate := by
  simp only [confirmReadback, eq_ok, Bool.not_eq_false'] at h
  obtain ⟨readback, rfl, _, hexact, rfl⟩ := h
  rw [exactAnchorEq_true hexact]

structure World.Publishing (world next : World) : Prop where
  witnessId : next.witnessId = world.witnessId
  publishes : Publishes world.pair next.pair

theorem World.Publishing.trans {a : World} (hab : a.Publishing b) (hbc : b.Publishing c) : a.Publishing c :=
  ⟨hbc.witnessId.trans hab.witnessId, hab.publishes.trans hbc.publishes⟩

instance : IsTrans World World.Publishing := ⟨fun _ _ _ => World.Publishing.trans⟩

theorem World.Agrees.publishing (h : world.Agrees next) : world.Publishing next :=
  ⟨h.witnessId, h.pair ▸ .refl⟩

theorem World.Publishing.refl (world : World) : world.Publishing world := (World.Agrees.refl world).publishing

theorem World.Publishing.logical_eq (h : world.Publishing next) : next.store.logical = world.store.logical :=
  h.publishes.value_eq

variable [Crypto]

theorem loadAnchor_eq_ok (h : loadAnchor witnessId current = .ok loaded) : loaded = current := by
  cases current with
  | none => exact (pure_eq_ok.mp h).symm
  | some anchor =>
    simp only [loadAnchor, eq_ok] at h
    obtain ⟨_, _, _, _, rfl⟩ := h
    rfl

theorem anchorRead_eq_ok {read : Option WitnessStateAnchorV1} (h : anchorRead witnessId current = .ok read) :
    read = current := by
  obtain ⟨_, hload, hread⟩ := bind_eq_ok.mp h
  rw [loadAnchor_eq_ok hload] at hread
  cases current with
  | none => exact (pure_eq_ok.mp hread).symm
  | some anchor =>
    obtain ⟨_, -, hread⟩ := bind_eq_ok.mp hread
    obtain ⟨_, -, hread⟩ := bind_eq_ok.mp hread
    exact (pure_eq_ok.mp hread).symm

theorem readAnchor_final (world : World) : world.Agrees (finalState (readAnchor world)) :=
  readCall_final _ _ world

theorem readAnchor_ok {anchor : Option WitnessStateAnchorV1} (h : readAnchor world = .ok anchor next) :
    world.Agrees next ∧ anchor = world.anchor := by
  obtain ⟨hagrees, hread⟩ := readCall_ok h
  exact ⟨hagrees, (anchorRead_eq_ok hread).trans hagrees.anchor⟩

theorem resolveSwap_final (candidate : WitnessStateAnchorV1) (outcome : AnchorCompareAndSwap) (world : World) :
    world.Agrees (finalState (resolveSwap candidate outcome world)) := by
  cases outcome with
  | published => exact .refl world
  | conflict =>
    refine final_bind (readAnchor_final world) fun _ middle _ => ?_
    exact (finalState_check _ middle).symm ▸ .refl middle

theorem storeLoad_eq_ok {current loaded : PersistedWitnessState} (h : storeLoad witnessId current = .ok loaded) :
    loaded = current ∧ current.logical.witnessId = witnessId ∧
      ∃ database, current.logical.canonicalDatabaseState = .ok database := by
  simp only [storeLoad, eq_ok, bne_eq_false_iff_eq] at h
  obtain ⟨_, -, _, howner, database, hdatabase, rfl⟩ := h
  exact ⟨rfl, howner, database, hdatabase⟩

theorem load_final (world : World) : world.Agrees (finalState (load world)) := readCall_final _ _ world

theorem load_ok (h : load world = .ok state next) : world.Agrees next ∧ state = world.store := by
  obtain ⟨hagrees, hread⟩ := readCall_ok h
  exact ⟨hagrees, (storeLoad_eq_ok hread).1.trans hagrees.store⟩

structure Anchored (identity : WitnessEngineIdentity) (logical : WitnessLogicalState)
    (anchor : WitnessStateAnchorV1) : Prop where
  generation : anchor.stateGeneration = logical.stateGeneration
  digest : logical.databaseStateDigest = .ok anchor.databaseStateDigest
  valid : validateAnchor identity anchor = .ok ()

-- Database and anchor agree: nothing is pending, and what is published covers the logical state.
structure Confirmed (identity : WitnessEngineIdentity) (world : World) : Prop where
  settled : world.store.pendingAnchor = none
  published : world.anchor = world.store.publishedAnchor
  anchored : ∀ anchor, world.anchor = some anchor → Anchored identity world.store.logical anchor
  unanchored : world.anchor = none → world.store.logical.stateGeneration = 0

theorem Confirmed.agrees (h : Confirmed identity world) (hagrees : world.Agrees next) : Confirmed identity next := by
  obtain ⟨hsettled, hpubd, hanchored, hunanchored⟩ := h
  constructor <;> rw [hagrees.store]
  · exact hsettled
  · rw [hagrees.anchor, hpubd]
  · rwa [hagrees.anchor]
  · rwa [hagrees.anchor]

theorem requireAnchored_eq_ok {logical : WitnessLogicalState} {anchor : WitnessStateAnchorV1}
    (h : requireAnchored identity logical anchor external = .ok ()) :
    external = anchor ∧ Anchored identity logical anchor := by
  simp only [requireAnchored, eq_ok, passed] at h
  obtain ⟨_, hexact, _, ⟨rfl, hgen⟩, digest, hdigest, _, hequal, hvalid⟩ := h
  exact ⟨(exactAnchorEq_true hexact).symm, hgen, hequal ▸ hdigest, hvalid⟩

theorem requirePublishedEquality_final (identity : WitnessEngineIdentity) (state : PersistedWitnessState)
    (world : World) : world.Agrees (finalState (requirePublishedEquality identity state world)) := by
  refine final_bind (readAnchor_final world) fun external middle _ => ?_
  exact (finalState_check _ middle).symm ▸ .refl middle

theorem requirePublishedEquality_ok (h : requirePublishedEquality identity world.store world = .ok u next)
    (hsettled : world.store.pendingAnchor = none) : world.Agrees next ∧ Confirmed identity world := by
  have hagrees := requirePublishedEquality_final identity world.store world
  rw [h] at hagrees
  refine ⟨hagrees, ?_⟩
  obtain ⟨external, middle, hread, h⟩ := state_bind_eq_ok.mp h
  obtain ⟨-, rfl⟩ := readAnchor_ok hread
  replace h := (check_eq_ok.mp h).1
  unfold publishedEquality at h
  split at h
  · next hpubd hexternal =>
    have hgen : world.store.logical.stateGeneration = 0 := by simpa using h
    exact ⟨hsettled, hexternal.trans hpubd.symm, by simp [hexternal], fun _ => hgen⟩
  · next anchor external hpubd hexternal =>
    obtain ⟨rfl, hanchored⟩ := requireAnchored_eq_ok h
    refine ⟨hsettled, hexternal.trans hpubd.symm, ?_, by simp [hexternal]⟩
    intro anchor hanchor
    obtain rfl := some_unique hexternal hanchor
    exact hanchored
  · exact absurd h (by simp)

theorem storeMarkAnchorPublished_eq_ok {candidateDigest : Digest32}
    {current marked : PersistedWitnessState} (h : storeMarkAnchorPublished witnessId candidateDigest current = .ok marked) :
    ∃ candidate, current.pendingAnchor = some candidate ∧ marked = current.marked candidate := by
  simp only [storeMarkAnchorPublished, eq_ok] at h
  obtain ⟨_, hload, candidate, hpend, _, -, _, -, _, -, _, -, rfl⟩ := h
  obtain ⟨rfl, -⟩ := storeLoad_eq_ok hload
  exact ⟨candidate, hpend, rfl⟩

theorem markPublished_final (world : World)
    (hpend : world.store.pendingAnchor = some candidate) (hanchor : world.anchor = some candidate) :
    world.Publishing (finalState (markPublished candidate world)) := by
  refine final_bind ((finalState_check _ world).symm ▸ .refl world) fun digest middle hdigest => ?_
  obtain ⟨-, rfl⟩ := check_eq_ok.mp hdigest
  unfold markAnchorPublished
  rcases writeCall_final mapStoreError _ world with hagrees | ⟨before, _, hagrees, hchange⟩
  · exact hagrees.publishing
  · simp only [eq_ok, Prod.mk.injEq, true_and] at hchange
    obtain ⟨marked, hmark, hnext⟩ := hchange
    obtain ⟨marking, hmarking, rfl⟩ := storeMarkAnchorPublished_eq_ok hmark
    rw [hagrees.store] at hmarking hnext
    obtain rfl := some_unique hmarking hpend
    rw [← hnext]
    refine ⟨hagrees.witnessId, ?_⟩
    rw [World.pair_write, hagrees.pair]
    exact .single (.mark hpend hanchor)

theorem anchorCompareAndSwap_eq_ok
    (h : anchorCompareAndSwap witnessId expected candidate current = .ok (response, after)) :
    after = current ∨ after = some candidate := by
  simp only [anchorCompareAndSwap, bind_eq_ok] at h
  obtain ⟨_, -, _, -, _, -, loaded, hload, h⟩ := h
  obtain rfl := loadAnchor_eq_ok hload
  split at h
  · simp only [pure_eq_ok, Prod.mk.injEq] at h
    exact .inl h.2.symm
  · simp only [bind_eq_ok] at h
    obtain ⟨_, -, h⟩ := h
    split at h
    · simp only [pure_eq_ok, Prod.mk.injEq] at h
      exact .inl h.2.symm
    · simp only [eq_ok, Prod.mk.injEq] at h
      obtain ⟨_, -, _, -, -, rfl⟩ := h
      exact .inr rfl

section Swap

variable (hpend : world.store.pendingAnchor = some candidate) (hanchor : world.anchor = world.store.publishedAnchor)

include hpend hanchor

theorem compareAndSwap_final (expected : Option WitnessStateAnchorV1) :
    world.Publishing (finalState (compareAndSwap expected candidate world)) ∧
      (finalState (compareAndSwap expected candidate world)).store = world.store := by
  rw [compareAndSwap, finalState_bind_check]
  rcases writeCall_final mapAnchorError _ world with hagrees | ⟨before, _, hagrees, hchange⟩
  · exact ⟨hagrees.publishing, hagrees.store⟩
  · simp only [eq_ok, Prod.mk.injEq, Prod.exists] at hchange
    obtain ⟨_, after, hswap, -, hnext⟩ := hchange
    rw [← hnext]
    refine ⟨⟨hagrees.witnessId, ?_⟩, hagrees.store⟩
    rcases anchorCompareAndSwap_eq_ok hswap with rfl | rfl
    · exact hagrees.pair ▸ .refl
    · have hpair : ({ before with anchor := some candidate } : World).pair
          = { world.pair with anchor := some candidate } := by
        simp only [World.pair, hagrees.store, hagrees.history]
      exact hpair ▸ .single (.swap hpend hanchor)

theorem swapAnchor_final (expected : Option WitnessStateAnchorV1) :
    world.Publishing (finalState (swapAnchor expected candidate world)) := by
  refine final_bind (compareAndSwap_final hpend hanchor expected).1 fun outcome swapped _ => ?_
  refine final_bind (resolveSwap_final candidate outcome swapped).publishing fun _ resolved _ => ?_
  refine final_bind (readAnchor_final resolved).publishing fun _ confirmed _ => ?_
  exact (finalState_check _ confirmed).symm ▸ .refl confirmed

theorem swapAnchor_ok (h : swapAnchor expected candidate world = .ok u next) :
    next.store = world.store ∧ next.anchor = some candidate := by
  obtain ⟨outcome, swapped, hswap, h⟩ := state_bind_eq_ok.mp h
  obtain ⟨_, resolved, hresolve, h⟩ := state_bind_eq_ok.mp h
  obtain ⟨observed, confirmed, hread, h⟩ := state_bind_eq_ok.mp h
  obtain ⟨hconfirm, rfl⟩ := check_eq_ok.mp h
  have hswapped := (compareAndSwap_final hpend hanchor expected).2
  have hresolved := resolveSwap_final candidate outcome swapped
  rw [hswap] at hswapped
  rw [hresolve] at hresolved
  obtain ⟨hagrees, rfl⟩ := readAnchor_ok hread
  exact ⟨(hagrees.store.trans hresolved.store).trans hswapped, hagrees.anchor.trans (confirmReadback_eq_ok hconfirm)⟩

end Swap

-- Publishing a pending anchor: either it is out already, or it follows the published one.
theorem publishPending_final (identity : WitnessEngineIdentity) (world : World)
    (hpend : world.store.pendingAnchor = some candidate) :
    world.Publishing (finalState (publishPending identity world.store candidate world)) := by
  refine final_bind ((finalState_check _ world).symm ▸ .refl world) fun _ _ hvalid => ?_
  obtain ⟨-, rfl⟩ := check_eq_ok.mp hvalid
  refine final_bind (readAnchor_final world).publishing fun external read hread => ?_
  obtain ⟨hagrees, rfl⟩ := readAnchor_ok hread
  rw [← hagrees.anchor, ← hagrees.store]
  rw [← hagrees.store] at hpend
  by_cases hobserved : observedIs read.anchor candidate = true
  · rw [if_pos hobserved]
    exact markPublished_final read hpend (observedIs_true hobserved)
  · rw [if_neg hobserved]
    refine final_bind ((finalState_check _ read).symm ▸ .refl read) fun matching _ hmatching => ?_
    obtain ⟨hpred, rfl⟩ := check_eq_ok.mp hmatching
    refine final_bind ((finalState_check _ read).symm ▸ .refl read) fun _ _ hreject => ?_
    obtain ⟨hreject, rfl⟩ := check_eq_ok.mp hreject
    obtain rfl : matching = true := by simpa using hreject
    have hanchor := predecessorMatches_true hpred
    refine final_bind (swapAnchor_final hpend hanchor _) fun _ swapped hswap => ?_
    obtain ⟨hstore, hswapped⟩ := swapAnchor_ok hpend hanchor hswap
    exact markPublished_final swapped (hstore ▸ hpend) hswapped

theorem reconcile_final (identity : WitnessEngineIdentity) (world : World) :
    world.Publishing (finalState (reconcile identity world.store world)) := by
  unfold reconcile
  cases hpend : world.store.pendingAnchor with
  | none => exact (requirePublishedEquality_final identity world.store world).publishing
  | some candidate => exact publishPending_final identity world hpend

theorem readyState_final (identity : WitnessEngineIdentity) (world : World) :
    world.Publishing (finalState (readyState identity world)) := by
  refine final_bind (load_final world).publishing fun state loaded hload => ?_
  obtain ⟨hagrees, rfl⟩ := load_ok hload
  refine final_bind ((finalState_check _ loaded).symm ▸ .refl loaded) fun _ _ hident => ?_
  obtain ⟨-, rfl⟩ := check_eq_ok.mp hident
  rw [← hagrees.store]
  refine final_bind (reconcile_final identity loaded) fun _ reconciled _ => ?_
  refine final_bind (load_final reconciled).publishing fun ready again _ => ?_
  refine final_bind ((finalState_check _ again).symm ▸ .refl again) fun _ _ hident => ?_
  obtain ⟨-, rfl⟩ := check_eq_ok.mp hident
  refine final_bind ((finalState_check _ again).symm ▸ .refl again) fun _ _ hsettled => ?_
  obtain ⟨-, rfl⟩ := check_eq_ok.mp hsettled
  exact final_bind (requirePublishedEquality_final identity ready again).publishing fun _ _ _ => .refl _

theorem readyState_ok (h : readyState identity world = .ok ready next) :
    world.Publishing next ∧ ready = next.store ∧ Confirmed identity next := by
  have hpubl := readyState_final identity world
  rw [h] at hpubl
  refine ⟨hpubl, ?_⟩
  obtain ⟨_, _, -, h⟩ := state_bind_eq_ok.mp h
  obtain ⟨_, _, -, h⟩ := state_bind_eq_ok.mp h
  obtain ⟨_, reconciled, -, h⟩ := state_bind_eq_ok.mp h
  obtain ⟨_, again, hload, h⟩ := state_bind_eq_ok.mp h
  obtain ⟨hagrees, rfl⟩ := load_ok hload
  simp only [state_eq_ok, rejectIf_eq_ok] at h
  obtain ⟨_, _, ⟨-, rfl⟩, _, _, ⟨hsettled, rfl⟩, _, final, hequality, rfl, rfl⟩ := h
  rw [← hagrees.store] at hsettled hequality ⊢
  obtain ⟨hfinal, hconf⟩ := requirePublishedEquality_ok hequality (by simpa using hsettled)
  exact ⟨hfinal.store.symm, hconf.agrees hfinal⟩

end Jury.Engine
