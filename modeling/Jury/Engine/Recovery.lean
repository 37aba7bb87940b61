import Jury.Engine.Transition.Theorems

-- What the storages hold after any interruption is enough to go on: when both answer, what is pending
-- can be published, and what is published can be confirmed.
namespace Jury.Engine

open Lib Lib.SplitWrite Protocol Vault Witness PersistedWitnessState

section Calls

variable {α : Type} {world : World}

theorem readCall_quiet {read : World → Except StorageErrorKind α} (hquiet : world.faults = [])
    (hread : read world = .ok a) : readCall mapError read world = .ok a world := by
  simp [readCall, World.nextFault, hquiet, hread]

theorem writeCall_quiet {change : World → Except StorageErrorKind (α × World)} (hquiet : world.faults = [])
    (hchange : change world = .ok (a, next)) : writeCall mapError change world = .ok a next := by
  simp [writeCall, World.nextFault, hquiet, hchange]

end Calls

theorem check_quiet {ε σ α : Type} {x : Except ε α} {a : α} (h : x = .ok a) (s : σ) : check x s = .ok a s :=
  check_eq_ok.mpr ⟨h, rfl⟩

theorem boundedJson_eq_ok {size : Nat} {kind : StorageErrorKind} {u : Unit} :
    boundedJson size kind = .ok u ↔ size ≤ MAX_ANCHOR_HTTP_BYTES := by
  simp [boundedJson]

theorem exactAnchorEq_self {anchor : WitnessStateAnchorV1} (h : anchor.canonicalBytes = .ok bytes) :
    exactAnchorEq anchor anchor = .ok true := by
  simp only [exactAnchorEq, eq_ok, orRefuse_eq_ok, beq_iff_eq]
  exact ⟨bytes, h, bytes, h, rfl⟩

variable {state : PersistedWitnessState} {identity : WitnessEngineIdentity}

theorem requireSafeClock_of_le {nowMs : UInt64}
    (h : state.logical.lastAcceptedWallTimeMs.toNat ≤ nowMs.toNat + ACCEPTED_CLOCK_SKEW_MS.toNat) :
    requireSafeClock state nowMs = .ok () := by
  simpa only [requireSafeClock, rejectIf_eq_ok, decide_eq_false_iff_not, saturatingAdd_lt_iff, not_lt] using h

theorem publishable_eq_ok {witnessId : PrincipalId} {candidate : WitnessStateAnchorV1}
    (h : publishable witnessId candidate = .ok ()) :
    validateCandidate witnessId candidate = .ok () ∧
      (AnchorCasRequest.mk (some ZERO_DIGEST) candidate).jsonSize ≤ MAX_ANCHOR_HTTP_BYTES ∧
      (AnchorCasResponse.mk .applied (some candidate)).jsonSize ≤ MAX_ANCHOR_HTTP_BYTES := by
  simp only [publishable, bind_eq_ok, boundedJson_eq_ok] at h
  obtain ⟨_, hvalid, _, hrequest, hresp⟩ := h
  exact ⟨hvalid, hrequest, hresp⟩

theorem validateCandidate_eq_ok (h : validateCandidate witnessId candidate = .ok ()) :
    candidate.validateShape = .ok () ∧ candidate.witnessId = witnessId := by
  simp only [validateCandidate, eq_ok, bne_eq_false_iff_eq] at h
  obtain ⟨_, hshape, hwitness⟩ := h
  exact ⟨hshape, hwitness⟩

def World.marked (world : World) (candidate : WitnessStateAnchorV1) : World :=
  world.write (world.store.marked candidate)

variable [Crypto]

-- An identity that is this witness whenever it can be reached, and signs with the key it shows.
structure Holds (descriptor : PrincipalDescriptorV1) (identity : WitnessEngineIdentity) : Prop where
  principalId : identity.principalId = descriptor.principalId
  shown : ∀ other, identity.publicDescriptor = some other → other = descriptor
  signs : ∀ message signature, identity.signWitnessStatement message = some signature →
    verifyBytes descriptor.verificationPublicKey message signature = true

-- An anchor that every identity with this descriptor accepts as its own.
def SignedBy (descriptor : PrincipalDescriptorV1) (anchor : WitnessStateAnchorV1) : Prop :=
  ∀ identity : WitnessEngineIdentity, identity.publicDescriptor = some descriptor →
    validateAnchor identity anchor = .ok ()

theorem Holds.signedBy {descriptor : PrincipalDescriptorV1} (h : Holds descriptor identity) :
    Signs identity (SignedBy descriptor) := by
  intro state nowMs anchor hbuild other hother
  simp only [buildAnchor, eq_ok, orRefuse_eq_ok] at hbuild
  obtain ⟨found, hfound, _, -, _, -, _, -, preimage, hpre, signature, hsig, rfl⟩ := hbuild
  obtain rfl := h.shown found hfound
  simp only [validateAnchor, eq_ok, orRefuse_eq_ok, passed]
  exact ⟨found, hother, (), ⟨⟨rfl, trivial⟩, rfl⟩, preimage, hpre, h.signs _ _ hsig⟩

section Covers

variable {signed : WitnessStateAnchorV1 → Prop} {witnessId : PrincipalId} {logical : WitnessLogicalState}
  {published : Option WitnessStateAnchorV1} {candidate : WitnessStateAnchorV1}

section Kept

variable (h : Covers signed witnessId logical published candidate)

include h

theorem Covers.canonicalBytes : ∃ bytes, candidate.canonicalBytes = .ok bytes := by
  obtain ⟨digest, hdigest⟩ := h.hashed
  simp only [WitnessStateAnchorV1.digest, bind_eq_ok] at hdigest
  obtain ⟨_, hpre, -⟩ := hdigest
  obtain ⟨hshape, content, hfields, -⟩ := signedPreimage_eq_ok.mp hpre
  exact ⟨_, signedBytes_eq_ok.mpr ⟨hshape, content, hfields, rfl⟩⟩

theorem Covers.exact : exactAnchorEq candidate candidate = .ok true := by
  obtain ⟨bytes, hbytes⟩ := h.canonicalBytes
  exact exactAnchorEq_self hbytes

theorem Covers.stateGeneration_ne_zero : candidate.stateGeneration ≠ 0 := by
  have hshape := (validateCandidate_eq_ok (publishable_eq_ok h.publishable).1).1
  simp only [WitnessStateAnchorV1.validateShape, rejectIf_eq_ok, Bool.or_eq_false_iff, beq_eq_false_iff_ne] at hshape
  exact hshape.1.1.2

theorem Covers.loadAnchor : loadAnchor witnessId (some candidate) = .ok (some candidate) := by
  obtain ⟨digest, hdigest⟩ := h.hashed
  simp only [Engine.loadAnchor, eq_ok]
  exact ⟨(), (publishable_eq_ok h.publishable).1, digest, hdigest, trivial⟩

theorem Covers.anchorRead : anchorRead witnessId (some candidate) = .ok (some candidate) := by
  obtain ⟨hvalid, -, hresp⟩ := publishable_eq_ok h.publishable
  refine bind_eq_ok.mpr ⟨_, h.loadAnchor, bind_eq_ok.mpr ⟨(), ?_, bind_eq_ok.mpr ⟨(), hvalid, rfl⟩⟩⟩
  exact boundedJson_eq_ok.mpr (candidate.jsonSize_le_response.trans hresp)

end Kept

theorem Covers.storeLoad (h : Covers signed witnessId state.logical published candidate)
    (hsize : state.jsonSize ≤ jsonSize ⟨state.logical, published, some candidate⟩) :
    storeLoad witnessId state = .ok state := by
  have hlimit := (encodePersistedState_eq_ok.mp h.encoded).2
  have hdigest := h.digest
  simp only [WitnessLogicalState.databaseStateDigest, bind_eq_ok] at hdigest
  obtain ⟨database, hdatabase, -⟩ := hdigest
  simp only [Engine.storeLoad, eq_ok, passed, not_lt]
  exact ⟨(), hsize.trans hlimit, (), h.owner, database, hdatabase, trivial⟩

end Covers

-- The storages of one witness at rest, as a run leaves them for the next call.
structure Resting (descriptor : PrincipalDescriptorV1) (world : World) : Prop where
  owner : world.witnessId = descriptor.principalId
  coherent : (protocol (SignedBy descriptor) world.witnessId).Coherent world.pair
  unused : world.store.logical.stateGeneration = 0 → world.store.logical = .empty world.witnessId

namespace Resting

variable {descriptor : PrincipalDescriptorV1} {world : World}

theorem storeLoad_empty (witnessId : PrincipalId) : storeLoad witnessId (.empty witnessId) = .ok (.empty witnessId) := by
  have hdatabase : ∃ database, (WitnessLogicalState.empty witnessId).canonicalDatabaseState = .ok database := ⟨_, rfl⟩
  have hsize : (empty witnessId).jsonSize ≤ MAX_PERSISTED_WITNESS_STATE_BYTES := by
    have hvaults : (∅ : BTreeMap VaultId RegisteredWitnessVault).toList = [] := rfl
    have hreplay : (∅ : BTreeMap ReplayKey WitnessReplayEntry).toList = [] := rfl
    simp [hvaults, hreplay, jsonSize, empty, WitnessLogicalState.jsonSize,
      WitnessLogicalState.empty, sequenceJsonSize, fieldJsonSize, optionJsonSize, identifierJsonSize, u64JsonSize,
      decimalSize, MAX_PERSISTED_WITNESS_STATE_BYTES]
  obtain ⟨database, hdatabase⟩ := hdatabase
  simp only [storeLoad, eq_ok, passed, not_lt]
  exact ⟨(), hsize, (), rfl, database, hdatabase, trivial⟩

variable (h : Resting descriptor world)

include h

theorem agrees (hagrees : world.Agrees next) : Resting descriptor next := by
  refine ⟨hagrees.witnessId.trans h.owner, ?_, ?_⟩
  · rw [hagrees.witnessId, hagrees.pair]
    exact h.coherent
  · rw [hagrees.witnessId, hagrees.store]
    exact h.unused

theorem publishing (hpubl : world.Publishing next) : Resting descriptor next := by
  refine ⟨hpubl.witnessId.trans h.owner, ?_, ?_⟩
  · rw [hpubl.witnessId]
    exact hpubl.steps.coherent h.coherent
  · rw [hpubl.witnessId, hpubl.logical_eq]
    exact h.unused

theorem covers_pending (hpend : world.store.pendingAnchor = some candidate) :
    Covers (SignedBy descriptor) world.witnessId world.store.logical world.store.publishedAnchor candidate :=
  h.coherent.sound_store.covers candidate hpend

theorem covers_published (hpubd : world.store.publishedAnchor = some candidate) :
    ∃ logical predecessor, Covers (SignedBy descriptor) world.witnessId logical predecessor candidate :=
  h.coherent.sound_store.vouched candidate hpubd

theorem covers_anchor (hanchor : world.anchor = some candidate) :
    ∃ logical predecessor, Covers (SignedBy descriptor) world.witnessId logical predecessor candidate := by
  rcases h.coherent.anchored with hpubd | ⟨pending, hpend, hequal⟩
  · exact h.covers_published (hpubd.symm.trans hanchor)
  · obtain rfl : pending = candidate := some_unique hequal hanchor
    exact ⟨_, _, h.covers_pending hpend⟩

theorem fresh (hzero : world.store.logical.stateGeneration = 0) :
    world.store.publishedAnchor = none ∧ world.store.pendingAnchor = none := by
  have hsound := h.coherent.sound_store
  have hgen : (protocol (SignedBy descriptor) world.witnessId).generation world.pair.store.value = 0 :=
    congrArg UInt64.toNat hzero
  have hpend : world.store.pendingAnchor = none := by
    by_contra hpend
    have hfollows := hsound.follows hpend
    omega
  refine ⟨?_, hpend⟩
  cases hpubd : world.store.publishedAnchor with
  | none => rfl
  | some anchor =>
    obtain ⟨_, _, hcovers⟩ := h.covers_published hpubd
    have hstamp := hsound.settled hpend
    rw [hgen] at hstamp
    simp only [World.pair, record, hpubd, Protocol.stampOf, protocol] at hstamp
    exact absurd (UInt64.toNat_inj.mp hstamp) hcovers.stateGeneration_ne_zero

theorem settled_cases (hsettled : world.store.pendingAnchor = none) :
    world.store = .empty world.witnessId ∧ world.anchor = none ∨
      ∃ anchor predecessor, world.store.publishedAnchor = some anchor ∧ world.anchor = some anchor ∧
        anchor.stateGeneration = world.store.logical.stateGeneration ∧
        Covers (SignedBy descriptor) world.witnessId world.store.logical predecessor anchor := by
  have hanchored : world.anchor = world.store.publishedAnchor := by
    rcases h.coherent.anchored with hpubd | ⟨pending, hpend, -⟩
    · exact hpubd
    · exact absurd (hsettled.symm.trans hpend) (by simp)
  have hstamp := h.coherent.sound_store.settled hsettled
  cases hpubd : world.store.publishedAnchor with
  | none =>
    simp only [World.pair, record, hpubd, Protocol.stampOf, protocol] at hstamp
    have hempty := h.unused (UInt64.toNat_inj.mp hstamp.symm)
    refine .inl ⟨?_, hanchored.trans hpubd⟩
    cases hstore : world.store with
    | mk logical published pending =>
      rw [hstore] at hempty hpubd hsettled
      simp_all [empty]
  | some anchor =>
    obtain ⟨predecessor, hcovers⟩ := h.coherent.sound_store.covered anchor hsettled hpubd
    simp only [World.pair, record, hpubd, Protocol.stampOf, protocol] at hstamp
    exact .inr ⟨anchor, predecessor, rfl, hanchored.trans hpubd, UInt64.toNat_inj.mp hstamp, hcovers⟩

theorem storeLoad_ok : storeLoad world.witnessId world.store = .ok world.store := by
  cases hpend : world.store.pendingAnchor with
  | some candidate =>
    refine (h.covers_pending hpend).storeLoad (le_of_eq ?_)
    rw [← hpend]
  | none =>
    rcases h.settled_cases hpend with ⟨hempty, -⟩ | ⟨anchor, predecessor, hpubd, -, -, hcovers⟩
    · rw [hempty]
      exact storeLoad_empty world.witnessId
    · refine hcovers.storeLoad ?_
      have hstore : world.store = ⟨world.store.logical, some anchor, none⟩ := by rw [← hpubd, ← hpend]
      rw [hstore]
      exact jsonSize_published_le _ predecessor anchor

theorem load_quiet (hquiet : world.faults = []) : load world = .ok world.store world :=
  readCall_quiet hquiet h.storeLoad_ok

theorem readAnchor_quiet (hquiet : world.faults = []) : readAnchor world = .ok world.anchor world := by
  refine readCall_quiet hquiet ?_
  cases hanchor : world.anchor with
  | none => rfl
  | some anchor =>
    obtain ⟨_, _, hcovers⟩ := h.covers_anchor hanchor
    exact hcovers.anchorRead

theorem owner_logical : world.store.logical.witnessId = world.witnessId := by
  cases hpend : world.store.pendingAnchor with
  | some candidate => exact (h.covers_pending hpend).owner
  | none =>
    rcases h.settled_cases hpend with ⟨hempty, -⟩ | ⟨_, _, -, -, -, hcovers⟩
    · rw [hempty]
      rfl
    · exact hcovers.owner

theorem validateStoredIdentity (hident : identity.principalId = descriptor.principalId) :
    validateStoredIdentity identity world.store = .ok () := by
  simp only [Engine.validateStoredIdentity, eq_ok, bne_eq_false_iff_eq, Bool.and_eq_false_iff]
  refine ⟨(), h.owner_logical.trans (h.owner.trans hident.symm), ?_⟩
  by_cases hzero : world.store.logical.stateGeneration = 0
  · obtain ⟨hpubd, hpend⟩ := h.fresh hzero
    refine .inr ?_
    rw [h.unused hzero, hpubd, hpend]
    rfl
  · exact .inl (by simpa using hzero)

theorem publishedEquality (hident : identity.publicDescriptor = some descriptor)
    (hsettled : world.store.pendingAnchor = none) : publishedEquality identity world.store world.anchor = .ok () := by
  rcases h.settled_cases hsettled with ⟨hempty, hanchor⟩ | ⟨anchor, _, hpubd, hanchor, hgen, hcovers⟩
  · rw [hempty, hanchor]
    rfl
  · unfold Engine.publishedEquality
    rw [hpubd, hanchor]
    simp only [requireAnchored, eq_ok, passed]
    exact ⟨true, hcovers.exact, (), ⟨rfl, hgen⟩, _, hcovers.digest, (), rfl, hcovers.signed identity hident⟩

theorem requirePublishedEquality_quiet (hquiet : world.faults = [])
    (hident : identity.publicDescriptor = some descriptor) (hsettled : world.store.pendingAnchor = none) :
    requirePublishedEquality identity world.store world = .ok () world :=
  state_bind_eq_ok.mpr ⟨_, _, h.readAnchor_quiet hquiet, check_quiet (h.publishedEquality hident hsettled) world⟩

section Pending

variable (hpend : world.store.pendingAnchor = some candidate)

include hpend

theorem predecessor_digest :
    ∃ digest : Option Digest32,
      (world.store.publishedAnchor.mapM fun anchor => anchor.digest.mapError fun _ => StorageErrorKind.unavailable) =
        .ok digest ∧ candidate.predecessorAnchorDigest = digest.getD ZERO_DIGEST := by
  have hpred := (h.covers_pending hpend).predecessor
  cases hpubd : world.store.publishedAnchor with
  | none =>
    rw [hpubd] at hpred
    exact ⟨none, rfl, (Except.ok.inj hpred).symm⟩
  | some anchor =>
    rw [hpubd] at hpred
    have hdigest := orRefuse_eq_ok.mp hpred
    refine ⟨some candidate.predecessorAnchorDigest, ?_, rfl⟩
    simp [hdigest, Except.mapError]

theorem successor_generation : candidate.stateGeneration = successorGeneration world.store.publishedAnchor := by
  have hsound := h.coherent.sound_store
  have hstamp : candidate.stateGeneration.toNat = world.store.logical.stateGeneration.toNat :=
    hsound.stamped candidate hpend
  have hfollows : (protocol (SignedBy descriptor) world.witnessId).stampOf world.store.publishedAnchor + 1 =
      world.store.logical.stateGeneration.toNat := hsound.follows (by simp [World.pair, record, hpend])
  have hbound := (h.covers_pending hpend).bound
  refine UInt64.toNat_inj.mp (hstamp.trans (hfollows.symm.trans ?_))
  cases hpubd : world.store.publishedAnchor with
  | none => rfl
  | some anchor =>
    rw [hpubd] at hfollows
    change anchor.stateGeneration.toNat + 1 = _ at hfollows
    change anchor.stateGeneration.toNat + 1 = (saturatingAdd anchor.stateGeneration 1).toNat
    rw [toNat_saturatingAdd]
    have hone : (1 : UInt64).toNat = 1 := rfl
    omega

theorem validatePending (hident : identity.publicDescriptor = some descriptor) :
    validatePending identity world.store candidate = .ok () := by
  have hcovers := h.covers_pending hpend
  have hstamp : candidate.stateGeneration = world.store.logical.stateGeneration :=
    UInt64.toNat_inj.mp (h.coherent.sound_store.stamped candidate hpend)
  simp only [Engine.validatePending, eq_ok, passed]
  exact ⟨(), hcovers.signed identity hident, _, hcovers.digest, _, hcovers.predecessor, ⟨hstamp, rfl⟩, rfl⟩

variable (hquiet : world.faults = [])

include hquiet

theorem markPublished_quiet : markPublished candidate world = .ok () (world.marked candidate) := by
  have hcovers := h.covers_pending hpend
  obtain ⟨digest, hdigest⟩ := hcovers.hashed
  have hencoded : encodePersistedState (world.store.marked candidate) = .ok () := by
    obtain ⟨hlistable, hlimit⟩ := encodePersistedState_eq_ok.mp hcovers.encoded
    exact encodePersistedState_eq_ok.mpr
      ⟨hlistable, (jsonSize_published_le _ _ candidate).trans hlimit⟩
  have hmark : storeMarkAnchorPublished world.witnessId digest world.store = .ok (world.store.marked candidate) := by
    refine bind_eq_ok.mpr ⟨_, h.storeLoad_ok, bind_eq_ok.mpr ⟨candidate, orReject_eq_ok.mpr hpend, ?_⟩⟩
    refine bind_eq_ok.mpr ⟨digest, mapError_eq_ok.mpr hdigest, bind_eq_ok.mpr ⟨(), by simp, ?_⟩⟩
    refine bind_eq_ok.mpr ⟨(), hencoded, bind_eq_ok.mpr ⟨(), ?_, rfl⟩⟩
    simpa using hcovers.bound
  refine state_bind_eq_ok.mpr ⟨digest, world, check_quiet (orRefuse_eq_ok.mpr hdigest) world, writeCall_quiet hquiet ?_⟩
  exact bind_eq_ok.mpr ⟨_, hmark, rfl⟩

section Swap

variable (hanchor : world.anchor = world.store.publishedAnchor) (hnew : world.anchor ≠ some candidate)

include hanchor hnew

theorem compareAndSwap_quiet :
    compareAndSwap world.store.publishedAnchor candidate world =
      .ok .published { world with anchor := some candidate } := by
  have hcovers := h.covers_pending hpend
  obtain ⟨hvalid, hrequest, hresp⟩ := publishable_eq_ok hcovers.publishable
  obtain ⟨expected, hexp, hpred⟩ := h.predecessor_digest hpend
  obtain ⟨digest, hdigest⟩ := hcovers.hashed
  have hload : loadAnchor world.witnessId world.store.publishedAnchor = .ok world.store.publishedAnchor := by
    cases hpubd : world.store.publishedAnchor with
    | none => rfl
    | some anchor =>
      obtain ⟨_, _, hvouched⟩ := h.covers_published hpubd
      exact hvouched.loadAnchor
  have hbounded : boundedJson (AnchorCasRequest.mk expected candidate).jsonSize .capacityExhausted = .ok () :=
    boundedJson_eq_ok.mpr ((AnchorCasRequest.jsonSize_le expected ZERO_DIGEST candidate).trans hrequest)
  have hgen := h.successor_generation hpend
  rw [hanchor] at hnew
  have hswap : anchorCompareAndSwap world.witnessId world.store.publishedAnchor candidate world.anchor =
      .ok (⟨.applied, some candidate⟩, some candidate) := by
    rw [hanchor, anchorCompareAndSwap]
    refine bind_eq_ok.mpr ⟨(), hvalid, bind_eq_ok.mpr ⟨expected, hexp, ?_⟩⟩
    refine bind_eq_ok.mpr ⟨(), hbounded, bind_eq_ok.mpr ⟨_, hload, ?_⟩⟩
    rw [if_neg hnew]
    refine bind_eq_ok.mpr ⟨expected, hexp, ?_⟩
    rw [if_neg (by simp [← hpred, ← hgen])]
    refine bind_eq_ok.mpr ⟨digest, by rw [hdigest]; rfl, bind_eq_ok.mpr ⟨(), ?_, rfl⟩⟩
    have hbound := hcovers.bound
    have hstamp : candidate.stateGeneration.toNat = world.store.logical.stateGeneration.toNat :=
      h.coherent.sound_store.stamped candidate hpend
    simp only [rejectIf_eq_ok, decide_eq_false_iff_not]
    omega
  refine state_bind_eq_ok.mpr ⟨⟨.applied, some candidate⟩, _, writeCall_quiet hquiet ?_, check_quiet ?_ _⟩
  · exact bind_eq_ok.mpr ⟨_, hswap, rfl⟩
  · rw [mapError_eq_ok]
    refine bind_eq_ok.mpr ⟨(), boundedJson_eq_ok.mpr hresp, bind_eq_ok.mpr ⟨(), ?_, rfl⟩⟩
    simp

theorem swapAnchor_quiet :
    swapAnchor world.store.publishedAnchor candidate world = .ok () { world with anchor := some candidate } := by
  have hresting : Resting descriptor { world with anchor := some candidate } :=
    h.publishing ⟨rfl, .single (.swap hpend hanchor)⟩
  refine state_bind_eq_ok.mpr ⟨_, _, h.compareAndSwap_quiet hpend hquiet hanchor hnew, ?_⟩
  refine state_bind_eq_ok.mpr ⟨(), _, rfl, state_bind_eq_ok.mpr ⟨_, _, hresting.readAnchor_quiet hquiet, check_quiet ?_ _⟩⟩
  simp only [confirmReadback, eq_ok, Bool.not_eq_false']
  exact ⟨candidate, rfl, true, (h.covers_pending hpend).exact, rfl⟩

end Swap

-- A pending anchor that is out already is recognised, and one that is not is taken.
theorem publishPending_quiet (hident : identity.publicDescriptor = some descriptor) :
    ∃ next, publishPending identity world.store candidate world = .ok () next ∧ next.faults = [] ∧
      next.store.pendingAnchor = none := by
  have hexact := (h.covers_pending hpend).exact
  have hcheck := check_quiet (h.validatePending hpend hident) world
  by_cases hout : world.anchor = some candidate
  · have hobserved : observedIs world.anchor candidate = true := by
      rw [hout, observedIs, Option.any_some, hexact]
    refine ⟨world.marked candidate, state_bind_eq_ok.mpr ⟨(), world, hcheck, ?_⟩, hquiet, rfl⟩
    refine state_bind_eq_ok.mpr ⟨_, world, h.readAnchor_quiet hquiet, ?_⟩
    rw [if_pos hobserved]
    exact h.markPublished_quiet hpend hquiet
  · have hanchor : world.anchor = world.store.publishedAnchor := by
      rcases h.coherent.anchored with hpubd | ⟨pending, hother, hequal⟩
      · exact hpubd
      · obtain rfl : pending = candidate := some_unique hother hpend
        exact absurd hequal hout
    have hswapped : Resting descriptor { world with anchor := some candidate } :=
      h.publishing ⟨rfl, .single (.swap hpend hanchor)⟩
    refine ⟨{ world with anchor := some candidate }.marked candidate, state_bind_eq_ok.mpr ⟨(), world, hcheck, ?_⟩, hquiet, rfl⟩
    refine state_bind_eq_ok.mpr ⟨_, world, h.readAnchor_quiet hquiet, ?_⟩
    rw [if_neg fun hobserved => hout (observedIs_true hobserved)]
    have hmatches : predecessorMatches world.store.publishedAnchor world.anchor = .ok true := by
      rw [hanchor]
      cases hpubd : world.store.publishedAnchor with
      | none => rfl
      | some anchor =>
        obtain ⟨_, _, hvouched⟩ := h.covers_published hpubd
        exact hvouched.exact
    refine state_bind_eq_ok.mpr ⟨true, world, check_quiet hmatches world, state_bind_eq_ok.mpr ⟨(), world, check_quiet rfl world, ?_⟩⟩
    refine state_bind_eq_ok.mpr ⟨(), _, h.swapAnchor_quiet hpend hquiet hanchor hout, ?_⟩
    exact hswapped.markPublished_quiet hpend hquiet

end Pending

theorem reconcile_quiet (hquiet : world.faults = []) (hident : identity.publicDescriptor = some descriptor) :
    ∃ next, reconcile identity world.store world = .ok () next ∧ next.faults = [] ∧ next.store.pendingAnchor = none := by
  unfold reconcile
  cases hpend : world.store.pendingAnchor with
  | none => exact ⟨world, h.requirePublishedEquality_quiet hquiet hident hpend, hquiet, hpend⟩
  | some candidate => exact h.publishPending_quiet hpend hquiet hident

theorem readyState_quiet (hquiet : world.faults = []) (hprin : identity.principalId = descriptor.principalId)
    (hident : identity.publicDescriptor = some descriptor) :
    ∃ next, readyState identity world = .ok next.store next := by
  obtain ⟨next, hreconcile, hnext, hsettled⟩ := h.reconcile_quiet hquiet hident
  have hresting : Resting descriptor next := by
    have hpubl := reconcile_final identity world
    rw [hreconcile] at hpubl
    exact h.publishing hpubl
  refine ⟨next, state_bind_eq_ok.mpr ⟨_, _, h.load_quiet hquiet, ?_⟩⟩
  refine state_bind_eq_ok.mpr ⟨(), _, check_quiet (h.validateStoredIdentity hprin) world, ?_⟩
  refine state_bind_eq_ok.mpr ⟨(), _, hreconcile, state_bind_eq_ok.mpr ⟨_, _, hresting.load_quiet hnext, ?_⟩⟩
  refine state_bind_eq_ok.mpr ⟨(), _, check_quiet (hresting.validateStoredIdentity hprin) next, ?_⟩
  refine state_bind_eq_ok.mpr ⟨(), _, check_quiet ?_ next, state_bind_eq_ok.mpr ⟨(), _, ?_, rfl⟩⟩
  · rw [hsettled]
    rfl
  · exact hresting.requirePublishedEquality_quiet hnext hident hsettled

end Resting

section Runs

variable {descriptor : PrincipalDescriptorV1} {calls : List Call}

theorem final_resting (hcalls : ∀ call ∈ calls, Holds descriptor call.context.identity) :
    Resting descriptor (engine.final (World.initial descriptor.principalId) calls) := by
  obtain ⟨howner, hcoh⟩ := final_coherent descriptor.principalId fun call hcall => (hcalls call hcall).signedBy
  refine ⟨howner, ?_, ?_⟩
  · rw [howner]
    exact hcoh
  · rw [howner]
    refine final_logical (P := fun logical => logical.stateGeneration = 0 → logical = .empty descriptor.principalId)
      (fun _ => rfl) fun before after call _ _ hstepped hzero => ?_
    obtain ⟨-, -, hadv⟩ := hstepped
    have hnext := (advanceGeneration_eq_ok hadv).1
    rw [hzero] at hnext
    exact absurd hnext (by simp)

-- However the calls of one witness were interrupted, the next check finds it ready once its storages
-- answer and its clock is not too far behind.
theorem check_ready_recovers (descriptor : PrincipalDescriptorV1) (calls : List Call)
    (hcalls : ∀ call ∈ calls, Holds descriptor call.context.identity) (context : EngineContext)
    (hidentity : Holds descriptor context.identity)
    (hreached : context.identity.publicDescriptor = some descriptor) (hfaults : context.faults = [])
    (hclock : (engine.final (World.initial descriptor.principalId) calls).store.logical.lastAcceptedWallTimeMs.toNat
      ≤ context.wallTimeMs.toNat + 60000) :
    ∃ next, (engine.final (World.initial descriptor.principalId) calls).serve ⟨context, .checkReady⟩ =
        (.ok .ready, next) ∧ Confirmed context.identity next ∧
      next.store.logical = (engine.final (World.initial descriptor.principalId) calls).store.logical := by
  have hresting := final_resting hcalls
  generalize engine.final (World.initial descriptor.principalId) calls = world at *
  replace hresting : Resting descriptor { world with faults := context.faults } :=
    hresting.agrees ⟨rfl, rfl, rfl, rfl⟩
  obtain ⟨next, hready⟩ := hresting.readyState_quiet hfaults hidentity.principalId hreached
  obtain ⟨hpubl, -, hconf⟩ := readyState_ok hready
  have hsafe : requireSafeClock next.store context.wallTimeMs = .ok () := by
    refine requireSafeClock_of_le ?_
    rw [hpubl.logical_eq]
    exact hclock
  refine ⟨next, ?_, hconf, hpubl.logical_eq⟩
  have hrun : Operation.run context .checkReady { world with faults := context.faults } = .ok .ready next := by
    rw [Operation.run_eq]
    refine state_bind_eq_ok.mpr ⟨(), _, rfl, state_bind_eq_ok.mpr ⟨_, _, hready, ?_⟩⟩
    exact state_bind_eq_ok.mpr ⟨(), _, check_quiet hsafe next, state_bind_eq_ok.mpr ⟨_, _, check_quiet rfl next, rfl⟩⟩
  simp only [World.serve, hrun]

end Runs

end Jury.Engine

namespace Jury.Engine.Sample

open Protocol.Sample Policy.Sample

theorem holds_witness (byte : UInt8) : Holds (descriptor .witness byte) (witness byte) where
  principalId := rfl
  shown := by
    intro other hother
    exact (Option.some.inj hother).symm
  signs := by
    intro message signature hsig
    obtain rfl := Option.some.inj hsig
    exact beq_self_eq_true _

def interrupted : Call :=
  call 10000 (.registerVault policy registration checkpoint material)
    (List.replicate 8 .none ++ [.lostReply .unavailable])

end Jury.Engine.Sample

namespace Jury.Engine

open Protocol.Sample Policy.Sample Engine.Sample

-- The anchor of the interrupted registration is out, the database still has it pending, and the next
-- check settles both.
theorem check_ready_recovers_interrupted :
    (engine.final home [interrupted]).anchor.isSome ∧ (engine.final home [interrupted]).store.publishedAnchor = none ∧
      ∃ next, (engine.final home [interrupted]).serve (call 10001 .checkReady []) = (.ok .ready, next) ∧
        Confirmed (witness 5) next ∧
        next.store.logical = (engine.final home [interrupted]).store.logical := by
  have hcalls : ∀ call ∈ [interrupted], Holds (descriptor .witness 5) call.context.identity := by
    intro call hcall
    obtain rfl := List.mem_singleton.mp hcall
    exact holds_witness 5
  have hhome : World.initial (descriptor .witness 5).principalId = home := rfl
  have hrecovers := check_ready_recovers (descriptor .witness 5) [interrupted] hcalls (call 10001 .checkReady []).context
    (holds_witness 5) rfl rfl
  rw [hhome] at hrecovers
  have hclock : (engine.final home [interrupted]).store.logical.lastAcceptedWallTimeMs.toNat ≤
      (call 10001 .checkReady []).context.wallTimeMs.toNat + 60000 := by decide +kernel
  exact ⟨by decide +kernel, by decide +kernel, hrecovers hclock⟩

end Jury.Engine
