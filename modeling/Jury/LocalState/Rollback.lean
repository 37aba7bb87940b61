import Jury.Lib.HashChain
import Jury.LocalState.Calls
import Jury.Policy.Replay.Genesis

-- The checkpoint keeps one hash of a whole history. A revision commits to the hash before it, so that the hash is found
-- in another history only behind the same hashes, and what has been accepted is never left again.
namespace Jury.LocalState

open Lib Protocol Vault Policy

theorem hashPreimage_eq_some {revision : SignedPolicyRevisionV1} :
    revision.hashPreimage = some preimage ↔ ∃ signed field, revision.signaturePreimage = some signed ∧
      bytesField signed = some field ∧
      jce "jury-v1/policy-revision/hash" ++ (field ++ revision.signature.bytes) = preimage := by
  simp only [SignedPolicyRevisionV1.hashPreimage, eq_some]
  exact ⟨fun ⟨signed, hsigned, field, hfield, heq⟩ => ⟨signed, field, hsigned, hfield, heq⟩,
    fun ⟨signed, field, hsigned, hfield, heq⟩ => ⟨signed, hsigned, field, hfield, heq⟩⟩

theorem hashPreimage_previous {a b : SignedPolicyRevisionV1} (ha : a.hashPreimage = some preimage)
    (hb : b.hashPreimage = some preimage) : a.previousRevisionHash = b.previousRevisionHash := by
  obtain ⟨signed, field, hsigned, hfield, rfl⟩ := hashPreimage_eq_some.mp ha
  obtain ⟨other, otherField, hother, hotherField, h⟩ := hashPreimage_eq_some.mp hb
  obtain ⟨-, h⟩ := jce_append_inj (by decide) (by decide) h
  obtain ⟨rfl, -⟩ := bytesField_append_inj hotherField hfield h
  simp only [SignedPolicyRevisionV1.signaturePreimage, eq_some] at hsigned hother
  obtain ⟨_, -, _, -, rfl⟩ := hsigned
  obtain ⟨_, -, _, -, h⟩ := hother
  obtain ⟨-, h⟩ := jce_append_inj (by decide) (by decide) h
  simp only [FixedBytes.append_inj, u64be_append_inj] at h
  exact h.2.2.1.symm

theorem fingerprintPreimage_ne_hashPreimage {genesis : PolicyGenesisV1} {revision : SignedPolicyRevisionV1}
    (ha : genesis.fingerprintPreimage = some preimage) : revision.hashPreimage ≠ some preimage := by
  intro hb
  obtain ⟨signed, field, -, -, rfl⟩ := PolicyGenesisV1.fingerprintPreimage_eq_some.mp ha
  obtain ⟨other, otherField, -, -, h⟩ := hashPreimage_eq_some.mp hb
  exact absurd (jce_append_inj (by decide) (by decide) h).1 (by decide)

variable [Crypto]

-- What is hashed in the histories of the journals at hand.
def HashedIn (journals : Set PolicyJournalV1) (preimage : Bytes) : Prop :=
  ∃ journal ∈ journals, journal.genesis.fingerprintPreimage = some preimage ∨
    ∃ revision ∈ journal.revisions, revision.hashPreimage = some preimage

def HashesApart (journals : Set PolicyJournalV1) : Prop :=
  ∀ p q, HashedIn journals p → HashedIn journals q → sha256 p = sha256 q → p = q

def Validated (journals : Set PolicyJournalV1) (candidate : CheckpointCandidate) : Prop :=
  ∃ policy, ∃ journal ∈ journals, ∃ envelopes,
    CheckpointCandidate.fromValidated policy journal envelopes = .ok candidate

def Roots (journals : Set PolicyJournalV1) (hash : Digest32) : Prop :=
  ∃ journal ∈ journals, ∃ preimage, journal.genesis.fingerprintPreimage = some preimage ∧ sha256 preimage = hash

def Follows (journals : Set PolicyJournalV1) (hash before : Digest32) : Prop :=
  ∃ journal ∈ journals, ∃ revision ∈ journal.revisions, ∃ preimage,
    revision.hashPreimage = some preimage ∧ sha256 preimage = hash ∧ revision.previousRevisionHash = before

omit [Crypto] in
theorem relationTo_eq_equal {candidate : CheckpointCandidate} {checkpoint : LocalCheckpoint} :
    candidate.relationTo checkpoint = .ok .equal ↔
      candidate.vaultId = checkpoint.scope.vaultId ∧
        candidate.genesisFingerprint = checkpoint.scope.genesisFingerprint ∧
        candidate.policyHistory.getLast? = some checkpoint.acceptedPublicRevisionHash := by
  constructor
  · intro h
    unfold CheckpointCandidate.relationTo at h
    split at h
    case isTrue => cases h
    case isFalse hscope =>
      simp only [Bool.or_eq_true, bne_iff_ne, not_or, not_not, eq_ok] at hscope h
      obtain ⟨last, hlast, h⟩ := h
      split at h
      case isTrue heq => exact ⟨hscope.1, hscope.2, heq ▸ hlast⟩
      case isFalse =>
        split at h <;> cases h
  · rintro ⟨hvault, hgen, hlast⟩
    rw [relationTo_eq hvault hgen hlast, if_pos rfl]

section History

variable {journals : Set PolicyJournalV1} {candidate other : CheckpointCandidate}

theorem Validated.descends (h : Validated journals candidate) :
    Descends (Roots journals) (Follows journals) candidate.policyHistory := by
  obtain ⟨policy, journal, hjournal, envelopes, h⟩ := h
  simp only [CheckpointCandidate.fromValidated, eq_ok] at h
  obtain ⟨fingerprint, hfp, -, -, ⟨previous, history⟩, hhistory, -, -, -, -, -, -, -, -, rfl⟩ := h
  obtain ⟨-, ⟨hashes, rfl, hhashes⟩, hprev⟩ := extendHistory_hashes hhistory
  refine ⟨fun hash hhash => ?_, fun index before hash hbefore hhash => ?_⟩
  · obtain rfl : fingerprint = hash := by simpa using hhash
    simp only [PolicyGenesisV1.recomputedFingerprint, eq_some] at hfp
    obtain ⟨preimage, hpre, rfl⟩ := hfp
    exact ⟨journal, hjournal, preimage, hpre, rfl⟩
  · have hat := congrArg (·[index]?) hhashes
    have hlinked := congrArg (·[index]?) hprev
    have hlt : index < hashes.length := by simpa using (List.getElem?_eq_some_iff.mp hhash).1
    rw [List.getElem?_cons_succ] at hhash
    simp only [List.getElem?_map, hhash, Option.map_some, Option.map_eq_some_iff] at hat
    obtain ⟨revision, hrev, hcode⟩ := hat
    simp only [List.getElem?_map, hrev, Option.map_some, List.getElem?_dropLast, List.length_cons,
      Nat.add_sub_cancel, if_pos hlt, hbefore, Option.some.injEq] at hlinked
    simp only [SignedPolicyRevisionV1.recomputedHash, eq_some] at hcode
    obtain ⟨preimage, hpre, rfl⟩ := hcode
    exact ⟨journal, hjournal, revision, List.mem_of_getElem? hrev, preimage, hpre, rfl, hlinked⟩

theorem Validated.history (h : Validated journals candidate) :
    ∃ hashes, candidate.policyHistory = candidate.genesisFingerprint :: hashes := by
  obtain ⟨policy, journal, -, envelopes, h⟩ := h
  obtain ⟨hashes, hhistory, -⟩ := (fromValidated_candidate h).hashes
  exact ⟨hashes, hhistory⟩

section Codes

variable (hcodes : HashesApart journals) (h : Validated journals candidate) (h' : Validated journals other)
  {last : Digest32}

include hcodes h h'

theorem HashesApart.same_up_to {index place : Nat} {hash : Digest32}
    (hhash : candidate.policyHistory[index]? = some hash) (hother : other.policyHistory[place]? = some hash) :
    place = index ∧ candidate.policyHistory.take (index + 1) = other.policyHistory.take (index + 1) := by
  refine h.descends.same_up_to h'.descends ?_ ?_ hhash hother
  · rintro _ before ⟨journal, hjournal, preimage, hpre, rfl⟩ ⟨_, hin, revision, hrev, hashed, hhashed, heq, -⟩
    have hsame := hcodes hashed preimage ⟨_, hin, .inr ⟨revision, hrev, hhashed⟩⟩ ⟨_, hjournal, .inl hpre⟩ heq
    exact fingerprintPreimage_ne_hashPreimage hpre (hsame ▸ hhashed)
  · rintro _ _ _ ⟨_, hjournal, revision, hrev, preimage, hpre, rfl, rfl⟩
      ⟨_, hin, revision', hrevision', preimage', hpreimage', heq, rfl⟩
    have hsame := hcodes preimage' preimage ⟨_, hin, .inr ⟨_, hrevision', hpreimage'⟩⟩
      ⟨_, hjournal, .inr ⟨_, hrev, hpre⟩⟩ heq
    exact hashPreimage_previous hpre (hsame ▸ hpreimage')

theorem HashesApart.history_prefix (hlast : candidate.policyHistory.getLast? = some last)
    (hmem : last ∈ other.policyHistory) : candidate.policyHistory <+: other.policyHistory := by
  obtain ⟨place, hplace⟩ := List.mem_iff_getElem?.mp hmem
  rw [List.getLast?_eq_getElem?] at hlast
  have hlen := (List.getElem?_eq_some_iff.mp hlast).1
  have htake := (hcodes.same_up_to h h' hlast hplace).2
  rw [List.take_of_length_le (by omega)] at htake
  exact htake ▸ List.take_prefix _ _

theorem HashesApart.history_eq (hlast : candidate.policyHistory.getLast? = some last)
    (hother : other.policyHistory.getLast? = some last) : candidate.policyHistory = other.policyHistory := by
  have hforth := hcodes.history_prefix h h' hlast (List.mem_of_getLast? hother)
  have hback := hcodes.history_prefix h' h hother (List.mem_of_getLast? hlast)
  exact hforth.eq_of_length_le hback.length_le

-- The fingerprint commits to the vault.
theorem HashesApart.same_vault (hgen : candidate.genesisFingerprint = other.genesisFingerprint) :
    candidate.vaultId = other.vaultId := by
  obtain ⟨policy, journal, hjournal, envelopes, h⟩ := h
  obtain ⟨policy', journal', hjournal', envelopes', h'⟩ := h'
  simp only [CheckpointCandidate.fromValidated, eq_ok, passed, PolicyGenesisV1.recomputedFingerprint, eq_some] at h h'
  obtain ⟨_, ⟨preimage, hpre, rfl⟩, -, ⟨⟨⟨hvault, -⟩, -⟩, -⟩, _, -, -, -, -, -, -, -, -, -, rfl⟩ := h
  obtain ⟨_, ⟨preimage', hpreimage', rfl⟩, -, ⟨⟨⟨hvault', -⟩, -⟩, -⟩, _, -, -, -, -, -, -, -, -, -, rfl⟩ := h'
  have hsame := hcodes _ _ ⟨_, hjournal, .inl hpre⟩ ⟨_, hjournal', .inl hpreimage'⟩ hgen
  rw [← hvault, ← hvault']
  exact (PolicyGenesisV1.fingerprintPreimage_inj hpre (hsame ▸ hpreimage')).1.vaultId

end Codes

end History

structure Retains (keys : PrincipalKeys) (journals : Set PolicyJournalV1) (state : VerifiedState)
    (candidate : CheckpointCandidate) : Prop where
  validated : Validated journals candidate
  vaultId : candidate.vaultId = keys.scope.vaultId
  genesis : candidate.genesisFingerprint = keys.scope.genesisFingerprint
  last : candidate.policyHistory.getLast? = some state.checkpoint.acceptedPublicRevisionHash

def PrincipalKeys.Accepts (keys : PrincipalKeys) (state : VerifiedState) (candidate : CheckpointCandidate)
    (timestampMs : UInt64) : Prop :=
  ∃ relation after, keys.acceptCandidate candidate timestampMs state = .ok relation after

section Run

variable {keys : PrincipalKeys} {journals : Set PolicyJournalV1} {state : VerifiedState}
  {candidate retained : CheckpointCandidate}

theorem perform_acceptCandidate : keys.perform (.acceptCandidate candidate timestamp) state =
    match keys.acceptCandidate candidate timestamp state with
    | .ok relation after => .ok (some relation) after
    | .error kind after => .error kind after := by
  simp only [PrincipalKeys.perform, bind, EStateM.bind]
  cases keys.acceptCandidate candidate timestamp state <;> rfl

theorem initialState_retained (h : keys.initialState candidate timestamp = .ok start)
    (hvalid : Validated journals candidate) : Retains keys journals start candidate := by
  simp only [PrincipalKeys.initialState, LocalCheckpoint.initial, LocalCheckpoint.authenticate,
    CheckpointCandidate.currentPolicy, eq_ok] at h
  obtain ⟨_, hscope, _, ⟨hash, hhash, rfl⟩, _, -, _, ⟨_, -, rfl⟩, _, -, rfl⟩ := h
  obtain ⟨hvault, hgen, -⟩ := validateScope_eq_ok.mp hscope
  exact ⟨hvalid, hvault, hgen, hhash⟩

variable (hstanding : Standing keys state)

include hstanding

theorem Standing.accepted_retained (hvalid : Validated journals candidate)
    (h : keys.Accepts state candidate timestamp) :
    Retains keys journals (keys.left state (.acceptCandidate candidate timestamp)) candidate := by
  obtain ⟨relation, after, haccept⟩ := h
  have hends := hstanding.perform_ends (.acceptCandidate candidate timestamp)
  rw [left_eq]
  rw [perform_acceptCandidate, haccept] at hends ⊢
  cases hends with
  | same hscope hlast | advanced hscope hlast =>
    obtain ⟨hvault, hgen, -⟩ := validateScope_eq_ok.mp hscope
    exact ⟨hvalid, hvault, hgen, hlast⟩

theorem Standing.refused_unchanged (h : ¬ keys.Accepts state candidate timestamp) :
    ∃ kind, keys.acceptCandidate candidate timestamp state = .error kind state := by
  have hends := hstanding.perform_ends (.acceptCandidate candidate timestamp)
  rw [perform_acceptCandidate] at hends
  cases haccept : keys.acceptCandidate candidate timestamp state with
  | ok relation after => exact absurd ⟨relation, after, haccept⟩ h
  | error kind after =>
    rw [haccept] at hends
    cases hends
    exact ⟨kind, rfl⟩

variable (h : Retains keys journals state retained) (hcodes : HashesApart journals)

include h hcodes

-- One call: the hash stays, or the history of a new candidate has been found behind it.
theorem Retains.left
    (hcall : ∀ candidate timestampMs, call = .acceptCandidate candidate timestampMs → Validated journals candidate) :
    ∃ later, Retains keys journals (keys.left state call) later ∧ retained.policyHistory <+: later.policyHistory := by
  have hends := hstanding.perform_ends call
  rw [left_eq]
  generalize keys.perform call state = result at hends
  cases hends with
  | advanced hscope hlast hdiff hmem htime =>
    have hvalid := hcall _ _ rfl
    obtain ⟨hvault, hgen, -⟩ := validateScope_eq_ok.mp hscope
    exact ⟨_, ⟨hvalid, hvault, hgen, hlast⟩, hcodes.history_prefix h.validated hvalid h.last hmem⟩
  | _ => exact ⟨retained, ⟨h.validated, h.vaultId, h.genesis, h.last⟩, List.prefix_rfl⟩

theorem Retains.final
    (hcalls : ∀ candidate timestampMs, .acceptCandidate candidate timestampMs ∈ calls → Validated journals candidate) :
    ∃ later, Retains keys journals (keys.calls.final state calls) later ∧
      retained.policyHistory <+: later.policyHistory := by
  induction calls generalizing state retained with
  | nil => exact ⟨retained, h, List.prefix_rfl⟩
  | cons call rest ih =>
    obtain ⟨next, hnext, hgrown⟩ := h.left hstanding hcodes fun candidate timestampMs hcall =>
      hcalls candidate timestampMs (hcall ▸ List.mem_cons_self)
    obtain ⟨later, hlater, hmore⟩ := ih (hstanding.left call) hnext fun candidate timestampMs hmem =>
      hcalls candidate timestampMs (List.mem_cons_of_mem _ hmem)
    exact ⟨later, hlater, hgrown.trans hmore⟩

variable (hvalid : Validated journals candidate)

include hvalid

theorem Retains.accepted_extends (haccepts : keys.Accepts state candidate timestamp) :
    retained.policyHistory <+: candidate.policyHistory := by
  obtain ⟨relation, after, haccept⟩ := haccepts
  have hends := hstanding.perform_ends (.acceptCandidate candidate timestamp)
  rw [perform_acceptCandidate, haccept] at hends
  cases hends with
  | same hscope hlast => exact hcodes.history_prefix h.validated hvalid h.last (List.mem_of_getLast? hlast)
  | advanced hscope hlast hdiff hmem htime => exact hcodes.history_prefix h.validated hvalid h.last hmem

theorem Retains.accepted_equal (haccept : keys.acceptCandidate candidate timestamp state = .ok relation after) :
    relation = .equal ↔ candidate.policyHistory = retained.policyHistory := by
  have hends := hstanding.perform_ends (.acceptCandidate candidate timestamp)
  rw [perform_acceptCandidate, haccept] at hends
  cases hends with
  | same hscope hlast => exact iff_of_true rfl (hcodes.history_eq hvalid h.validated hlast h.last)
  | advanced hscope hlast hdiff hmem htime =>
    refine iff_of_false nofun fun heq => hdiff ?_
    rw [heq, h.last] at hlast
    exact (Option.some.inj hlast).symm

theorem Retains.relationTo_equal :
    candidate.relationTo state.checkpoint = .ok .equal ↔ candidate.policyHistory = retained.policyHistory := by
  have hscope := hstanding.scope
  simp only [PrincipalKeys.ensureStateScope, rejectIf_eq_ok, passed] at hscope
  rw [relationTo_eq_equal, hscope.1.1, ← h.vaultId, ← h.genesis]
  constructor
  · rintro ⟨-, -, hlast⟩
    exact hcodes.history_eq hvalid h.validated hlast h.last
  · intro heq
    have hgen : candidate.genesisFingerprint = retained.genesisFingerprint := by
      obtain ⟨hashes, hhistory⟩ := hvalid.history
      obtain ⟨hashes', hhistory'⟩ := h.validated.history
      rw [hhistory, hhistory'] at heq
      exact (List.cons.inj heq).1
    exact ⟨hcodes.same_vault hvalid h.validated hgen, hgen, heq ▸ h.last⟩

end Run

theorem retained_checkpoint_never_goes_back (keys : PrincipalKeys) (start : VerifiedState) (hstart : keys.Opened start)
    (journals : Set PolicyJournalV1) (hcodes : HashesApart journals) (calls : List LocalCall)
    (hcalls : ∀ candidate timestampMs, .acceptCandidate candidate timestampMs ∈ calls → Validated journals candidate) :
    (∀ earlier first timestampMs between, calls = earlier ++ .acceptCandidate first timestampMs :: between →
      keys.Accepts (keys.calls.final start earlier) first timestampMs →
      (∃ retained, Retains keys journals (keys.calls.final start calls) retained ∧
        first.policyHistory <+: retained.policyHistory) ∧
      ∀ second laterMs, Validated journals second → keys.Accepts (keys.calls.final start calls) second laterMs →
        first.policyHistory <+: second.policyHistory) ∧
    (∀ first timestampMs, keys.initialState first timestampMs = .ok start → Validated journals first →
      ∃ retained, Retains keys journals (keys.calls.final start calls) retained ∧
        first.policyHistory <+: retained.policyHistory) ∧
    ∀ retained, Retains keys journals (keys.calls.final start calls) retained →
      ∀ candidate timestampMs, Validated journals candidate →
        (¬ retained.policyHistory <+: candidate.policyHistory →
          ∃ kind, keys.acceptCandidate candidate timestampMs (keys.calls.final start calls) =
            .error kind (keys.calls.final start calls)) ∧
        (candidate.relationTo (keys.calls.final start calls).checkpoint = .ok .equal ↔
          candidate.policyHistory = retained.policyHistory) ∧
        ∀ relation after, keys.acceptCandidate candidate timestampMs (keys.calls.final start calls) =
          .ok relation after → (relation = .equal ↔ candidate.policyHistory = retained.policyHistory) := by
  have hstanding := hstart.sound.standing
  refine ⟨fun earlier first timestampMs between hsplit haccepts => ?_, fun first timestampMs hinitial hvalid => ?_,
    fun retained hretained candidate timestampMs hvalid => ?_⟩
  · have hvalid := hcalls first timestampMs (hsplit ▸ by simp)
    have hfirst := (hstanding.final earlier).accepted_retained hvalid haccepts
    obtain ⟨retained, hretained, hgrown⟩ := hfirst.final ((hstanding.final earlier).left _) hcodes
      fun candidate laterMs (hmem : _ ∈ between) => hcalls candidate laterMs (hsplit ▸ by simp [hmem])
    have hfinal : keys.calls.final start calls =
        keys.calls.final (keys.left (keys.calls.final start earlier) (.acceptCandidate first timestampMs)) between := by
      rw [hsplit, Machine.final_append]
      rfl
    rw [← hfinal] at hretained
    refine ⟨⟨retained, hretained, hgrown⟩, fun second laterMs hsecond hlater => hgrown.trans ?_⟩
    exact hretained.accepted_extends (hstanding.final calls) hcodes hsecond hlater
  · exact (initialState_retained hinitial hvalid).final hstanding hcodes hcalls
  · refine ⟨fun hforked => ?_, hretained.relationTo_equal (hstanding.final calls) hcodes hvalid,
      fun relation after haccept => hretained.accepted_equal (hstanding.final calls) hcodes hvalid haccept⟩
    exact (hstanding.final calls).refused_unchanged fun haccepts =>
      hforked (hretained.accepted_extends (hstanding.final calls) hcodes hvalid haccepts)

end Jury.LocalState

namespace Jury.LocalState.Sample

open Lib Protocol.Vault Protocol.Sample Policy Policy.Sample

def founding : PolicyJournalV1 := foundedBy 1 1000

def ownerKeys : PrincipalKeys :=
  { keys with scope := {
      vaultId := identifier .vault 1
      genesisFingerprint := (scopeOf founding []).1
      principalId := identifier .principal 1 } }

def hashed (journal : PolicyJournalV1) : List (Option Bytes) :=
  journal.genesis.fingerprintPreimage :: journal.revisions.map (·.hashPreimage)

theorem founded_apart : HashesApart {journal | journal ∈ [founding, founded]} := by
  have hchecked : ∀ x ∈ hashed founding ++ hashed founded, ∀ y ∈ hashed founding ++ hashed founded,
      x.map digest = y.map digest → x = y := by
    decide +kernel
  have hin : ∀ p, HashedIn {journal | journal ∈ [founding, founded]} p →
      some p ∈ hashed founding ++ hashed founded := by
    rintro p ⟨journal, hjournal, hp⟩
    have hown : some p ∈ hashed journal := by
      rcases hp with hp | ⟨revision, hrev, hp⟩
      · exact hp ▸ List.mem_cons_self
      · exact List.mem_cons_of_mem _ (List.mem_map.mpr ⟨revision, hrev, hp⟩)
    rcases List.mem_pair.mp hjournal with heq | heq
    · exact List.mem_append_left _ (heq ▸ hown)
    · exact List.mem_append_right _ (heq ▸ hown)
  intro p q hp hq heq
  refine Option.some.inj (hchecked _ (hin p hp) _ (hin q hq) ?_)
  rw [Option.map_some, Option.map_some]
  exact congrArg some heq

theorem founded_extends_genesis : ∃ first second start, ownerKeys.initialState first 1000 = .ok start ∧
    first.policyHistory.length < second.policyHistory.length ∧ ownerKeys.Accepts start second 1001 ∧
    ∃ retained, Retains ownerKeys {journal | journal ∈ [founding, founded]}
        (ownerKeys.calls.final start [.acceptCandidate second 1001]) retained ∧
      second.policyHistory <+: retained.policyHistory := by
  have hrun : Returns (replayPolicyWithWitnessPolicies founding []) (fun policy =>
      Returns (replayPolicyWithWitnessPolicies founded []) fun later =>
      Returns (CheckpointCandidate.fromValidated policy founding []) fun first =>
      Returns (CheckpointCandidate.fromValidated later founded []) fun second =>
      Returns (ownerKeys.initialState first 1000) fun start =>
        decide (first.policyHistory.length < second.policyHistory.length) &&
        match ownerKeys.acceptCandidate second 1001 start with
        | .ok _ _ => true
        | .error _ _ => false) = true := by
    decide +kernel
  simp only [holds, returns_iff] at hrun
  obtain ⟨policy, -, later, -, first, -, second, hsecond, start, hstart, hlen, haccept⟩ := hrun
  have haccepts : ownerKeys.Accepts start second 1001 := by
    split at haccept
    case h_1 relation after hresult => exact ⟨relation, after, hresult⟩
    case h_2 => cases haccept
  have hruns := retained_checkpoint_never_goes_back ownerKeys start (.new hstart) _ founded_apart
    [.acceptCandidate second 1001] fun candidate timestampMs hmem => by
      obtain ⟨rfl, -⟩ := LocalCall.acceptCandidate.inj (List.mem_singleton.mp hmem)
      exact ⟨later, founded, by simp, [], hsecond⟩
  exact ⟨first, second, start, hstart, hlen, haccepts, (hruns.1 [] second 1001 [] rfl haccepts).1⟩

end Jury.LocalState.Sample
