import Jury.Policy.Replay
import Jury.Protocol.Vault.File

-- The public state of a vault as a principal's local checkpoint knows it: the chain of an item's signed
-- revisions, and the history of a journal whose items have all been checked against it.
namespace Jury.LocalState

open Lib Protocol Vault Policy Std List

inductive LocalStateErrorKind where
  | invalidFormat
  | scopeMismatch
  | authenticationFailed
  | auditTampered
  | checkpointRollback
  | checkpointDiverged
  | incompleteState
  | capacityExhausted
  | protectionUnavailable
  | providerFailure
deriving DecidableEq

inductive ItemErrorKind where
  | invalidAncestry
  | unauthorized
  | authenticationFailed
deriving DecidableEq

-- The position of a hash in the history is its policy sequence.
structure CheckpointCandidate where
  vaultId : VaultId
  genesisFingerprint : Digest32
  principals : BTreeSet PrincipalId
  policyHistory : List Digest32

variable [Crypto]

def verifyItemRevision (envelope : ItemEnvelopeV1) (verificationKey : PrincipalId → Option VerificationPublicKey32)
    (previousHash : Digest32) (entry : SignedItemRevisionV1 × Nat) : Except ItemErrorKind Digest32 := do
  let (revision, index) := entry
  rejectIf
    (revision.vaultId != envelope.currentRevision.vaultId
      || revision.itemId != envelope.itemId
      || revision.itemRevision != UInt64.ofNat (index + 1)
      || revision.previousItemRevisionHash != previousHash
      || revision.keyEpoch == 0
      || revision.plaintextSchema != 1)
    .invalidAncestry
  let key ← orReject (verificationKey revision.authorPrincipalId) .unauthorized
  rejectIf (!verifyBytes key revision.signaturePreimage revision.signature) .authenticationFailed
  orReject revision.recomputedHash .invalidAncestry

def verifyItemAncestry (envelope : ItemEnvelopeV1) (verificationKey : PrincipalId → Option VerificationPublicKey32) :
    Except ItemErrorKind Unit := do
  let _ ← envelope.revisions.zipIdx.foldlM (verifyItemRevision envelope verificationKey) ZERO_DIGEST

namespace CheckpointCandidate

-- The history so far, and the hash that the next revision has to name.
def extendHistory (policy : PolicyState) (history : Digest32 × List Digest32) (entry : SignedPolicyRevisionV1 × Nat) :
    Except LocalStateErrorKind (Digest32 × List Digest32) := do
  let (previous, hashes) := history
  let (revision, index) := entry
  rejectIf
    (revision.sequence != UInt64.ofNat (index + 1)
      || revision.vaultId != policy.vaultId
      || revision.previousRevisionHash != previous)
    .invalidFormat
  let hash ← orReject revision.recomputedHash .invalidFormat
  return (hash, hashes ++ [hash])

def scanEnvelope (policy : PolicyState) (seen : BTreeSet ItemId) (envelope : ItemEnvelopeV1) :
    Except LocalStateErrorKind (BTreeSet ItemId) := do
  rejectIf (seen.contains envelope.itemId) .invalidFormat
  (verifyItemAncestry envelope policy.verificationKey).mapError fun _ => .invalidFormat
  let item ← orReject policy.items[envelope.itemId]? .invalidFormat
  let currentHash ← orReject envelope.currentRevision.recomputedHash .invalidFormat
  rejectIf (currentHash != item.currentItemRevisionHash || envelope.descriptor != item.descriptor) .invalidFormat
  return seen.insert envelope.itemId

def validateTerminal (policy : PolicyState) (journal : PolicyJournalV1) : Except LocalStateErrorKind Unit :=
  match journal.revisions.getLast? with
  | none => return ()
  | some terminal => do
    let hash ← policy.normalizedStateHash.mapError fun _ => LocalStateErrorKind.invalidFormat
    rejectIf (hash != terminal.resultingPolicyStateHash) .invalidFormat

def fromValidated (policy : PolicyState) (journal : PolicyJournalV1) (envelopes : List ItemEnvelopeV1) :
    Except LocalStateErrorKind CheckpointCandidate := do
  let genesisFingerprint ← orReject journal.genesis.recomputedFingerprint .invalidFormat
  rejectIf
    (journal.genesis.vaultId != policy.vaultId
      || genesisFingerprint != policy.genesisFingerprint
      || journal.revisions.length != policy.sequence.toNat
      || envelopes.length != policy.items.size)
    .invalidFormat
  let (previous, policyHistory) ← journal.revisions.zipIdx.foldlM (extendHistory policy)
    (genesisFingerprint, [genesisFingerprint])
  rejectIf (previous != policy.terminalRevisionHash) .invalidFormat
  validateTerminal policy journal
  let _ ← envelopes.foldlM (scanEnvelope policy) ∅
  rejectIf (policy.items.keys.any fun itemId => policy.tombstones.contains itemId) .invalidFormat
  return {
    vaultId := policy.vaultId
    genesisFingerprint
    principals := Std.ExtTreeSet.ofList policy.principals.keys compare
    policyHistory }

end CheckpointCandidate

structure EnvelopeBound (policy : PolicyState) (envelope : ItemEnvelopeV1) (item : ItemPolicyState) : Prop where
  found : policy.items[envelope.itemId]? = some item
  ancestry : verifyItemAncestry envelope policy.verificationKey = .ok ()
  descriptor : envelope.descriptor = item.descriptor
  current : envelope.currentRevision.recomputedHash = some item.currentItemRevisionHash

variable {envelopes : List ItemEnvelopeV1}

open CheckpointCandidate

theorem scanEnvelope_bound (h : scanEnvelope policy seen envelope = .ok out) :
    ∃ item, EnvelopeBound policy envelope item := by
  simp only [scanEnvelope, eq_ok, passed] at h
  obtain ⟨-, -, _, hancestry, item, hitem, hash, hhash, -, ⟨rfl, hdesc⟩, -⟩ := h
  exact ⟨item, hitem, hancestry, hdesc, hhash⟩

theorem scanEnvelopes_nodup (h : envelopes.foldlM (scanEnvelope policy) ∅ = .ok seen) :
    (envelopes.map (·.itemId)).Nodup ∧ ∀ itemId, itemId ∈ seen ↔ itemId ∈ envelopes.map (·.itemId) := by
  induction envelopes using reverseRecOn generalizing seen with
  | nil =>
    obtain rfl := Except.ok.inj h
    simp
  | append_singleton envelopes last ih =>
    obtain ⟨before, hbefore, hlast⟩ := foldlM_append_eq_ok.mp h
    obtain ⟨out, hout, hend⟩ := foldlM_cons_eq_ok.mp hlast
    obtain rfl := Except.ok.inj hend
    obtain ⟨hnodup, hseen⟩ := ih hbefore
    simp only [scanEnvelope, eq_ok] at hout
    obtain ⟨-, hfresh, -, -, -, -, -, -, -, -, rfl⟩ := hout
    have hunseen : last.itemId ∉ envelopes.map (·.itemId) := by
      intro hmem
      rw [ExtTreeSet.contains_iff_mem.mpr ((hseen _).mpr hmem)] at hfresh
      cases hfresh
    rw [map_append, map_singleton]
    refine ⟨nodup_append.mpr ⟨hnodup, nodup_singleton _, ?_⟩, fun itemId => ?_⟩
    · rintro a ha _ hlast rfl
      rw [mem_singleton] at hlast
      exact hunseen (hlast ▸ ha)
    · rw [ExtTreeSet.mem_insert, LawfulEqOrd.compare_eq_iff_eq, hseen, mem_append, mem_singleton,
        or_comm, eq_comm]

theorem fromValidated_envelopes (h : fromValidated policy journal envelopes = .ok candidate) :
    (∀ envelope ∈ envelopes, ∃ item, EnvelopeBound policy envelope item) ∧
      ∀ itemId, itemId ∈ policy.items → ∃ envelope ∈ envelopes, envelope.itemId = itemId := by
  simp only [fromValidated, eq_ok, passed] at h
  obtain ⟨-, -, -, ⟨-, hlen⟩, -, -, -, -, -, -, seen, hscan, -⟩ := h
  have hbound := foldlM_forall (fun _ _ _ hround => scanEnvelope_bound hround) hscan
  refine ⟨hbound, fun itemId hitem => ?_⟩
  have hsubset : envelopes.map (·.itemId) ⊆ policy.items.keys := by
    intro id hid
    obtain ⟨envelope, hmem, rfl⟩ := mem_map.mp hid
    obtain ⟨item, hitem⟩ := hbound envelope hmem
    exact ExtTreeMap.mem_keys.mpr (mem_of_getElem? hitem.found)
  have hperm : (envelopes.map (·.itemId)).Perm policy.items.keys := by
    refine ((scanEnvelopes_nodup hscan).1.subperm hsubset).perm_of_length_le ?_
    rw [ExtTreeMap.length_keys, length_map, hlen]
  obtain ⟨envelope, hmem, hid⟩ := mem_map.mp (hperm.mem_iff.mpr (ExtTreeMap.mem_keys.mpr hitem))
  exact ⟨envelope, hmem, hid⟩

theorem extendHistory_hashes {fingerprint : Digest32} {revisions : List SignedPolicyRevisionV1}
    (h : revisions.zipIdx.foldlM (extendHistory policy) (fingerprint, [fingerprint]) = .ok out) :
    out.2.getLast? = some out.1 ∧
      (∃ hashes, out.2 = fingerprint :: hashes ∧ revisions.map (·.recomputedHash) = hashes.map some) ∧
      revisions.map (·.previousRevisionHash) = out.2.dropLast := by
  induction revisions using reverseRecOn generalizing out with
  | nil =>
    obtain rfl := Except.ok.inj h
    exact ⟨rfl, ⟨[], rfl, rfl⟩, rfl⟩
  | append_singleton revisions last ih =>
    rw [zipIdx_append] at h
    obtain ⟨before, hbefore, hlast⟩ := foldlM_append_eq_ok.mp h
    obtain ⟨reached, hreach, hend⟩ := foldlM_cons_eq_ok.mp hlast
    obtain rfl := Except.ok.inj hend
    obtain ⟨hterminal, ⟨hashes, hbehind, hhashes⟩, hprev⟩ := ih hbefore
    simp only [extendHistory, eq_ok, passed] at hreach
    obtain ⟨-, ⟨-, hnamed⟩, hash, hhash, rfl⟩ := hreach
    refine ⟨by simp, ⟨hashes ++ [hash], by rw [hbehind, cons_append], ?_⟩, ?_⟩
    · rw [map_append, map_append, hhashes, map_singleton, map_singleton, hhash]
    · rw [map_append, map_singleton, hprev, dropLast_concat, hnamed]
      exact dropLast_append_getLast? _ hterminal

structure CandidateOf (policy : PolicyState) (journal : PolicyJournalV1) (candidate : CheckpointCandidate) : Prop where
  vaultId : candidate.vaultId = policy.vaultId
  principals : ∀ principalId, candidate.principals.contains principalId = policy.principals.contains principalId
  fingerprint : journal.genesis.recomputedFingerprint = some candidate.genesisFingerprint
  sequence : journal.revisions.length = policy.sequence.toNat
  terminal : candidate.policyHistory.getLast? = some policy.terminalRevisionHash
  hashes : ∃ hashes, candidate.policyHistory = candidate.genesisFingerprint :: hashes ∧
    journal.revisions.map (·.recomputedHash) = hashes.map some

theorem fromValidated_candidate (h : fromValidated policy journal envelopes = .ok candidate) :
    CandidateOf policy journal candidate := by
  simp only [fromValidated, eq_ok, passed] at h
  obtain ⟨fingerprint, hfp, -, ⟨⟨-, hseq⟩, -⟩, ⟨previous, history⟩, hhistory, -, hterminal, -, -, -, -, -, -, rfl⟩ := h
  obtain ⟨hlast, hashes, -⟩ := extendHistory_hashes hhistory
  refine ⟨rfl, fun principalId => ?_, hfp, hseq, hterminal ▸ hlast, hashes⟩
  rw [Bool.eq_iff_iff, ExtTreeSet.contains_iff_mem, ExtTreeSet.mem_ofList, contains_iff_mem,
    ExtTreeMap.mem_keys, ExtTreeMap.contains_iff_mem]

theorem CandidateOf.history_append (h : CandidateOf policy journal candidate)
    (hlater : CandidateOf longerPolicy longer later) (hgen : longer.genesis = journal.genesis)
    (hrevs : longer.revisions = journal.revisions ++ suffix) :
    ∃ hashes, later.policyHistory = candidate.policyHistory ++ hashes := by
  obtain ⟨hashes, hhistory, hhashes⟩ := h.hashes
  obtain ⟨laterHashes, hlaterHistory, hlaterHashes⟩ := hlater.hashes
  have hfp : later.genesisFingerprint = candidate.genesisFingerprint :=
    some_unique hlater.fingerprint ((congrArg _ hgen).trans h.fingerprint)
  rw [hrevs, map_append, hhashes, eq_comm, map_eq_append_iff] at hlaterHashes
  obtain ⟨first, rest, rfl, hfirst, -⟩ := hlaterHashes
  obtain rfl := (map_injective_iff.mpr (Option.some_injective _)) hfirst
  exact ⟨rest, by rw [hlaterHistory, hhistory, hfp, cons_append]⟩

end Jury.LocalState
