import Jury.Lib.Matching
import Jury.Lib.Outcome

-- Redaction of an output stream that arrives in chunks: bytes are held back only as long as a pattern
-- may still begin among them.
namespace Jury.Protected

open Lib List

def MIN_REDACTABLE_LEN : Nat := 4
def REDACTION_MARKER : Octets := "[REDACTED]".toUTF8.toList
def MAX_REDACTION_PATTERNS : Nat := 4096
def MAX_REDACTION_PATTERN_BYTES : Nat := 16 * 1024 * 1024
def MAX_REDACTION_PATTERN_LEN : Nat := 512 * 1024
def MAX_OUTPUT_CHUNK_LEN : Nat := 64 * 1024

inductive StreamingRedactorError where
  | patternCount
  | patternBytes
  | patternLength
  | patternTooShort
  | protectedMemory
  | matcher
deriving DecidableEq

inductive ChunkError where
  | invalidInput
deriving DecidableEq

-- The Aho-Corasick automaton of a library outside the repository, with what is assumed of it.
structure AhoCorasick where
  patterns : List Octets
  findIter : Octets → List Match
  finds : ∀ input, findIter input = leftmostLongest patterns input

-- Building the automaton can fail.
structure AhoCorasickBuilder where
  build : List Octets → Option AhoCorasick
  builds : ∀ patterns matcher, build patterns = some matcher → matcher.patterns = patterns

structure StreamingRedactor where
  matcher : Option AhoCorasick
  patternCount : Nat
  maxPatternLen : Nat
  pending : Octets
  pendingCapacity : Nat

def validatePattern (total : Nat) (pattern : Octets) : Except StreamingRedactorError Nat := do
  rejectIf (decide (pattern.length < MIN_REDACTABLE_LEN)) .patternTooShort
  rejectIf (decide (pattern.length > MAX_REDACTION_PATTERN_LEN)) .patternLength
  rejectIf (decide (total + pattern.length > MAX_REDACTION_PATTERN_BYTES)) .patternBytes
  return total + pattern.length

def validatePatterns (patterns : List Octets) : Except StreamingRedactorError Unit := do
  rejectIf (decide (patterns.length > MAX_REDACTION_PATTERNS)) .patternCount
  let _ ← patterns.foldlM validatePattern 0
  return ()

def dedup : List Octets → List Octets
  | [] => []
  | [pattern] => [pattern]
  | first :: second :: rest => if first = second then dedup (second :: rest) else first :: dedup (second :: rest)

def sortPatterns (patterns : List Octets) : List Octets :=
  patterns.insertionSort fun left right => left ≤ right

-- Without patterns there is no automaton.
def buildMatcher (builder : AhoCorasickBuilder) (patterns : List Octets) :
    Except StreamingRedactorError (Option AhoCorasick) :=
  if patterns.isEmpty then .ok none else some <$> orReject (builder.build patterns) .matcher

def StreamingRedactor.new (builder : AhoCorasickBuilder) (patterns : List Octets) :
    Except StreamingRedactorError StreamingRedactor := do
  validatePatterns patterns
  let patterns := dedup (sortPatterns patterns)
  let maxPatternLen := (patterns.map List.length).max?.getD 0
  let matcher ← buildMatcher builder patterns
  return {
    matcher
    patternCount := patterns.length
    maxPatternLen
    pending := []
    pendingCapacity := maxPatternLen - 1 + MAX_OUTPUT_CHUNK_LEN }

-- What the loop over the matches writes, and how far it has consumed the input.
def emitLoop (input : Octets) (safeStartLimit : Nat) (cursor consumed : Nat) : List Match → Octets × Nat
  | [] => (if cursor < safeStartLimit then slice input cursor safeStartLimit else [], consumed)
  | found :: rest =>
    if found.start ≥ safeStartLimit then
      (if cursor < safeStartLimit then slice input cursor safeStartLimit else [], consumed)
    else
      let (written, reached) := emitLoop input safeStartLimit found.stop (max consumed found.stop) rest
      (slice input cursor found.start ++ REDACTION_MARKER ++ written, reached)

def emitMatches (matcher : AhoCorasick) (input : Octets) (safeStartLimit : Nat) : Octets × Nat :=
  emitLoop input safeStartLimit 0 safeStartLimit (matcher.findIter input)

def discardPrefix (buffer : Octets) (consumed : Nat) : Octets := buffer.drop consumed

namespace StreamingRedactor

def pushChunk (redactor : StreamingRedactor) (chunk : Octets) : Except ChunkError (Octets × StreamingRedactor) := do
  rejectIf (decide (chunk.length > MAX_OUTPUT_CHUNK_LEN)) .invalidInput
  match redactor.matcher with
  | none => return (chunk, redactor)
  | some matcher =>
    if chunk.isEmpty then return ([], redactor)
    else
      let pending := redactor.pending ++ chunk
      let safeStartLimit := pending.length - (redactor.maxPatternLen - 1)
      if safeStartLimit = 0 then return ([], { redactor with pending })
      else
        let (written, consumed) := emitMatches matcher pending safeStartLimit
        return (written, { redactor with pending := discardPrefix pending consumed })

def finish (redactor : StreamingRedactor) : Octets :=
  match redactor.matcher with
  | some matcher => (emitMatches matcher redactor.pending redactor.pending.length).1
  | none => []

def pushChunks (redactor : StreamingRedactor) : List Octets → Except ChunkError (Octets × StreamingRedactor)
  | [] => .ok ([], redactor)
  | chunk :: rest => do
    let (written, redactor) ← redactor.pushChunk chunk
    let (more, redactor) ← redactor.pushChunks rest
    return (written ++ more, redactor)

end StreamingRedactor

-- What redaction is for: the whole input at once, every match of its scan replaced.
def redact (patterns : List Octets) (input : Octets) : Octets :=
  replaceFrom REDACTION_MARKER input 0 (leftmostLongest patterns input)

section Emit

variable {input : Octets}

def emit (patterns : List Octets) (input : Octets) (limit : Nat) : Octets × Nat :=
  emitLoop input limit 0 limit (leftmostLongest patterns input)

theorem emitLoop_shift (done input : Octets) (limit cursor consumed : Nat) (found : List Match) :
    emitLoop (done ++ input) (done.length + limit) (done.length + cursor) (done.length + consumed)
        (found.map (Match.shift done.length)) =
      ((emitLoop input limit cursor consumed found).1, done.length + (emitLoop input limit cursor consumed found).2) := by
  induction found generalizing cursor consumed with
  | nil => simp only [map_nil, emitLoop, slice_append_add, Nat.add_lt_add_iff_left]
  | cons first rest ih =>
    simp only [map_cons, emitLoop, Match.shift, slice_append_add, Nat.add_lt_add_iff_left, ge_iff_le,
      Nat.add_le_add_iff_left, Nat.add_max_add_left]
    split
    · rfl
    · rw [ih]

theorem emitMatches_eq (matcher : AhoCorasick) (limit : Nat) :
    emitMatches matcher input limit = emit matcher.patterns input limit := by
  rw [emitMatches, emit, matcher.finds]

theorem emit_zero : emit patterns input 0 = ([], 0) := by
  unfold emit
  cases leftmostLongest patterns input with
  | nil => rfl
  | cons first rest => simp [emitLoop]

variable {first : UInt8}

theorem emit_match (h : longestAt patterns (first :: rest) = some (n + 1)) (hlimit : 0 < limit) :
    emit patterns (first :: rest) limit =
      (REDACTION_MARKER ++ (emit patterns (rest.drop n) (limit - (n + 1))).1,
        n + 1 + (emit patterns (rest.drop n) (limit - (n + 1))).2) := by
  have hn : n ≤ rest.length := by
    have hle := longestAt_le_length h
    rw [length_cons] at hle
    omega
  have hdone : (first :: rest.take n).length = n + 1 := by
    rw [length_cons, length_take]
    omega
  have hsplit : first :: rest = (first :: rest.take n) ++ rest.drop n := by
    rw [cons_append, take_append_drop]
  have hstep : emit patterns (first :: rest) limit =
      (REDACTION_MARKER ++ (emitLoop (first :: rest) limit (n + 1) (max limit (n + 1))
          ((leftmostLongest patterns (rest.drop n)).map (Match.shift (n + 1)))).1,
        (emitLoop (first :: rest) limit (n + 1) (max limit (n + 1))
          ((leftmostLongest patterns (rest.drop n)).map (Match.shift (n + 1)))).2) := by
    rw [emit, leftmostLongest_match h, emitLoop, if_neg (Nat.not_le.mpr hlimit)]
    simp [slice]
  rw [hstep]
  by_cases hle : n + 1 ≤ limit
  · -- The limit lies behind the match.
    have hshift := emitLoop_shift (first :: rest.take n) (rest.drop n) (limit - (n + 1)) 0 (limit - (n + 1))
      (leftmostLongest patterns (rest.drop n))
    rw [hdone, ← hsplit, Nat.add_zero, Nat.add_sub_cancel' hle] at hshift
    rw [Nat.max_eq_left hle, hshift]
    rfl
  · -- The match crosses the limit, and nothing behind it is emitted.
    have hnone : limit - (n + 1) = 0 := by omega
    rw [hnone, emit_zero, Nat.max_eq_right (by omega), append_nil, Nat.add_zero]
    cases leftmostLongest patterns (rest.drop n) with
    | nil =>
      rw [map_nil, emitLoop, if_neg (by omega), append_nil]
    | cons found more =>
      rw [map_cons, emitLoop, if_pos (by simp only [Match.shift]; omega), if_neg (by omega), append_nil]

theorem emitLoop_from_one {found : List Match} (hlimit : 0 < limit) :
    emitLoop (first :: rest) limit 0 consumed (found.map (Match.shift 1)) =
      (first :: (emitLoop (first :: rest) limit 1 consumed (found.map (Match.shift 1))).1,
        (emitLoop (first :: rest) limit 1 consumed (found.map (Match.shift 1))).2) := by
  have hcut : slice (first :: rest) 0 limit = first :: (if 1 < limit then slice (first :: rest) 1 limit else []) := by
    rw [slice_cons_zero hlimit]
    split
    · rfl
    · rw [slice_eq_nil (by omega)]
  cases found with
  | nil => simp only [map_nil, emitLoop, if_pos hlimit, hcut]
  | cons next more =>
    simp only [map_cons, emitLoop, Match.shift, if_pos hlimit]
    split
    · rw [hcut]
    · rw [slice_cons_zero (by omega)]
      rfl

theorem emit_none
    (h : ∀ n, longestAt patterns (first :: rest) ≠ some (n + 1)) (hlimit : 0 < limit) :
    emit patterns (first :: rest) limit =
      (first :: (emit patterns rest (limit - 1)).1, 1 + (emit patterns rest (limit - 1)).2) := by
  have hshift := emitLoop_shift [first] rest (limit - 1) 0 (limit - 1) (leftmostLongest patterns rest)
  rw [length_singleton, singleton_append, Nat.add_zero, Nat.add_sub_cancel' hlimit] at hshift
  rw [emit, leftmostLongest_none h, emitLoop_from_one hlimit, hshift]
  rfl

theorem emitLoop_length {found : List Match} (h : ∀ next ∈ found, next.start < input.length) :
    (emitLoop input input.length cursor consumed found).1 = replaceFrom REDACTION_MARKER input cursor found := by
  induction found generalizing cursor consumed with
  | nil =>
    rw [emitLoop, replaceFrom, slice_eq_drop (Nat.le_refl _)]
    split
    · rfl
    · rw [drop_eq_nil_of_le (by omega)]
  | cons first rest ih =>
    have hfirst := h first mem_cons_self
    rw [emitLoop, if_neg (Nat.not_le.mpr hfirst), replaceFrom]
    simp only
    rw [ih fun next hnext => h next (mem_cons_of_mem _ hnext)]

theorem emit_length : (emit patterns input input.length).1 = redact patterns input := by
  apply emitLoop_length
  intro found hfound
  have hstart := searchFrom_start_lt hfound
  omega

theorem redact_match (h : longestAt patterns (first :: rest) = some (n + 1)) :
    redact patterns (first :: rest) = REDACTION_MARKER ++ redact patterns (rest.drop n) := by
  have hlimit : (first :: rest).length - (n + 1) = (rest.drop n).length := by
    rw [length_cons, length_drop]
    omega
  rw [← emit_length, emit_match h (length_pos_of_ne_nil (cons_ne_nil first rest)), hlimit, emit_length]

theorem redact_none (h : ∀ n, longestAt patterns (first :: rest) ≠ some (n + 1)) :
    redact patterns (first :: rest) = first :: redact patterns rest := by
  rw [← emit_length, emit_none h (length_pos_of_ne_nil (cons_ne_nil first rest)), length_cons,
    Nat.add_sub_cancel, emit_length]

-- One window: what it emits is final, whatever follows, as long as every place before the limit sees
-- enough of the window to decide what starts there.
theorem redact_window (hlong : ∀ pattern ∈ patterns, pattern.length ≤ longest) (hlimit : limit ≤ input.length)
    (hwindow : 0 < limit → limit + (longest - 1) ≤ input.length) (more : Octets) :
    redact patterns (input ++ more) =
        (emit patterns input limit).1 ++ redact patterns (input.drop (emit patterns input limit).2 ++ more) ∧
      limit ≤ (emit patterns input limit).2 ∧ (emit patterns input limit).2 ≤ input.length := by
  -- By the length of the window: each step takes a byte or a match off its front.
  induction hsize : input.length using Nat.strong_induction_on generalizing input limit with
  | _ size ih =>
    subst hsize
    rcases Nat.eq_zero_or_pos limit with rfl | hpos
    · rw [emit_zero]
      exact ⟨rfl, Nat.le_refl 0, Nat.zero_le _⟩
    · cases input with
      | nil =>
        rw [length_nil] at hlimit
        omega
      | cons first rest =>
        have hfull := hwindow hpos
        have hsees : longest ≤ (first :: rest).length := by omega
        have hstable : longestAt patterns (first :: (rest ++ more)) = longestAt patterns (first :: rest) :=
          longestAt_append hlong hsees
        rw [length_cons] at hlimit hfull
        by_cases hmatch : ∃ n, longestAt patterns (first :: rest) = some (n + 1)
        · obtain ⟨n, hn⟩ := hmatch
          have hbound := longestAt_le_length hn
          rw [length_cons] at hbound
          have hdrop : (rest.drop n).length = rest.length - n := length_drop
          obtain ⟨hout, hlow, hhigh⟩ := ih (rest.drop n).length (by rw [hdrop, length_cons]; omega)
            (by omega : limit - (n + 1) ≤ (rest.drop n).length) (fun hleft => by omega) rfl
          rw [cons_append, redact_match (hstable.trans hn), drop_append_of_le_length (by omega), hout,
            emit_match hn hpos, append_assoc, Nat.add_right_comm, drop_succ_cons, ← drop_drop]
          refine ⟨rfl, by simp only; omega, ?_⟩
          simp only [length_cons]
          omega
        · have hnone : ∀ n, longestAt patterns (first :: rest) ≠ some (n + 1) := fun n hn => hmatch ⟨n, hn⟩
          obtain ⟨hout, hlow, hhigh⟩ := ih rest.length (Nat.lt_succ_self _)
            (by omega : limit - 1 ≤ rest.length) (fun hleft => by omega) rfl
          rw [cons_append, redact_none (hstable ▸ hnone), hout, emit_none hnone hpos, Nat.add_comm 1,
            drop_succ_cons]
          refine ⟨rfl, by simp only; omega, ?_⟩
          simp only [length_cons]
          omega

theorem redact_congr (h : ∀ pattern, pattern ∈ patterns ↔ pattern ∈ others) (input : Octets) :
    redact patterns input = redact others input := by
  have hlongest : ∀ text : Octets, longestAt patterns text = longestAt others text := fun text =>
    longestAt_congr fun pattern => and_congr_left fun _ => h pattern
  induction hsize : input.length using Nat.strong_induction_on generalizing input with
  | _ size ih =>
    subst hsize
    cases input with
    | nil => rfl
    | cons first rest =>
      by_cases hmatch : ∃ n, longestAt patterns (first :: rest) = some (n + 1)
      · obtain ⟨n, hn⟩ := hmatch
        rw [redact_match hn, redact_match (hlongest _ ▸ hn), ih _ (by rw [length_drop, length_cons]; omega) _ rfl]
      · have hnone : ∀ n, longestAt patterns (first :: rest) ≠ some (n + 1) := fun n hn => hmatch ⟨n, hn⟩
        rw [redact_none hnone, redact_none (hlongest _ ▸ hnone), ih _ (Nat.lt_succ_self _) _ rfl]

theorem redact_no_patterns : redact [] input = input := by
  induction input with
  | nil => rfl
  | cons first rest ih => rw [redact_none (by simp [longestAt]), ih]

end Emit

section Session

variable {pattern : Octets}

theorem mem_dedup (patterns : List Octets) : pattern ∈ dedup patterns ↔ pattern ∈ patterns := by
  fun_induction dedup patterns with
  | case1 => rfl
  | case2 => rfl
  | case3 first rest ih => rw [ih, mem_cons, mem_cons, mem_cons, or_self_left]
  | case4 first second rest hne ih => rw [mem_cons, ih, ← mem_cons]

theorem mem_dedup_sortPatterns : pattern ∈ dedup (sortPatterns patterns) ↔ pattern ∈ patterns := by
  rw [mem_dedup, sortPatterns, mem_insertionSort]

theorem validatePatterns_length (h : validatePatterns patterns = .ok ()) (hmem : pattern ∈ patterns) :
    MIN_REDACTABLE_LEN ≤ pattern.length := by
  simp only [validatePatterns, eq_ok] at h
  obtain ⟨-, -, total, htotal, -⟩ := h
  have hall : ∀ pattern ∈ patterns, MIN_REDACTABLE_LEN ≤ pattern.length := by
    refine foldlM_forall (fun pattern before after hround => ?_) htotal
    simp only [validatePattern, eq_ok, decide_eq_false_iff_not] at hround
    obtain ⟨-, hlong, -⟩ := hround
    omega
  exact hall pattern hmem

theorem buildMatcher_eq_ok (h : buildMatcher builder patterns = .ok matcher) :
    (matcher = none ∧ patterns = []) ∨ ∃ built, matcher = some built ∧ patterns ≠ [] ∧ built.patterns = patterns := by
  unfold buildMatcher at h
  split at h
  next hempty =>
    exact Or.inl ⟨(Except.ok.inj h).symm, isEmpty_iff.mp hempty⟩
  next hsome =>
    cases hbuild : builder.build patterns with
    | none =>
      rw [hbuild] at h
      cases h
    | some built =>
      rw [hbuild] at h
      exact Or.inr ⟨built, (Except.ok.inj h).symm, fun hnil => hsome (hnil ▸ rfl), builder.builds _ _ hbuild⟩

structure StreamingRedactor.Streaming (patterns : List Octets) (redactor : StreamingRedactor) : Prop where
  longest : ∀ pattern ∈ patterns, pattern.length ≤ redactor.maxPatternLen
  capacity : redactor.pendingCapacity = redactor.maxPatternLen - 1 + MAX_OUTPUT_CHUNK_LEN
  held : (redactor.matcher = none ∧ patterns = [] ∧ redactor.pending = []) ∨
    ∃ matcher, redactor.matcher = some matcher ∧ (∀ pattern, pattern ∈ matcher.patterns ↔ pattern ∈ patterns) ∧
      redactor.pending.length < redactor.maxPatternLen ∧ ∃ pattern ∈ patterns, pattern.length = redactor.maxPatternLen

namespace StreamingRedactor

theorem new_streaming (h : new builder patterns = .ok redactor) :
    Streaming patterns redactor ∧ redactor.pending = [] := by
  simp only [new, eq_ok] at h
  obtain ⟨_, hvalid, matcher, hmatcher, rfl⟩ := h
  have hlengths : ∀ n, n ∈ (dedup (sortPatterns patterns)).map length ↔ ∃ pattern ∈ patterns, pattern.length = n := by
    intro n
    simp only [mem_map, mem_dedup_sortPatterns]
  refine ⟨⟨?_, rfl, ?_⟩, rfl⟩
  · intro pattern hpattern
    exact le_max?_getD_of_mem ((hlengths _).mpr ⟨pattern, hpattern, rfl⟩)
  · rcases buildMatcher_eq_ok hmatcher with ⟨hnone, hempty⟩ | ⟨built, hsome, hsorted, hbuilt⟩
    · refine Or.inl ⟨hnone, eq_nil_iff_forall_not_mem.mpr fun pattern hpattern => ?_, rfl⟩
      rw [← mem_dedup_sortPatterns, hempty] at hpattern
      exact absurd hpattern not_mem_nil
    · cases hmax : ((dedup (sortPatterns patterns)).map length).max? with
      | none => exact absurd (map_eq_nil_iff.mp (max?_eq_none_iff.mp hmax)) hsorted
      | some longest =>
        obtain ⟨pattern, hpattern, rfl⟩ := (hlengths longest).mp (max?_mem hmax)
        have hmin := validatePatterns_length hvalid hpattern
        refine Or.inr ⟨built, hsome, fun other => hbuilt ▸ mem_dedup_sortPatterns, ?_, pattern, hpattern, rfl⟩
        exact Nat.lt_of_lt_of_le (Nat.succ_pos 3) hmin

section Scanning

variable (h : Streaming patterns redactor)

include h

theorem pushChunk_streaming {chunk : Octets} (hchunk : chunk.length ≤ MAX_OUTPUT_CHUNK_LEN) :
    ∃ written next, redactor.pushChunk chunk = .ok (written, next) ∧ Streaming patterns next ∧
      next.pendingCapacity = redactor.pendingCapacity ∧
      ∀ more, redact patterns (redactor.pending ++ chunk ++ more) = written ++ redact patterns (next.pending ++ more) := by
  have hsize : rejectIf (decide (chunk.length > MAX_OUTPUT_CHUNK_LEN)) ChunkError.invalidInput = .ok () := by
    rw [rejectIf_eq_ok]
    simpa using hchunk
  rcases h.held with ⟨hmatcher, rfl, hpend⟩ | ⟨matcher, hmatcher, hsame, hheld, hlongest⟩
  · refine ⟨chunk, redactor, ?_, h, rfl, fun more => ?_⟩
    · simp only [pushChunk, hmatcher, bind_eq_ok]
      exact ⟨(), hsize, rfl⟩
    · rw [hpend, redact_no_patterns, redact_no_patterns]
      rfl
  · by_cases hempty : chunk = []
    · refine ⟨[], redactor, ?_, h, rfl, fun more => by rw [hempty, append_nil, nil_append]⟩
      simp only [pushChunk, hmatcher, hempty, bind_eq_ok]
      exact ⟨(), by rw [← hempty, hsize], rfl⟩
    · have hlong : ∀ pattern ∈ matcher.patterns, pattern.length ≤ redactor.maxPatternLen := fun pattern hpattern =>
        h.longest pattern ((hsame pattern).mp hpattern)
      have hchunk' : chunk.isEmpty = false := isEmpty_eq_false_iff.mpr hempty
      by_cases hlimit : (redactor.pending ++ chunk).length - (redactor.maxPatternLen - 1) = 0
      · -- Everything is held back.
        refine ⟨[], { redactor with pending := redactor.pending ++ chunk }, ?_, ⟨h.longest, h.capacity, ?_⟩, rfl,
          fun more => rfl⟩
        · simp only [pushChunk, hmatcher, hchunk', hlimit, bind_eq_ok]
          exact ⟨(), hsize, rfl⟩
        · exact Or.inr ⟨matcher, hmatcher, hsame, by simp only; omega, hlongest⟩
      · have hwindow := redact_window hlong
          (Nat.sub_le (redactor.pending ++ chunk).length (redactor.maxPatternLen - 1)) (fun _ => by omega)
        obtain ⟨out, hout⟩ : ∃ out, emit matcher.patterns (redactor.pending ++ chunk)
            ((redactor.pending ++ chunk).length - (redactor.maxPatternLen - 1)) = out := ⟨_, rfl⟩
        rw [hout] at hwindow
        obtain ⟨-, hlow, hhigh⟩ := hwindow []
        refine ⟨out.1, { redactor with pending := discardPrefix (redactor.pending ++ chunk) out.2 }, ?_,
          ⟨h.longest, h.capacity, ?_⟩, rfl, fun more => ?_⟩
        · simp only [pushChunk, hmatcher, hchunk', hlimit, bind_eq_ok, emitMatches_eq, hout]
          exact ⟨(), hsize, rfl⟩
        · refine Or.inr ⟨matcher, hmatcher, hsame, ?_, hlongest⟩
          simp only [discardPrefix, length_drop]
          omega
        · rw [← redact_congr hsame, ← redact_congr hsame]
          exact (hwindow more).1

theorem finish_eq : redactor.finish = redact patterns redactor.pending := by
  rcases h.held with ⟨hmatcher, rfl, hpend⟩ | ⟨matcher, hmatcher, hsame, -⟩
  · rw [finish, hmatcher, hpend, redact_no_patterns]
  · rw [finish, hmatcher]
    simp only [emitMatches_eq, emit_length, redact_congr hsame]

theorem pushChunks_streaming {chunks : List Octets} (hchunks : ∀ chunk ∈ chunks, chunk.length ≤ MAX_OUTPUT_CHUNK_LEN) :
    ∃ written last, redactor.pushChunks chunks = .ok (written, last) ∧ Streaming patterns last ∧
      last.pendingCapacity = redactor.pendingCapacity ∧
      ∀ more, redact patterns (redactor.pending ++ chunks.flatten ++ more) =
        written ++ redact patterns (last.pending ++ more) := by
  induction chunks generalizing redactor with
  | nil => exact ⟨[], redactor, rfl, h, rfl, fun more => by rw [flatten_nil, append_nil, nil_append]⟩
  | cons chunk rest ih =>
    obtain ⟨hchunk, hrest⟩ := forall_mem_cons.mp hchunks
    obtain ⟨written, next, hpush, hnext, hkept, hout⟩ := pushChunk_streaming h hchunk
    obtain ⟨later, last, hrun, hlast, hkept', hmore⟩ := ih hnext hrest
    refine ⟨written ++ later, last, ?_, hlast, hkept'.trans hkept, fun more => ?_⟩
    · simp only [pushChunks, bind_eq_ok]
      exact ⟨(written, next), hpush, (later, last), hrun, rfl⟩
    · rw [flatten_cons, ← append_assoc, append_assoc _ _ more, hout, ← append_assoc, hmore,
        append_assoc]

theorem Streaming.pending_bound :
    redactor.pending = [] ∨ ∃ pattern ∈ patterns, redactor.pending.length < pattern.length := by
  rcases h.held with ⟨-, -, hpend⟩ | ⟨-, -, -, hheld, pattern, hpattern, hlen⟩
  · exact Or.inl hpend
  · exact Or.inr ⟨pattern, hpattern, hlen ▸ hheld⟩

theorem Streaming.fits {chunk : Octets} (hchunk : chunk.length ≤ MAX_OUTPUT_CHUNK_LEN) :
    (redactor.pending ++ chunk).length ≤ redactor.pendingCapacity := by
  rw [h.capacity, length_append]
  rcases h.held with ⟨-, -, hpend⟩ | ⟨-, -, -, hheld, -⟩
  · rw [hpend, length_nil]
    omega
  · omega

end Scanning

-- However the input is cut into chunks, what is written is the input redacted as a whole. Between two
-- calls fewer bytes are held back than the longest pattern has, and the next chunk fits beside them.
theorem streaming_eq_redact (builder : AhoCorasickBuilder) (patterns : List Octets) (redactor : StreamingRedactor)
    (hnew : new builder patterns = .ok redactor) (chunks : List Octets)
    (hchunks : ∀ chunk ∈ chunks, chunk.length ≤ MAX_OUTPUT_CHUNK_LEN) :
    (∃ written last, redactor.pushChunks chunks = .ok (written, last) ∧
        written ++ last.finish = redact patterns chunks.flatten) ∧
      ∀ before after, chunks = before ++ after →
        ∃ written between, redactor.pushChunks before = .ok (written, between) ∧
          (between.pending = [] ∨ ∃ pattern ∈ patterns, between.pending.length < pattern.length) ∧
          ∀ chunk ∈ after.head?, (between.pending ++ chunk).length ≤ redactor.pendingCapacity := by
  obtain ⟨hstart, hpend⟩ := new_streaming hnew
  constructor
  · obtain ⟨written, last, hrun, hlast, -, hout⟩ := pushChunks_streaming hstart hchunks
    refine ⟨written, last, hrun, ?_⟩
    have hwhole := hout []
    rw [hpend, List.nil_append, List.append_nil, List.append_nil] at hwhole
    rw [finish_eq hlast, hwhole]
  · rintro before after rfl
    obtain ⟨hbefore, hafter⟩ := List.forall_mem_append.mp hchunks
    obtain ⟨written, between, hrun, hbetween, hkept, -⟩ := pushChunks_streaming hstart hbefore
    refine ⟨written, between, hrun, hbetween.pending_bound, fun chunk hchunk => ?_⟩
    rw [← hkept]
    exact hbetween.fits (hafter chunk (List.mem_of_mem_head? hchunk))

end StreamingRedactor

end Session

namespace Sample

def scanner : AhoCorasickBuilder where
  build patterns := some ⟨patterns, leftmostLongest patterns, fun _ => rfl⟩
  builds patterns matcher h := by rw [← Option.some.inj h]

def secrets : List Octets := ["abcd".toUTF8.toList, "abcdef".toUTF8.toList, "efgh".toUTF8.toList]

-- The longer secret is cut twice, and its first four bytes are a secret of their own.
def pieces : List Octets := ["x-abc".toUTF8.toList, "d".toUTF8.toList, "efgh-".toUTF8.toList]

theorem streaming_eq_redact_pieces :
    ∃ redactor, StreamingRedactor.new scanner secrets = .ok redactor ∧
      ∃ written last, redactor.pushChunks pieces = .ok (written, last) ∧
        written ++ last.finish = "x-[REDACTED]gh-".toUTF8.toList := by
  obtain ⟨redactor, hnew⟩ := exists_eq_ok_of_isOk (show (StreamingRedactor.new scanner secrets).isOk = true by
    decide +kernel)
  have hpieces : ∀ chunk ∈ pieces, chunk.length ≤ MAX_OUTPUT_CHUNK_LEN := by decide +kernel
  obtain ⟨⟨written, last, hrun, hout⟩, -⟩ :=
    StreamingRedactor.streaming_eq_redact scanner secrets redactor hnew pieces hpieces
  have hwhole : redact secrets pieces.flatten = "x-[REDACTED]gh-".toUTF8.toList := by decide +kernel
  exact ⟨redactor, hnew, written, last, hrun, hout.trans hwhole⟩

end Sample

end Jury.Protected
