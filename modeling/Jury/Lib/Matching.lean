import Mathlib

-- Searching a text for a set of patterns: at each place the longest pattern that starts there, the
-- leftmost place first, and the search goes on behind what it found.
namespace Jury.Lib

open List

abbrev Octets := List UInt8

def slice {β : Type} (text : List β) (start stop : Nat) : List β := (text.take stop).drop start

variable {β : Type} {text : List β} {start stop : Nat}

theorem slice_append_add {done : List β} :
    slice (done ++ text) (done.length + start) (done.length + stop) = slice text start stop := by
  rw [slice, take_append, take_of_length_le (by omega), Nat.add_sub_cancel_left, drop_append,
    drop_eq_nil_of_le (by omega), nil_append, Nat.add_sub_cancel_left, slice]

theorem slice_eq_drop (h : text.length ≤ stop) : slice text start stop = text.drop start := by
  rw [slice, take_of_length_le h]

theorem slice_cons_zero {first : β} (h : 0 < stop) :
    slice (first :: text) 0 stop = first :: slice (first :: text) 1 stop := by
  obtain ⟨stop, rfl⟩ : ∃ n, stop = n + 1 := ⟨stop - 1, by omega⟩
  simp [slice]

theorem slice_eq_nil (h : stop ≤ start) : slice text start stop = [] := by
  rw [slice, drop_eq_nil_iff, length_take]
  omega

structure Match where
  start : Nat
  stop : Nat
deriving DecidableEq

def Match.shift (distance : Nat) (found : Match) : Match := ⟨distance + found.start, distance + found.stop⟩

section Search

variable {β : Type} [DecidableEq β]

def longestAt (patterns : List (List β)) (text : List β) : Option Nat :=
  ((patterns.filter fun pattern => pattern.isPrefixOf text).map List.length).max?

variable {patterns : List (List β)} {text : List β} {n : Nat} {rest : List β} {first : β}

theorem longestAt_eq_some : longestAt patterns text = some n ↔
      (∃ pattern ∈ patterns, pattern <+: text ∧ pattern.length = n) ∧
        ∀ pattern ∈ patterns, pattern <+: text → pattern.length ≤ n := by
  simp only [longestAt, max?_eq_some_iff, mem_map, mem_filter, isPrefixOf_iff_prefix]
  constructor
  · rintro ⟨⟨pattern, ⟨hmem, hprefix⟩, hlen⟩, hmax⟩
    exact ⟨⟨pattern, hmem, hprefix, hlen⟩, fun other hother hstarts => hmax _ ⟨other, ⟨hother, hstarts⟩, rfl⟩⟩
  · rintro ⟨⟨pattern, hmem, hprefix, hlen⟩, hmax⟩
    refine ⟨⟨pattern, ⟨hmem, hprefix⟩, hlen⟩, ?_⟩
    rintro _ ⟨other, ⟨hother, hstarts⟩, rfl⟩
    exact hmax other hother hstarts

theorem longestAt_congr {others : List (List β)} {other : List β}
    (h : ∀ pattern, (pattern ∈ patterns ∧ pattern <+: text) ↔ (pattern ∈ others ∧ pattern <+: other)) :
    longestAt patterns text = longestAt others other := by
  apply Option.ext
  intro n
  rw [longestAt_eq_some, longestAt_eq_some]
  constructor
  · rintro ⟨⟨pattern, hmem, hprefix, hlen⟩, hmax⟩
    obtain ⟨hmem', hprefix'⟩ := (h pattern).mp ⟨hmem, hprefix⟩
    refine ⟨⟨pattern, hmem', hprefix', hlen⟩, fun q hq hstarts => ?_⟩
    obtain ⟨hq', hstarts'⟩ := (h q).mpr ⟨hq, hstarts⟩
    exact hmax q hq' hstarts'
  · rintro ⟨⟨pattern, hmem, hprefix, hlen⟩, hmax⟩
    obtain ⟨hmem', hprefix'⟩ := (h pattern).mpr ⟨hmem, hprefix⟩
    refine ⟨⟨pattern, hmem', hprefix', hlen⟩, fun q hq hstarts => ?_⟩
    obtain ⟨hq', hstarts'⟩ := (h q).mp ⟨hq, hstarts⟩
    exact hmax q hq' hstarts'

-- A text as long as every pattern already decides what starts at its beginning.
theorem longestAt_append {longest : Nat} {more : List β} (hpatterns : ∀ pattern ∈ patterns, pattern.length ≤ longest)
    (hlen : longest ≤ text.length) : longestAt patterns (text ++ more) = longestAt patterns text := by
  apply longestAt_congr
  intro pattern
  refine and_congr_right fun hmem => ⟨fun hstarts => ?_, fun hstarts => hstarts.trans (prefix_append _ _)⟩
  have hbound := hpatterns pattern hmem
  exact prefix_of_prefix_length_le hstarts (prefix_append _ _) (by omega)

theorem longestAt_le_length (h : longestAt patterns text = some n) : n ≤ text.length := by
  obtain ⟨⟨pattern, -, hprefix, rfl⟩, -⟩ := longestAt_eq_some.mp h
  exact hprefix.length_le

-- The matches of a search that still has `skip` elements of its last match to pass. The offset is that
-- of the text that is left.
def searchFrom (patterns : List (List β)) : Nat → Nat → List β → List Match
  | _, _, [] => []
  | skip + 1, offset, _ :: rest => searchFrom patterns skip (offset + 1) rest
  | 0, offset, first :: rest =>
    match longestAt patterns (first :: rest) with
    | some (n + 1) => ⟨offset, offset + (n + 1)⟩ :: searchFrom patterns n (offset + 1) rest
    | _ => searchFrom patterns 0 (offset + 1) rest

def leftmostLongest (patterns : List (List β)) (text : List β) : List Match := searchFrom patterns 0 0 text

theorem searchFrom_shift (skip offset distance : Nat) (text : List β) :
    searchFrom patterns skip (distance + offset) text = (searchFrom patterns skip offset text).map (Match.shift distance) := by
  induction text generalizing skip offset with
  | nil => simp [searchFrom]
  | cons first rest ih =>
    cases skip with
    | succ skip =>
      rw [searchFrom, searchFrom, Nat.add_assoc]
      exact ih skip (offset + 1)
    | zero =>
      rw [searchFrom, searchFrom]
      split
      · rw [map_cons, Nat.add_assoc, Nat.add_assoc, ih]
        rfl
      · rw [Nat.add_assoc, ih]

theorem searchFrom_skip (skip offset : Nat) (text : List β) :
    searchFrom patterns skip offset text = searchFrom patterns 0 (offset + skip) (text.drop skip) := by
  induction skip generalizing offset text with
  | zero => rfl
  | succ skip ih =>
    cases text with
    | nil => simp [searchFrom]
    | cons first rest =>
      rw [searchFrom, ih, drop_succ_cons, Nat.add_right_comm, Nat.add_assoc]

theorem leftmostLongest_match (h : longestAt patterns (first :: rest) = some (n + 1)) :
    leftmostLongest patterns (first :: rest) =
      ⟨0, n + 1⟩ :: (leftmostLongest patterns (rest.drop n)).map (Match.shift (n + 1)) := by
  rw [leftmostLongest, searchFrom, h]
  simp only [Nat.zero_add]
  rw [searchFrom_skip, leftmostLongest, ← searchFrom_shift, Nat.add_comm 1 n, Nat.add_zero]

theorem leftmostLongest_none (h : ∀ n, longestAt patterns (first :: rest) ≠ some (n + 1)) :
    leftmostLongest patterns (first :: rest) = (leftmostLongest patterns rest).map (Match.shift 1) := by
  rw [leftmostLongest, searchFrom]
  split
  · rename_i n hfound
    exact absurd hfound (h n)
  · rw [leftmostLongest, ← searchFrom_shift]

theorem searchFrom_start_lt {skip offset : Nat} {text : List β} {found : Match}
    (h : found ∈ searchFrom patterns skip offset text) : found.start < offset + text.length := by
  induction text generalizing skip offset with
  | nil => simp [searchFrom] at h
  | cons first rest ih =>
    rw [length_cons]
    cases skip with
    | succ skip =>
      rw [searchFrom] at h
      have hrest := ih h
      omega
    | zero =>
      rw [searchFrom] at h
      split at h
      · rcases mem_cons.mp h with rfl | hmem
        · simp only
          omega
        · have hrest := ih hmem
          omega
      · have hrest := ih h
        omega

end Search

section Position

variable {β : Type} [DecidableEq β]

def position (pattern : List β) : List β → Option Nat
  | [] => if pattern.isEmpty then some 0 else none
  | first :: rest => if pattern.isPrefixOf (first :: rest) then some 0 else (position pattern rest).map (· + 1)

variable {pattern text : List β}

theorem position_eq_none : position pattern text = none ↔ ¬ pattern <:+: text := by
  induction text with
  | nil => simp [position]
  | cons first rest ih =>
    rw [position, infix_cons_iff]
    split
    next hstarts => simp [List.isPrefixOf_iff_prefix.mp hstarts]
    next hstarts =>
      rw [List.isPrefixOf_iff_prefix] at hstarts
      simp [ih, hstarts]

theorem position_eq_some {n : Nat} (hpattern : pattern ≠ []) (h : position pattern text = some n) :
    pattern <+: text.drop n ∧ ¬ pattern <:+: text.take n := by
  induction text generalizing n with
  | nil =>
    rw [position, if_neg (by simpa using hpattern)] at h
    cases h
  | cons first rest ih =>
    rw [position] at h
    split at h
    next hstarts =>
      obtain rfl := Option.some.inj h
      exact ⟨List.isPrefixOf_iff_prefix.mp hstarts, by simpa using hpattern⟩
    next hstarts =>
      obtain ⟨m, hm, rfl⟩ := Option.map_eq_some_iff.mp h
      obtain ⟨hplace, hbefore⟩ := ih hm
      refine ⟨hplace, ?_⟩
      rw [take_succ_cons, infix_cons_iff, not_or]
      refine ⟨fun hcut => hstarts (List.isPrefixOf_iff_prefix.mpr ?_), hbefore⟩
      exact hcut.trans (prefix_cons_inj first |>.mpr (List.take_prefix m rest))

end Position

section Replace

variable {β : Type}

def replaceFrom (marker text : List β) : Nat → List Match → List β
  | cursor, [] => text.drop cursor
  | cursor, found :: rest => slice text cursor found.start ++ marker ++ replaceFrom marker text found.stop rest

end Replace

end Jury.Lib
