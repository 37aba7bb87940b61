import Mathlib

-- The base32 form of a protected value, which the redactor looks for in text. The bits that are not
-- written yet stand in the low end of a 16-bit buffer; the others fall out at its high end.
namespace Jury.Protected

def ALPHABET : List Char := "ABCDEFGHIJKLMNOPQRSTUVWXYZ234567".toList

structure Base32 where
  buffer : UInt16
  bits : Nat
  output : List Char

-- The inner loop of the encoder.
def Base32.emit (buffer : UInt16) (bits : Nat) (output : List Char) : Base32 :=
  if 5 ≤ bits then
    let index := ((buffer >>> UInt16.ofNat (bits - 5)) &&& 0b11111).toNat
    emit buffer (bits - 5) (output ++ [ALPHABET[index]!])
  else { buffer, bits, output }
termination_by bits

def Base32.push (state : Base32) (byte : UInt8) : Base32 :=
  emit ((state.buffer <<< 8) ||| byte.toUInt16) (state.bits + 8) state.output

def Base32.finish (state : Base32) : List Char :=
  if 0 < state.bits then
    let index := ((state.buffer <<< UInt16.ofNat (5 - state.bits)) &&& 0b11111).toNat
    state.output ++ [ALPHABET[index]!]
  else state.output

def padToEight (output : List Char) : List Char :=
  if output.length % 8 = 0 then output else padToEight (output ++ ['='])
termination_by (8 - output.length % 8) % 8
decreasing_by
  rw [List.length_append, List.length_singleton]
  omega

def base32 (bytes : List UInt8) (padded : Bool) : List Char :=
  let output := (bytes.foldl Base32.push { buffer := 0, bits := 0, output := [] }).finish
  if padded then padToEight output else output

-- The low `count` bits of a number, most significant bit first.
def lowBits : Nat → Nat → List Bool
  | 0, _ => []
  | count + 1, value => value.testBit count :: lowBits count value

def fromBits : List Bool → Nat
  | [] => 0
  | bit :: rest => bit.toNat * 2 ^ rest.length + fromBits rest

def quintets : List Bool → List (List Bool)
  | [] => []
  | [a] => [[a, false, false, false, false]]
  | [a, b] => [[a, b, false, false, false]]
  | [a, b, c] => [[a, b, c, false, false]]
  | [a, b, c, d] => [[a, b, c, d, false]]
  | a :: b :: c :: d :: e :: rest => [a, b, c, d, e] :: quintets rest

def symbol (bits : List Bool) : Char := ALPHABET[fromBits bits]!

def bitString (bytes : List UInt8) : List Bool := bytes.flatMap fun byte => lowBits 8 byte.toNat

-- The encoding of RFC 4648: the bits of the input in groups of five, the last one filled with zeros.
def rfcBase32 (bytes : List UInt8) (padded : Bool) : List Char :=
  let symbols := (quintets (bitString bytes)).map symbol
  if padded then symbols ++ List.replicate ((8 - symbols.length % 8) % 8) '=' else symbols

@[simp] theorem length_lowBits (count value : Nat) : (lowBits count value).length = count := by
  induction count with
  | zero => rfl
  | succ count ih => rw [lowBits, List.length_cons, ih]

theorem lowBits_add (high low value : Nat) :
    lowBits (high + low) value = lowBits high (value >>> low) ++ lowBits low value := by
  induction high with
  | zero => rw [Nat.zero_add, lowBits, List.nil_append]
  | succ high ih =>
    rw [Nat.add_right_comm, lowBits, lowBits, ih, Nat.testBit_shiftRight, Nat.add_comm low, List.cons_append]

theorem lowBits_congr {value other : Nat} (h : ∀ i < count, value.testBit i = other.testBit i) :
    lowBits count value = lowBits count other := by
  induction count with
  | zero => rfl
  | succ count ih => rw [lowBits, lowBits, h count (by omega), ih fun i hi => h i (by omega)]

theorem lowBits_zero (count : Nat) : lowBits count 0 = List.replicate count false := by
  induction count with
  | zero => rfl
  | succ count ih => rw [lowBits, ih, Nat.zero_testBit, List.replicate_succ]

theorem fromBits_lowBits (count value : Nat) : fromBits (lowBits count value) = value % 2 ^ count := by
  induction count with
  | zero => rw [lowBits, fromBits, pow_zero, Nat.mod_one]
  | succ count ih =>
    rw [lowBits, fromBits, ih, length_lowBits, Nat.mod_pow_succ, Nat.toNat_testBit]
    ring

theorem quintets_append {groups : List (List Bool)} (h : ∀ group ∈ groups, group.length = 5) (rest : List Bool) :
    quintets (groups.flatten ++ rest) = groups ++ quintets rest := by
  induction groups with
  | nil => rfl
  | cons group groups ih =>
    obtain ⟨hlen, hrest⟩ := List.forall_mem_cons.mp h
    match group, hlen with
    | [a, b, c, d, e], _ => exact congrArg ([a, b, c, d, e] :: ·) (ih hrest)

theorem quintets_short {bits : List Bool} (hpos : 0 < bits.length) (hlen : bits.length < 5) :
    quintets bits = [bits ++ List.replicate (5 - bits.length) false] := by
  match bits, hpos, hlen with
  | [_], _, _ | [_, _], _, _ | [_, _, _], _, _ | [_, _, _, _], _, _ => rfl

-- The bits that have been read: those of the symbols written, and behind them the low bits of the buffer.
def Base32.Holds (state : Base32) (read : List Bool) : Prop :=
  ∃ groups : List (List Bool), (∀ group ∈ groups, group.length = 5) ∧ groups.map symbol = state.output ∧
    groups.flatten ++ lowBits state.bits state.buffer.toNat = read

variable {state : Base32} {read : List Bool}

theorem index_eq (word : UInt16) : (word &&& 0b11111).toNat = fromBits (lowBits 5 word.toNat) := by
  rw [fromBits_lowBits, UInt16.toNat_and]
  exact Nat.and_two_pow_sub_one_eq_mod word.toNat 5

theorem shift_toNat {shift : Nat} (h : shift < 16) : (UInt16.ofNat shift).toNat % 16 = shift := by
  rw [UInt16.toNat_ofNat_of_lt' (h.trans (by decide)), Nat.mod_eq_of_lt h]

theorem testBit_shifted (buffer : UInt16) {shift : Nat} (h : shift < 16) (i : Nat) :
    (buffer <<< UInt16.ofNat shift).toNat.testBit i =
      (decide (i < 16) && (decide (shift ≤ i) && buffer.toNat.testBit (i - shift))) := by
  rw [UInt16.toNat_shiftLeft, shift_toNat h, Nat.testBit_mod_two_pow, Nat.testBit_shiftLeft]

theorem Base32.emit_holds {buffer : UInt16} {count : Nat} {output : List Char} (hcount : count ≤ 16)
    (h : (Base32.mk buffer count output).Holds read) :
    (emit buffer count output).Holds read ∧ (emit buffer count output).bits < 5 := by
  induction count using Nat.strongRecOn generalizing output with
  | ind count ih =>
    rw [emit]
    by_cases hfive : 5 ≤ count
    · rw [if_pos hfive]
      refine ih (count - 5) (by omega) (by omega) ?_
      obtain ⟨groups, hgroups, rfl, hread⟩ := h
      have hindex := index_eq (buffer >>> UInt16.ofNat (count - 5))
      rw [UInt16.toNat_shiftRight, shift_toNat (by omega)] at hindex
      have hsplit := lowBits_add 5 (count - 5) buffer.toNat
      rw [Nat.add_sub_of_le hfive] at hsplit
      refine ⟨groups ++ [lowBits 5 (buffer.toNat >>> (count - 5))], ?_, ?_, ?_⟩
      · simpa [or_imp, forall_and] using hgroups
      · rw [List.map_append, hindex, List.map_singleton, symbol]
      · rw [List.flatten_concat, List.append_assoc, ← hsplit, hread]
    · rw [if_neg hfive]
      exact ⟨h, Nat.lt_of_not_le hfive⟩

section Held

variable (h : state.Holds read) (hcount : state.bits < 5)

include h hcount

-- A byte moves what is still to be written up by eight bits. It is at most four bits, so none falls out.
theorem push_holds (byte : UInt8) :
    (state.push byte).Holds (read ++ lowBits 8 byte.toNat) ∧ (state.push byte).bits < 5 := by
  refine Base32.emit_holds (by omega) ?_
  obtain ⟨groups, hgroups, hout, rfl⟩ := h
  refine ⟨groups, hgroups, hout, ?_⟩
  have hbit : ∀ i, ((state.buffer <<< 8) ||| byte.toUInt16).toNat.testBit i =
      (decide (i < 16) && (decide (8 ≤ i) && state.buffer.toNat.testBit (i - 8)) || byte.toNat.testBit i) := by
    intro i
    rw [UInt16.toNat_or, UInt8.toNat_toUInt16, Nat.testBit_or]
    exact congrArg (· || byte.toNat.testBit i) (testBit_shifted state.buffer (by decide) i)
  rw [List.append_assoc, lowBits_add]
  congr 2
  · refine lowBits_congr fun i hi => ?_
    have hhigh : byte.toNat.testBit (8 + i) = false :=
      Nat.testBit_lt_two_pow (byte.toNat_lt.trans_le (Nat.pow_le_pow_right (by decide) (Nat.le_add_right 8 i)))
    have hroom : 8 + i < 16 := by omega
    rw [Nat.testBit_shiftRight, hbit, hhigh]
    simp [hroom]
  · refine lowBits_congr fun i hi => ?_
    rw [hbit, decide_eq_false (Nat.not_le.mpr hi), Bool.false_and, Bool.and_false, Bool.false_or]

theorem foldl_push_holds (bytes : List UInt8) :
    (bytes.foldl Base32.push state).Holds (read ++ bitString bytes) ∧ (bytes.foldl Base32.push state).bits < 5 := by
  induction bytes generalizing state read with
  | nil => exact ⟨by simpa [bitString] using h, hcount⟩
  | cons byte bytes ih =>
    obtain ⟨hpushed, hfew⟩ := push_holds h hcount byte
    have hrest := ih hpushed hfew
    rwa [List.append_assoc] at hrest

theorem finish_eq : state.finish = (quintets read).map symbol := by
  obtain ⟨groups, hgroups, hout, rfl⟩ := h
  rw [quintets_append hgroups, List.map_append, hout, Base32.finish]
  by_cases hpos : 0 < state.bits
  · have hlow : lowBits 5 (state.buffer <<< UInt16.ofNat (5 - state.bits)).toNat =
        lowBits state.bits state.buffer.toNat ++ List.replicate (5 - state.bits) false := by
      have hshift := testBit_shifted state.buffer (by omega : 5 - state.bits < 16)
      have hsplit := lowBits_add state.bits (5 - state.bits) (state.buffer <<< UInt16.ofNat (5 - state.bits)).toNat
      rw [Nat.add_sub_of_le hcount.le] at hsplit
      rw [hsplit, ← lowBits_zero]
      congr 1
      · refine lowBits_congr fun i hi => ?_
        have hroom : 5 - state.bits + i < 16 := by omega
        rw [Nat.testBit_shiftRight, hshift]
        simp [hroom]
      · refine lowBits_congr fun i hi => ?_
        rw [hshift, decide_eq_false (Nat.not_le.mpr hi), Bool.false_and, Bool.and_false, Nat.zero_testBit]
    rw [if_pos hpos, index_eq, hlow, quintets_short (by simpa using hpos) (by simpa using hcount), length_lowBits]
    rfl
  · have hzero : state.bits = 0 := by omega
    rw [if_neg hpos, hzero, lowBits, quintets, List.map_nil, List.append_nil]

end Held

theorem padToEight_eq (output : List Char) :
    padToEight output = output ++ List.replicate ((8 - output.length % 8) % 8) '=' := by
  induction output using padToEight.induct with
  | case1 output hfull =>
    rw [padToEight, if_pos hfull, hfull]
    exact (List.append_nil output).symm
  | case2 output hshort ih =>
    have hone : (8 - output.length % 8) % 8 = (8 - (output ++ ['=']).length % 8) % 8 + 1 := by
      rw [List.length_append, List.length_singleton]
      omega
    rw [padToEight, if_neg hshort, ih, hone, List.replicate_succ, List.append_assoc]
    rfl

theorem base32_eq_rfc (bytes : List UInt8) (padded : Bool) : base32 bytes padded = rfcBase32 bytes padded := by
  have hstart : (Base32.mk 0 0 []).Holds [] := ⟨[], by simp, rfl, rfl⟩
  obtain ⟨hholds, hfew⟩ := foldl_push_holds hstart (by decide) bytes
  rw [List.nil_append] at hholds
  rw [base32, rfcBase32, finish_eq hholds hfew, padToEight_eq]

end Jury.Protected
