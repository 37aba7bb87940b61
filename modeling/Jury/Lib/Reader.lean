import Jury.Lib.Outcome
import Jury.Lib.Bytes

-- Readers of byte strings. A reader takes what it needs off the front of a string and leaves the rest,
-- or stops with an error. The lemmas are the other half of the prefix codes: a reader given what the
-- code of a value wrote, followed by anything, returns the value and leaves what followed. Each is a
-- simp lemma about `run` on a concatenation, so that a reader of a record meets the record's encoding
-- field by field.
namespace Jury.Lib

theorem Bytes.append_empty (a : Bytes) : a ++ ∅ = a :=
  Bytes.ext rfl ((Nat.add_zero _).trans (Nat.mul_one _))

def Bytes.splitAt (bytes : Bytes) (n : Nat) : Option (FixedBytes n × Bytes) :=
  if h : n ≤ bytes.length then
    some (⟨⟨n, bytes.value / 256 ^ (bytes.length - n), by
        refine Nat.div_lt_of_lt_mul ?_
        rw [← pow_add, Nat.sub_add_cancel h]
        exact bytes.value_lt⟩, rfl⟩,
      ⟨bytes.length - n, bytes.value % 256 ^ (bytes.length - n), Nat.mod_lt _ (Nat.pow_pos (by decide))⟩)
  else none

theorem Bytes.splitAt_append {n : Nat} (a : FixedBytes n) (rest : Bytes) :
    (a.bytes ++ rest).splitAt n = some (a, rest) := by
  have hpos : 0 < 256 ^ rest.length := Nat.pow_pos (by decide)
  have hlen : (a.bytes ++ rest).length - n = rest.length := by simp
  have hfront : (a.bytes ++ rest).value / 256 ^ rest.length = a.bytes.value := by
    rw [value_append, Nat.add_comm, Nat.add_mul_div_right _ _ hpos, Nat.div_eq_of_lt rest.value_lt, Nat.zero_add]
  have hrest : (a.bytes ++ rest).value % 256 ^ rest.length = rest.value := by
    rw [value_append, Nat.add_comm, Nat.add_mul_mod_self_right, Nat.mod_eq_of_lt rest.value_lt]
  rw [splitAt, dif_pos (by simp)]
  congr 1
  refine Prod.ext (FixedBytes.ext (Bytes.ext ?_ ?_)) (Bytes.ext hlen ?_)
  · exact a.length_eq.symm
  · simpa only [hlen] using hfront
  · simpa only [hlen] using hrest

abbrev Reader (ε : Type) := StateT Bytes (Except ε)

namespace Reader

variable {ε α : Type}

def take (error : ε) (n : Nat) : Reader ε (FixedBytes n) := fun bytes => orReject (bytes.splitAt n) error

def number (error : ε) (width : Nat) : Reader ε Nat := do
  let bytes ← take error width
  return bytes.bytes.value

def many (reader : Reader ε α) : Nat → Reader ε (List α)
  | 0 => return []
  | count + 1 => do
    let first ← reader
    let rest ← many reader count
    return first :: rest

@[simp] theorem run_pure (a : α) (bytes : Bytes) : (pure a : Reader ε α).run bytes = .ok (a, bytes) := rfl

theorem run_bind {β : Type} {reader : Reader ε α} {next : α → Reader ε β} {bytes rest : Bytes} {a : α}
    (h : reader.run bytes = .ok (a, rest)) : (reader >>= next).run bytes = (next a).run rest := by
  rw [StateT.run_bind, h]
  rfl

@[simp] theorem run_take {n : Nat} (error : ε) (a : FixedBytes n) (rest : Bytes) :
    (take error n).run (a.bytes ++ rest) = .ok (a, rest) :=
  orReject_eq_ok.mpr (Bytes.splitAt_append a rest)

theorem run_number {width value : Nat} (error : ε) (hvalue : value < 256 ^ width) (rest : Bytes) :
    (number error width).run (beBytes width value ++ rest) = .ok (value, rest) := by
  have hread : (take error width).run (beBytes width value ++ rest) = .ok (⟨beBytes width value, rfl⟩, rest) :=
    run_take error (⟨beBytes width value, rfl⟩ : FixedBytes width) rest
  rw [number, run_bind hread, run_pure]
  simp only [beBytes, Nat.mod_eq_of_lt hvalue]

theorem run_many {reader : Reader ε α} {encode : α → Bytes} {values : List α}
    (hreader : ∀ a ∈ values, ∀ rest, reader.run (encode a ++ rest) = .ok (a, rest)) (rest : Bytes) :
    (many reader values.length).run (concat (values.map encode) ++ rest) = .ok (values, rest) := by
  induction values with
  | nil =>
    rw [List.length_nil, many, List.map_nil, concat, Bytes.empty_append]
    rfl
  | cons first others ih =>
    have hothers := ih fun a ha => hreader a (List.mem_cons_of_mem _ ha)
    rw [List.length_cons, many, List.map_cons, concat, Bytes.append_assoc,
      run_bind (hreader first List.mem_cons_self _), run_bind hothers]
    rfl

end Reader

end Jury.Lib
