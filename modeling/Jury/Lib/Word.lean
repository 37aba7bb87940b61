import Mathlib

-- Sums of machine words that stop at the largest word, or have no value beyond it.
namespace Jury.Lib

def saturatingAdd (a b : UInt64) : UInt64 :=
  if a.toNat + b.toNat < 2 ^ 64 then a + b else 0xffffffffffffffff

def checkedAdd (a b : UInt64) : Option UInt64 :=
  if a.toNat + b.toNat < 2 ^ 64 then some (a + b) else none

theorem toNat_saturatingAdd (a b : UInt64) : (saturatingAdd a b).toNat = min (a.toNat + b.toNat) (2 ^ 64 - 1) := by
  unfold saturatingAdd
  split
  · rw [UInt64.toNat_add]
    omega
  · have hmax : (0xffffffffffffffff : UInt64).toNat = 2 ^ 64 - 1 := rfl
    omega

theorem saturatingAdd_lt_iff {a b c : UInt64} : saturatingAdd a b < c ↔ a.toNat + b.toNat < c.toNat := by
  have := c.toNat_lt
  rw [UInt64.lt_iff_toNat_lt, toNat_saturatingAdd]
  omega

theorem checkedAdd_eq_some {a b c : UInt64} : checkedAdd a b = some c ↔ c.toNat = a.toNat + b.toNat := by
  unfold checkedAdd
  have hc := c.toNat_lt
  split
  · rw [Option.some.injEq, ← UInt64.toNat_inj, UInt64.toNat_add]
    omega
  · simp only [reduceCtorEq, false_iff]
    omega

end Jury.Lib
