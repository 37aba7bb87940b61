import Mathlib

-- Orders taken from a key, tuples ordered by their components from left to right, and lists in
-- strictly increasing order.
namespace Jury.Lib

open Std

variable {α κ : Type} [Ord κ]

abbrev keyOrd (key : α → κ) : Ord α := ⟨fun a b => compare (key a) (key b)⟩

theorem keyOrd_trans [TransOrd κ] (key : α → κ) : @TransOrd α (keyOrd key) :=
  letI := keyOrd key
  { eq_swap := fun {a b} => OrientedOrd.eq_swap (a := key a) (b := key b)
    isLE_trans := fun {a b c} => TransOrd.isLE_trans (a := key a) (b := key b) (c := key c) }

variable {key : α → κ} {values : List α}

theorem keyOrd_lawful [LawfulEqOrd κ] [OrientedOrd κ] (hkey : Function.Injective key) : @LawfulEqOrd α (keyOrd key) :=
  letI := keyOrd key
  { compare_self := fun {a} => ReflOrd.compare_self (a := key a)
    eq_of_compare := fun {a b} h => hkey (LawfulEqOrd.eq_of_compare (a := key a) (b := key b) h) }

instance instOrdProd {β : Type} [Ord α] [Ord β] : Ord (α × β) := lexOrd

-- Each element before the last is strictly smaller than its successor under `key`.
def sortedByKey (values : List α) (key : α → κ) : Bool :=
  (values.zip values.tail).all fun pair => (compare (key pair.1) (key pair.2)).isLT

def strictlySortedUnique [Ord α] (values : List α) : Bool := sortedByKey values id

theorem sortedByKey_iff_pairwise [TransOrd κ] :
    sortedByKey values key = true ↔ values.Pairwise fun a b => compare (key a) (key b) = .lt := by
  induction values with
  | nil => simp [sortedByKey]
  | cons a tail ih =>
    cases tail with
    | nil => simp [sortedByKey]
    | cons b tail =>
      have hstep : sortedByKey (a :: b :: tail) key = true ↔
          compare (key a) (key b) = .lt ∧ sortedByKey (b :: tail) key = true := by
        simp [sortedByKey, Ordering.isLT_iff_eq_lt]
      rw [hstep, ih, List.pairwise_cons (a := a)]
      constructor
      · rintro ⟨hab, htail⟩
        refine ⟨fun c hc => ?_, htail⟩
        cases List.mem_cons.mp hc with
        | inl h => exact h ▸ hab
        | inr h => exact TransCmp.lt_trans hab ((List.pairwise_cons.mp htail).1 c h)
      · rintro ⟨hhead, htail⟩
        exact ⟨hhead b (by simp), htail⟩

def sortByKey (values : List α) (key : α → κ) : List α :=
  values.insertionSort fun a b => (compare (key a) (key b)).isLE = true

theorem nodup_of_sortedByKey [TransOrd κ] (h : sortedByKey values key = true) : (values.map key).Nodup := by
  rw [List.Nodup, List.pairwise_map]
  refine (sortedByKey_iff_pairwise.mp h).imp ?_
  intro a b hlt heq
  rw [heq, ReflOrd.compare_self] at hlt
  exact Ordering.noConfusion hlt

end Jury.Lib
