import Jury.Lib.Outcome

-- Lists whose elements name the code of the one before them: a code that is found in two such lists at one place
-- stands behind the same elements in both.
namespace Jury.Lib

variable {α δ ε : Type} {code : α → Option δ} {previous : α → δ}

variable {root : δ} {xs ys : List α} {x : α}

-- Every element has a code and names the code before it, the first one that of the root.
def Linked (code : α → Option δ) (previous : α → δ) : δ → List α → Prop
  | _, [] => True
  | root, x :: rest => previous x = root ∧ ∃ next, code x = some next ∧ Linked code previous next rest

def Ends (code : α → Option δ) (root : δ) (xs : List α) (last : δ) : Prop :=
  (xs.getLast?.elim (some root) code) = some last

theorem linked_concat : Linked code previous root (xs ++ [x]) ↔
      Linked code previous root xs ∧ Ends code root xs (previous x) ∧ ∃ next, code x = some next := by
  induction xs generalizing root with
  | nil => simp [Linked, Ends, eq_comm]
  | cons first rest ih =>
    have hends : ∀ next, code first = some next →
        (Ends code root (first :: rest) (previous x) ↔ Ends code next rest (previous x)) := by
      intro next hnext
      cases rest with
      | nil => simp [Ends, hnext]
      | cons second rest =>
        simp [Ends, List.getLast?_cons_cons, List.getLast?_eq_some_getLast (List.cons_ne_nil second rest)]
    simp only [List.cons_append, Linked, ih]
    constructor
    · rintro ⟨hprev, next, hnext, hlinked, hlast, hcoded⟩
      exact ⟨⟨hprev, next, hnext, hlinked⟩, (hends next hnext).mpr hlast, hcoded⟩
    · rintro ⟨⟨hprev, next, hnext, hlinked⟩, hlast, hcoded⟩
      exact ⟨hprev, next, hnext, hlinked, (hends next hnext).mp hlast, hcoded⟩

theorem Linked.left (h : Linked code previous root (xs ++ ys)) : Linked code previous root xs := by
  induction xs generalizing root with
  | nil => trivial
  | cons first rest ih =>
    obtain ⟨hprev, next, hnext, hrest⟩ := h
    exact ⟨hprev, next, hnext, ih hrest⟩

theorem Linked.coded (h : Linked code previous root xs) (hx : x ∈ xs) : ∃ value, code x = some value := by
  induction xs generalizing root with
  | nil => cases hx
  | cons first rest ih =>
    obtain ⟨-, next, hnext, hrest⟩ := h
    rcases List.mem_cons.mp hx with rfl | hx
    · exact ⟨next, hnext⟩
    · exact ih hrest hx

-- What stands behind one element is settled by it: the induction goes back from the element to the root.
theorem Linked.eq_of_last (hx : Linked code previous root (xs ++ [x])) (hy : Linked code previous root (ys ++ [x]))
    (hlen : xs.length = ys.length) (hcodes : ∀ a ∈ xs, ∀ b ∈ ys, code a = code b → a = b) : xs = ys := by
  induction xs using List.reverseRecOn generalizing ys x with
  | nil => exact (List.eq_nil_of_length_eq_zero hlen.symm).symm
  | append_singleton xs a ih =>
    obtain rfl | ⟨ys, b, rfl⟩ := List.eq_nil_or_concat' ys
    · simp at hlen
    · obtain ⟨hxs, hendA, -⟩ := linked_concat.mp hx
      obtain ⟨hys, hendB, -⟩ := linked_concat.mp hy
      simp only [Ends, List.getLast?_concat, Option.elim_some] at hendA hendB
      obtain rfl : a = b := hcodes a (by simp) b (by simp) (hendA.trans hendB.symm)
      rw [ih hxs hys (by simpa using hlen) fun c hc d hd => hcodes c (by simp [hc]) d (by simp [hd])]

-- A scan that checks the link of every element and hands on its code.
theorem linked_of_scan {step : δ → α × Nat → Except ε δ} {last : δ} {start : Nat}
    (hstep : ∀ before x index after, step before (x, index) = .ok after → previous x = before ∧ code x = some after)
    (h : (xs.zipIdx start).foldlM step root = .ok last) : Linked code previous root xs := by
  induction xs generalizing root start with
  | nil => trivial
  | cons first rest ih =>
    rw [List.zipIdx_cons] at h
    obtain ⟨next, hnext, hrest⟩ := foldlM_cons_eq_ok.mp h
    obtain ⟨hprev, hcode⟩ := hstep root first start next hnext
    exact ⟨hprev, next, hcode, ih hrest⟩

-- Every element but the first names the one before it.
structure Descends (Root : α → Prop) (Names : α → α → Prop) (xs : List α) : Prop where
  root : ∀ x, xs[0]? = some x → Root x
  names : ∀ index before x, xs[index]? = some before → xs[index + 1]? = some x → Names x before

-- What an element names is settled by it, and a root names nothing: a shared element stands at one place.
theorem Descends.same_up_to {Root : α → Prop} {Names : α → α → Prop} (hxs : Descends Root Names xs)
    (hys : Descends Root Names ys) (hroot : ∀ x before, Root x → ¬ Names x before)
    (hnames : ∀ x a b, Names x a → Names x b → a = b) {index other : Nat} (hx : xs[index]? = some x)
    (hy : ys[other]? = some x) : other = index ∧ xs.take (index + 1) = ys.take (index + 1) := by
  have hbefore : ∀ {zs : List α} {place : Nat} {z : α}, zs[place + 1]? = some z →
      ∃ before, zs[place]? = some before := by
    intro zs place z hz
    have := (List.getElem?_eq_some_iff.mp hz).1
    exact ⟨_, List.getElem?_eq_getElem (by omega)⟩
  induction index generalizing other x with
  | zero =>
    cases other with
    | zero => exact ⟨rfl, by simp [List.take_add_one, hx, hy]⟩
    | succ other =>
      obtain ⟨before, hb⟩ := hbefore hy
      exact absurd (hys.names other before x hb hy) (hroot x before (hxs.root x hx))
  | succ index ih =>
    obtain ⟨before, hb⟩ := hbefore hx
    have hnamed := hxs.names index before x hb hx
    cases other with
    | zero => exact absurd hnamed (hroot x before (hys.root x hy))
    | succ other =>
      obtain ⟨before', hb'⟩ := hbefore hy
      obtain rfl := hnames x before before' hnamed (hys.names other before' x hb' hy)
      obtain ⟨rfl, htake⟩ := ih hb hb'
      refine ⟨rfl, ?_⟩
      rw [List.take_add_one, hx, List.take_add_one (l := ys), hy, htake]

end Jury.Lib
