import Jury.Lib.Order

-- Lists sorted by a key: equal neighbours collapse, and of every group a limited number of values is kept.
namespace Jury.Lib

open Std List

variable {α κ : Type}

-- Of neighbours that are the same the first stays.
def collapse (same : α → α → Bool) (values : List α) : List α :=
  values.foldr (fun value rest =>
    match rest with
    | [] => [value]
    | next :: tail => if same value next then value :: tail else value :: next :: tail) []

theorem collapse_cons (same : α → α → Bool) (value : α) (values : List α) :
    (∀ next ∈ (collapse same values).head?, same value next = false) ∧
        collapse same (value :: values) = value :: collapse same values ∨
      ∃ next tail, collapse same values = next :: tail ∧ same value next = true ∧
        collapse same (value :: values) = value :: tail := by
  have hcons : collapse same (value :: values) = (match collapse same values with
    | [] => [value]
    | next :: tail => if same value next then value :: tail else value :: next :: tail) := rfl
  cases hrest : collapse same values with
  | nil =>
    rw [hcons, hrest]
    exact .inl ⟨by simp, rfl⟩
  | cons next tail =>
    by_cases hsame : same value next = true
    · refine .inr ⟨next, tail, rfl, hsame, ?_⟩
      rw [hcons, hrest]
      exact if_pos hsame
    · refine .inl ⟨by simpa using hsame, ?_⟩
      rw [hcons, hrest]
      exact if_neg hsame

theorem collapse_sublist (same : α → α → Bool) (values : List α) : (collapse same values).Sublist values := by
  induction values with
  | nil => exact .slnil
  | cons value values ih =>
    rcases collapse_cons same value values with ⟨-, h⟩ | ⟨next, tail, hrest, -, h⟩
    · rw [h]
      exact ih.cons_cons value
    · rw [h]
      rw [hrest] at ih
      exact ((sublist_cons_self next tail).trans ih).cons_cons value

theorem exists_mem_collapse {same : α → α → Bool} {key : α → κ} {values : List α}
    (hsame : ∀ a b, same a b = true → key a = key b) {a : α} (ha : a ∈ values) :
    ∃ b ∈ collapse same values, key b = key a := by
  induction values with
  | nil => cases ha
  | cons value values ih =>
    rcases collapse_cons same value values with ⟨-, h⟩ | ⟨next, tail, hrest, heq, h⟩
    · rw [h]
      rcases mem_cons.mp ha with rfl | ha
      · exact ⟨a, mem_cons_self, rfl⟩
      · obtain ⟨b, hb, hkey⟩ := ih ha
        exact ⟨b, mem_cons_of_mem _ hb, hkey⟩
    · rw [h]
      rcases mem_cons.mp ha with rfl | ha
      · exact ⟨a, mem_cons_self, rfl⟩
      · obtain ⟨b, hb, hkey⟩ := ih ha
        rw [hrest] at hb
        rcases mem_cons.mp hb with rfl | hb
        · exact ⟨value, mem_cons_self, (hsame _ _ heq).trans hkey⟩
        · exact ⟨b, mem_cons_of_mem _ hb, hkey⟩

-- A value is kept if its group, which is at the end of what is kept so far, has room.
def keepPerGroup [DecidableEq κ] (limit : Nat) (group : α → κ) (kept : List α) (value : α) : List α :=
  if (kept.reverse.takeWhile fun prior => group prior == group value).length < limit then kept ++ [value] else kept

theorem keepPerGroup_sublist [DecidableEq κ] (limit : Nat) (group : α → κ) (values : List α) :
    (values.foldl (keepPerGroup limit group) []).Sublist values := by
  induction values using reverseRecOn with
  | nil => exact .slnil
  | append_singleton values value ih =>
    rw [foldl_append, foldl_cons, foldl_nil, keepPerGroup]
    split
    · exact ih.append (.refl _)
    · exact ih.trans (sublist_append_left _ _)

section Sorted

variable [Ord κ] {key : α → κ} {values : List α}

def Ascending (key : α → κ) (values : List α) : Prop :=
  values.Pairwise fun a b => (compare (key a) (key b)).isLE = true

def Increasing (key : α → κ) (values : List α) : Prop := values.Pairwise fun a b => compare (key a) (key b) = .lt

theorem Increasing.ascending (h : Increasing key values) : Ascending key values :=
  h.imp fun hlt => by rw [hlt]; rfl

theorem sortByKey_perm (values : List α) (key : α → κ) : (sortByKey values key).Perm values :=
  perm_insertionSort _ _

theorem Ascending.fst {ν : Type} [Ord ν] {pair : α → κ × ν} (h : Ascending pair values) :
    Ascending (fun a => (pair a).1) values := by
  refine h.imp fun {a b} hle => ?_
  have hlex : compare (pair a) (pair b) = (compare (pair a).1 (pair b).1).then (compare (pair a).2 (pair b).2) := rfl
  rw [hlex] at hle
  cases hfirst : compare (pair a).1 (pair b).1 with
  | lt | eq => rfl
  | gt =>
    rw [hfirst] at hle
    cases hle

variable [TransOrd κ]

theorem Increasing.nodup (h : Increasing key values) : values.Nodup :=
  (nodup_of_sortedByKey (sortedByKey_iff_pairwise.mpr h)).of_map key

theorem Increasing.sublist_of_subset {xs ys : List α} (hx : Increasing key xs) (hy : Increasing key ys) (h : xs ⊆ ys) :
    xs.Sublist ys := by
  have hanti : Std.Antisymm fun a b : α => compare (key a) (key b) = .lt :=
    ⟨fun a b hab hba => by
      have hself := TransCmp.lt_trans hab hba
      rw [ReflOrd.compare_self] at hself
      cases hself⟩
  exact sublist_of_subperm_of_pairwise (hx.nodup.subperm h) hx hy

theorem Increasing.eq_of_mem {xs ys : List α} (hx : Increasing key xs) (hy : Increasing key ys) (h : ∀ a, a ∈ xs ↔ a ∈ ys) :
    xs = ys :=
  (hx.sublist_of_subset hy fun a => (h a).mp).antisymm (hy.sublist_of_subset hx fun a => (h a).mpr)

theorem sortByKey_ascending (values : List α) (key : α → κ) : Ascending key (sortByKey values key) := by
  have htotal : Std.Total fun a b : α => (compare (key a) (key b)).isLE = true := by
    refine ⟨fun a b => ?_⟩
    have hswap : compare (key b) (key a) = (compare (key a) (key b)).swap := OrientedOrd.eq_swap
    rw [hswap]
    cases compare (key a) (key b) <;> simp
  have htrans : IsTrans α fun a b : α => (compare (key a) (key b)).isLE = true :=
    ⟨fun _ _ _ => TransCmp.isLE_trans⟩
  exact pairwise_insertionSort _ values

variable [LawfulEqOrd κ]

theorem collapse_increasing {same : α → α → Bool} (hsame : ∀ a b, same a b = true ↔ key a = key b)
    (hsorted : Ascending key values) : Increasing key (collapse same values) := by
  induction values with
  | nil => exact .nil
  | cons value values ih =>
    obtain ⟨hfirst, hrest⟩ := pairwise_cons.mp hsorted
    have hstrict := ih hrest
    rcases collapse_cons same value values with ⟨hnew, h⟩ | ⟨next, tail, htail, heq, h⟩
    · rw [h]
      refine pairwise_cons.mpr ⟨?_, hstrict⟩
      cases hcollapse : collapse same values with
      | nil => simp
      | cons next tail =>
        rw [hcollapse] at hnew hstrict
        -- The next key is not smaller and not equal; the others are larger still.
        have hle := hfirst next ((collapse_sublist same values).subset (by simp [hcollapse]))
        have hne : ¬ key value = key next := fun heq => by
          have hfalse := hnew next rfl
          rw [(hsame value next).mpr heq] at hfalse
          cases hfalse
        have hlt : compare (key value) (key next) = .lt := by
          cases hcompare : compare (key value) (key next) with
          | lt => rfl
          | eq => exact absurd (LawfulEqOrd.eq_of_compare hcompare) hne
          | gt =>
            rw [hcompare] at hle
            cases hle
        intro b hb
        rcases mem_cons.mp hb with rfl | hb
        · exact hlt
        · exact TransCmp.lt_trans hlt ((pairwise_cons.mp hstrict).1 b hb)
    · rw [h]
      rw [htail] at hstrict
      obtain ⟨hnext, htail⟩ := pairwise_cons.mp hstrict
      refine pairwise_cons.mpr ⟨fun b hb => ?_, htail⟩
      rw [(hsame _ _).mp heq]
      exact hnext b hb

variable [DecidableEq κ]

theorem takeWhile_reverse_eq_filter {group : κ} (hsorted : Ascending key values)
    (hlast : ∀ a ∈ values, (compare (key a) group).isLE = true) :
    (values.reverse.takeWhile fun a => key a == group).length = (values.filter fun a => key a == group).length := by
  induction values using reverseRecOn with
  | nil => rfl
  | append_singleton values value ih =>
    obtain ⟨hvalues, -, hle⟩ := pairwise_append.mp hsorted
    by_cases hvalue : key value = group
    · have hih := ih hvalues fun a ha => hlast a (mem_append_left _ ha)
      simp only [reverse_append, reverse_singleton, singleton_append, filter_append,
        takeWhile_cons, hvalue, beq_self_eq_true, if_true, length_cons, length_append, hih,
        filter_cons, filter_nil, length_nil]
    · -- No value before this one can be of the group either.
      have hnone : ∀ a ∈ values, ¬ key a = group := by
        intro a ha heq
        have hup := hle a ha value (by simp)
        have hdown := hlast value (by simp)
        rw [heq] at hup
        exact hvalue (LawfulEqOrd.eq_of_compare (OrientedCmp.isLE_antisymm hdown hup))
      have hempty : values.filter (fun a => key a == group) = [] :=
        filter_eq_nil_iff.mpr fun a ha => by simpa using hnone a ha
      simp [filter_append, hempty, hvalue]

-- Of every group the first values are kept, up to the limit.
theorem filter_keepPerGroup (limit : Nat) (hsorted : Ascending key values) (group : κ) :
    (values.foldl (keepPerGroup limit key) []).filter (fun a => key a == group) =
      (values.filter fun a => key a == group).take limit := by
  induction values using reverseRecOn with
  | nil => simp
  | append_singleton values value ih =>
    obtain ⟨hvalues, -, hle⟩ := pairwise_append.mp hsorted
    have hih := ih hvalues
    have hroom : ((values.foldl (keepPerGroup limit key) []).reverse.takeWhile
        fun prior => key prior == key value).length =
          ((values.foldl (keepPerGroup limit key) []).filter fun prior => key prior == key value).length := by
      have hsub := keepPerGroup_sublist limit key values
      exact takeWhile_reverse_eq_filter (hvalues.sublist hsub) fun a ha => hle a (hsub.subset ha) value (by simp)
    rw [foldl_append, foldl_cons, foldl_nil, keepPerGroup, hroom]
    by_cases hgroup : key value = group
    · subst hgroup
      have hsplit : (values ++ [value]).filter (fun a => key a == key value) =
          values.filter (fun a => key a == key value) ++ [value] := by simp
      rw [hih, hsplit, length_take]
      by_cases hfull : min limit (values.filter fun a => key a == key value).length < limit
      · have hshort : (values.filter fun a => key a == key value).length < limit := by omega
        rw [if_pos hfull, filter_append, hih, take_of_length_le hshort.le,
          take_of_length_le (by simpa using hshort)]
        simp
      · have hlong : limit ≤ (values.filter fun a => key a == key value).length := by omega
        rw [if_neg hfull, hih, take_append_of_le_length hlong]
    · have hother : ∀ kept : List α, (kept ++ [value]).filter (fun a => key a == group) =
          kept.filter fun a => key a == group := fun kept => by simp [hgroup]
      rw [hother, ← hih]
      split
      · exact hother _
      · rfl

end Sorted

section Take

variable {xs ys : List α} {a : α}

theorem mem_take_of_sublist (hsub : xs.Sublist ys) (hnodup : ys.Nodup) (ha : a ∈ xs) (htake : a ∈ ys.take limit) :
    a ∈ xs.take limit := by
  induction hsub generalizing limit with
  | slnil => cases ha
  | cons y hsub ih =>
    obtain ⟨hnew, hnodup⟩ := nodup_cons.mp hnodup
    cases limit with
    | zero => cases htake
    | succ limit =>
      rcases mem_cons.mp htake with rfl | htake
      · exact absurd (hsub.subset ha) hnew
      · exact (take_subset_take_left _ (Nat.le_succ limit)) (ih hnodup ha htake)
  | cons_cons y hsub ih =>
    cases limit with
    | zero => cases htake
    | succ limit =>
      rcases mem_cons.mp ha with rfl | ha
      · exact mem_cons_self
      · rcases mem_cons.mp htake with rfl | htake
        · exact mem_cons_self
        · exact mem_cons_of_mem _ (ih (nodup_cons.mp hnodup).2 ha htake)

theorem take_of_sublist (hsub : xs.Sublist ys) (hnodup : ys.Nodup) (h : ∀ a ∈ ys.take limit, a ∈ xs) :
    xs.take limit = ys.take limit := by
  induction hsub generalizing limit with
  | slnil => rfl
  | cons y hsub ih =>
    cases limit with
    | zero => rfl
    | succ limit => exact absurd (hsub.subset (h y mem_cons_self)) (nodup_cons.mp hnodup).1
  | cons_cons y hsub ih =>
    cases limit with
    | zero => rfl
    | succ limit =>
      obtain ⟨hnew, hnodup⟩ := nodup_cons.mp hnodup
      refine congrArg (y :: ·) (ih hnodup fun a ha => ?_)
      rcases mem_cons.mp (h a (mem_cons_of_mem _ ha)) with rfl | hmem
      · exact absurd (mem_of_mem_take ha) hnew
      · exact hmem

end Take

section Keep

variable {ν : Type} [Ord κ] [TransOrd κ] [LawfulEqOrd κ] [DecidableEq κ] [Ord ν] {key : α → κ × ν} {limit : Nat}

def keepFirst (limit : Nat) (key : α → κ × ν) (values : List α) : List α :=
  values.foldl (keepPerGroup limit fun a => (key a).1) []

variable {xs ys : List α}

-- What a first pass has dropped makes no difference to a second one.
theorem keep_absorbs [TransOrd ν] {P : α → Prop} (hxs : Increasing key xs) (hys : Increasing key ys) (hkept : Increasing key zs)
    (hmem : ∀ a, a ∈ ys ↔ a ∈ xs ∨ P a) (hmem' : ∀ a, a ∈ zs ↔ a ∈ keepFirst limit key xs ∨ P a) :
    keepFirst limit key zs = keepFirst limit key ys := by
  have hsub : ∀ values : List α, (keepFirst limit key values).Sublist values := keepPerGroup_sublist limit _
  have hfilter : ∀ {values}, Increasing key values → ∀ group : κ,
      (keepFirst limit key values).filter (fun a => (key a).1 == group) =
        (values.filter fun a => (key a).1 == group).take limit :=
    fun h group => filter_keepPerGroup limit h.ascending.fst group
  have hall : zs.Sublist ys := hkept.sublist_of_subset hys fun a ha => by
    rw [hmem]
    exact ((hmem' a).mp ha).imp_left fun hold => (hsub xs).subset hold
  have hold : xs.Sublist ys := hxs.sublist_of_subset hys fun a ha => (hmem a).mpr (.inl ha)
  have hgroups : ∀ group : κ, (zs.filter fun a => (key a).1 == group).take limit =
      (ys.filter fun a => (key a).1 == group).take limit := by
    intro group
    refine take_of_sublist (hall.filter _) (hys.nodup.filter _) fun a ha => ?_
    obtain ⟨hays, hgroup⟩ := mem_filter.mp (mem_of_mem_take ha)
    refine mem_filter.mpr ⟨(hmem' a).mpr (((hmem a).mp hays).imp_left fun hax => ?_), hgroup⟩
    have htake := mem_take_of_sublist (hold.filter _) (hys.nodup.filter _) (mem_filter.mpr ⟨hax, hgroup⟩) ha
    rw [← hfilter hxs] at htake
    exact (mem_filter.mp htake).1
  refine Increasing.eq_of_mem (hkept.sublist (hsub zs)) (hys.sublist (hsub ys)) fun a => ?_
  have hown := (hfilter hkept (key a).1).trans ((hgroups _).trans (hfilter hys _).symm)
  have hin : ∀ values : List α, a ∈ values ↔ a ∈ values.filter fun b => (key b).1 == (key a).1 := by simp
  rw [hin (keepFirst limit key zs), hown, ← hin]

theorem length_keepFirst (h : Increasing key xs) (groups : Finset κ) (hgroups : ∀ a ∈ xs, (key a).1 ∈ groups) :
    (keepFirst limit key xs).length = ∑ group ∈ groups, min limit (xs.filter fun a => (key a).1 == group).length := by
  have hsum : ∀ values : List α, (∀ a ∈ values, (key a).1 ∈ groups) →
      values.length = ∑ group ∈ groups, (values.filter fun a => (key a).1 == group).length := by
    intro values
    induction values with
    | nil => simp
    | cons a values ih =>
      intro hvalues
      obtain ⟨ha, hvalues⟩ := forall_mem_cons.mp hvalues
      have hone : ∀ group, ((a :: values).filter fun a => (key a).1 == group).length =
          (if (key a).1 = group then 1 else 0) + (values.filter fun a => (key a).1 == group).length := by
        intro group
        rw [filter_cons]
        by_cases hgroup : (key a).1 = group
        · simp [hgroup, Nat.add_comm]
        · simp [hgroup]
      simp only [hone, Finset.sum_add_distrib, Finset.sum_ite_eq, ha, if_true, ← ih hvalues, length_cons,
        Nat.add_comm]
  have hsub : (keepFirst limit key xs).Sublist xs := keepPerGroup_sublist limit _ xs
  rw [hsum _ fun a ha => hgroups a (hsub.subset ha)]
  refine Finset.sum_congr rfl fun group _ => ?_
  rw [keepFirst, filter_keepPerGroup limit h.ascending.fst, length_take]

end Keep
theorem sortByKey_id_eq_iff {α : Type} [Ord α] [TransOrd α] [LawfulEqOrd α] {xs ys : List α} :
    sortByKey xs id = sortByKey ys id ↔ xs.Perm ys := by
  constructor
  · intro h
    exact (sortByKey_perm xs id).symm.trans (h ▸ sortByKey_perm ys id)
  · intro h
    have hperm := (sortByKey_perm xs id).trans (h.trans (sortByKey_perm ys id).symm)
    refine hperm.eq_of_pairwise (fun _ _ _ _ hle hge => ?_) (sortByKey_ascending xs id) (sortByKey_ascending ys id)
    exact LawfulEqOrd.eq_of_compare (OrientedCmp.isLE_antisymm hle hge)

section Bijection

variable {α β γ : Type} {f : α → γ} {g : β → γ} {xs : List α} {ys : List β}

open Classical in
theorem fiber_equiv (hxs : xs.Nodup) (f : α → γ) (value : γ) :
    Nonempty ({x : {x // x ∈ xs} // f x = value} ≃ Fin ((xs.map f).count value)) := by
  have hcount : (xs.filter (f · = value)).length = (xs.map f).count value := by
    rw [count_eq_countP, countP_map, countP_eq_length_filter]
    rfl
  have hfiber := (Equiv.subtypeSubtypeEquivSubtypeInter (· ∈ xs) (f · = value)).trans
    (Equiv.subtypeEquivRight fun x => (by simp : x ∈ xs ∧ f x = value ↔ x ∈ xs.filter (f · = value)))
  rw [← hcount]
  exact ⟨hfiber.trans (List.Nodup.getEquiv _ (hxs.filter _)).symm⟩

-- Two lists show the same values exactly if their members correspond one to one and each to one of its own value.
theorem map_perm_map_iff (hxs : xs.Nodup) (hys : ys.Nodup) :
    (xs.map f).Perm (ys.map g) ↔ ∃ e : {x // x ∈ xs} ≃ {y // y ∈ ys}, ∀ x, g (e x) = f x := by
  classical
  constructor
  · intro h
    have hfiber : ∀ value, Nonempty ({x : {x // x ∈ xs} // f x = value} ≃ {y : {y // y ∈ ys} // g y = value}) := by
      intro value
      obtain ⟨first⟩ := fiber_equiv hxs f value
      obtain ⟨second⟩ := fiber_equiv hys g value
      exact ⟨first.trans ((finCongr (h.count_eq value)).trans second.symm)⟩
    let e := fun value => (hfiber value).some
    exact ⟨Equiv.ofFiberEquiv e, Equiv.ofFiberEquiv_map e⟩
  · rintro ⟨e, he⟩
    have hmoved : ys.Perm (xs.attach.map fun x => (e x).1) := by
      refine (perm_ext_iff_of_nodup hys ?_).mpr fun y => ?_
      · exact (nodup_attach.mpr hxs).map (Subtype.val_injective.comp e.injective)
      · simp only [mem_map, mem_attach, true_and]
        exact ⟨fun hy => ⟨e.symm ⟨y, hy⟩, by simp⟩, fun ⟨x, hx⟩ => hx ▸ (e x).2⟩
    refine List.Perm.trans (List.Perm.of_eq ?_) (hmoved.map g).symm
    simp [Function.comp_def, he]

end Bijection
end Jury.Lib
