import Jury.Lib.Group
import Jury.Lib.Outcome
import Jury.Protocol.Identifiers

-- The public scopes of a vault before and after a governed rollover. Whoever compares them sees no concealed value,
-- only under which field every rule and label is used.
namespace Jury.Rollover

open Lib Protocol Std

-- The encodings of what stands beside a use are taken as given.
class ScopeJson where
  encodeItem : Option ItemId × Bytes → Option Bytes
  encodeField : Option FieldId × Bytes → Option Bytes

abbrev FieldKey := ItemId × FieldId

structure PublicScopes where
  fields : BTreeMap FieldKey (List Bytes)
  other : List Bytes

inductive RolloverError where
  | invalid
deriving DecidableEq

namespace PublicScopes

def empty : PublicScopes := { fields := ∅, other := [] }

section Adding

variable [ScopeJson]

def add (scopes : PublicScopes) (item : Option ItemId) (field : Option FieldId) (token : Bytes) :
    Except RolloverError PublicScopes :=
  match field with
  | some field => do
    let item ← orReject item .invalid
    return { scopes with
      fields := scopes.fields.insert (item, field) ((scopes.fields[(item, field)]?).getD [] ++ [token]) }
  | none => do
    let encoded ← orReject (ScopeJson.encodeItem (item, token)) .invalid
    return { scopes with other := scopes.other ++ [encoded] }

def addWithInactive (scopes : PublicScopes) (item : Option ItemId) (field : Option FieldId) (token : Bytes)
    (inactive : BTreeSet ItemId) : Except RolloverError PublicScopes :=
  if item.any (inactive.contains ·) then do
    let encoded ← orReject (ScopeJson.encodeField (field, token)) .invalid
    scopes.add item none encoded
  else scopes.add item field token

end Adding

def pattern (entry : FieldKey × List Bytes) : ItemId × List Bytes := (entry.1.1, sortByKey entry.2 id)

def canonicalPatterns (scopes : PublicScopes) : List (ItemId × List Bytes) :=
  sortByKey (scopes.fields.toList.map pattern) id

end PublicScopes

open PublicScopes

def scopesPreserved (prior next : PublicScopes) : Bool :=
  if prior.fields.keys.any (next.fields.contains ·) then false
  else sortByKey prior.other id == sortByKey next.other id && prior.canonicalPatterns == next.canonicalPatterns

def Fresh (prior next : PublicScopes) : Prop := ∀ key ∈ prior.fields, key ∉ next.fields

-- The fields correspond one to one, each to a field of its own item with the same uses.
structure SameScopes (prior next : PublicScopes) : Prop where
  fields : ∃ rename : {key // key ∈ prior.fields} ≃ {key // key ∈ next.fields}, ∀ key,
    (rename key).1.1 = key.1.1 ∧ (prior.fields[key.1]?.getD []).Perm (next.fields[(rename key).1]?.getD [])
  other : prior.other.Perm next.other

variable {prior next changed : PublicScopes} {map : BTreeMap FieldKey (List Bytes)} {key : FieldKey}

theorem pattern_eq_iff {a b : FieldKey × List Bytes} : pattern a = pattern b ↔ a.1.1 = b.1.1 ∧ a.2.Perm b.2 := by
  rw [pattern, pattern, Prod.mk.injEq, sortByKey_id_eq_iff]

theorem toList_nodup : map.toList.Nodup := by
  have hkeys : (map.toList.map (·.1)).Nodup := by
    rw [ExtTreeMap.map_fst_toList_eq_keys]
    exact ExtTreeMap.nodup_keys
  exact hkeys.of_map

theorem getElem?_of_mem (h : key ∈ map) : map[key]? = some (map[key]?.getD []) := by
  obtain ⟨uses, huses⟩ := mem_iff_getElem?.mp h
  rw [huses, Option.getD_some]

-- An entry of a map and its key determine each other.
def entryOf (map : BTreeMap FieldKey (List Bytes)) : {key // key ∈ map} ≃ {entry // entry ∈ map.toList} where
  toFun key := ⟨(key.1, map[key.1]?.getD []),
    Std.ExtTreeMap.mem_toList_iff_getElem?_eq_some.mpr (getElem?_of_mem key.2)⟩
  invFun entry := ⟨entry.1.1, mem_of_getElem? (Std.ExtTreeMap.mem_toList_iff_getElem?_eq_some.mp entry.2)⟩
  left_inv _ := rfl
  right_inv entry := by
    refine Subtype.ext (Prod.ext rfl ?_)
    simp only [Std.ExtTreeMap.mem_toList_iff_getElem?_eq_some.mp entry.2, Option.getD_some]

theorem sameFields_iff : (∃ rename : {key // key ∈ prior.fields} ≃ {key // key ∈ next.fields}, ∀ key,
      (rename key).1.1 = key.1.1 ∧ (prior.fields[key.1]?.getD []).Perm (next.fields[(rename key).1]?.getD [])) ↔
    (prior.fields.toList.map pattern).Perm (next.fields.toList.map pattern) := by
  rw [map_perm_map_iff toList_nodup toList_nodup]
  have hpattern : ∀ rename : {key // key ∈ prior.fields} ≃ {key // key ∈ next.fields}, ∀ key,
      ((rename key).1.1 = key.1.1 ∧ (prior.fields[key.1]?.getD []).Perm (next.fields[(rename key).1]?.getD [])) ↔
      pattern (entryOf next.fields (rename key)).1 = pattern (entryOf prior.fields key).1 := by
    intro rename key
    rw [pattern_eq_iff, List.perm_comm]
    rfl
  constructor
  · rintro ⟨rename, hrename⟩
    refine ⟨(entryOf _).symm.trans (rename.trans (entryOf _)), fun entry => ?_⟩
    have hsame := (hpattern rename ((entryOf _).symm entry)).mp (hrename _)
    rwa [Equiv.apply_symm_apply] at hsame
  · rintro ⟨rename, hrename⟩
    refine ⟨(entryOf _).trans (rename.trans (entryOf _).symm), fun key => (hpattern _ key).mpr ?_⟩
    simpa using hrename (entryOf _ key)

theorem sameScopes_iff : SameScopes prior next ↔
    (prior.fields.toList.map pattern).Perm (next.fields.toList.map pattern) ∧ prior.other.Perm next.other := by
  rw [← sameFields_iff]
  exact ⟨fun h => ⟨h.fields, h.other⟩, fun h => ⟨h.1, h.2⟩⟩

theorem scopesPreserved_eq_true : scopesPreserved prior next = true ↔ Fresh prior next ∧ SameScopes prior next := by
  have hshared : prior.fields.keys.any (next.fields.contains ·) = false ↔ Fresh prior next := by
    simp [Fresh, ExtTreeMap.mem_keys]
  unfold scopesPreserved
  rw [sameScopes_iff, ← hshared]
  cases prior.fields.keys.any (next.fields.contains ·) with
  | true => simp
  | false => simp [canonicalPatterns, sortByKey_id_eq_iff, and_comm]

theorem SameScopes.trans_iff (h : SameScopes changed next) : SameScopes prior next ↔ SameScopes prior changed := by
  rw [sameScopes_iff] at h ⊢
  rw [sameScopes_iff, h.1.congr_right, h.2.congr_right]

theorem SameScopes.size (h : SameScopes prior next) : prior.fields.size = next.fields.size := by
  simpa using (sameScopes_iff.mp h).1.length_eq

def useCount (map : BTreeMap FieldKey (List Bytes)) : Nat := ((map.toList.map pattern).map (·.2.length)).sum

theorem SameScopes.useCount (h : SameScopes prior next) : useCount prior.fields = useCount next.fields :=
  ((sameScopes_iff.mp h).1.map _).sum_eq

theorem patterns_erase (h : map[key]? = some uses) :
    (map.toList.map pattern).Perm (pattern (key, uses) :: (map.erase key).toList.map pattern) := by
  have hentries : map.toList.Perm ((key, uses) :: (map.erase key).toList) := by
    refine (List.perm_ext_iff_of_nodup toList_nodup (toList_nodup.cons ?_)).mpr fun entry => ?_
    · simp [ExtTreeMap.mem_toList_iff_getElem?_eq_some]
    · obtain ⟨other, value⟩ := entry
      simp only [List.mem_cons, ExtTreeMap.mem_toList_iff_getElem?_eq_some, ExtTreeMap.getElem?_erase,
        Prod.mk.injEq]
      by_cases heq : other = key
      · subst heq
        simp [h, eq_comm]
      · simp [heq, Ne.symm heq]
  exact hentries.map pattern

theorem patterns_insert : ((map.insert key uses).toList.map pattern).Perm
    (pattern (key, uses) :: (map.erase key).toList.map pattern) := by
  have herased : (map.insert key uses).erase key = map.erase key := by
    ext other value
    by_cases heq : key = other <;> simp [ExtTreeMap.getElem?_erase, ExtTreeMap.getElem?_insert, heq]
  rw [← herased]
  exact patterns_erase ExtTreeMap.getElem?_insert_self

-- What takes authority from a field, gives it some or makes two fields of one.
inductive Change (prior : PublicScopes) : PublicScopes → Prop where
  | merge {first second : FieldKey} {uses more : List Bytes} (hne : first ≠ second)
      (hfirst : prior.fields[first]? = some uses) (hsecond : prior.fields[second]? = some more) :
      Change prior { prior with fields := (prior.fields.erase second).insert first (uses ++ more) }
  | split {first second : FieldKey} {uses some more : List Bytes} (hfirst : prior.fields[first]? = .some uses)
      (hparts : uses.Perm (some ++ more)) (hsecond : second ∉ prior.fields) :
      Change prior { prior with fields := (prior.fields.insert first some).insert second more }
  | drop {key : FieldKey} {uses rest : List Bytes} (hkey : prior.fields[key]? = some uses)
      (huse : uses.Perm (use :: rest)) : Change prior { prior with fields := prior.fields.insert key rest }
  | dropField {key : FieldKey} (hkey : key ∈ prior.fields) :
      Change prior { prior with fields := prior.fields.erase key }
  | dropOther {rest : List Bytes} (huse : prior.other.Perm (use :: rest)) : Change prior { prior with other := rest }

theorem Change.not_sameScopes (h : Change prior changed) : ¬ SameScopes prior changed := by
  intro hsame
  cases h with
  | merge hne hfirst hsecond =>
    have hsize := hsame.size
    have hpos := (patterns_erase hsecond).length_eq
    simp [ExtTreeMap.size_insert, ExtTreeMap.size_erase, mem_of_getElem? hfirst, mem_of_getElem? hsecond,
      Ne.symm hne] at hsize hpos
    omega
  | @split first second _ _ _ hfirst hparts hsecond =>
    have hsize := hsame.size
    have hne : first ≠ second := fun heq => hsecond (heq ▸ mem_of_getElem? hfirst)
    simp [ExtTreeMap.size_insert, mem_of_getElem? hfirst, hsecond, hne] at hsize
  | drop hkey huse =>
    have hcount := hsame.useCount
    rw [useCount, useCount, ((patterns_erase hkey).map _).sum_eq, (patterns_insert.map _).sum_eq] at hcount
    have hlen := huse.length_eq
    simp [pattern, (sortByKey_perm _ id).length_eq] at hcount hlen
    omega
  | dropField hkey =>
    have hsize := hsame.size
    have hpos := (patterns_erase (getElem?_of_mem hkey)).length_eq
    simp [ExtTreeMap.size_erase, hkey] at hsize hpos
    omega
  | dropOther huse =>
    have hlen := huse.length_eq.symm.trans hsame.other.length_eq
    simp at hlen

def moved (scopes : PublicScopes) (donor target : FieldKey) (rest uses : List Bytes) : PublicScopes :=
  { scopes with fields := (scopes.fields.insert donor rest).insert target uses }

theorem cons_cons_perm_iff {α : Type} {a b c d : α} {rest : List α} :
    (a :: b :: rest).Perm (c :: d :: rest) ↔ a = c ∧ b = d ∨ a = d ∧ b = c := by
  rw [show a :: b :: rest = [a, b] ++ rest from rfl, show c :: d :: rest = [c, d] ++ rest from rfl,
    List.perm_append_right_iff]
  constructor
  · intro h
    have hmem : a = c ∨ a = d := by simpa using h.subset List.mem_cons_self
    rcases hmem with rfl | rfl
    · exact .inl ⟨rfl, by simpa using (List.perm_cons a).mp h⟩
    · exact .inr ⟨rfl, by simpa using (List.perm_cons a).mp (h.trans (List.Perm.swap a c []))⟩
  · rintro (⟨rfl, rfl⟩ | ⟨rfl, rfl⟩)
    · exact List.Perm.refl _
    · exact List.Perm.swap b a []

theorem sameScopes_moved_iff {donor target : FieldKey} {uses rest own : List Bytes} (hne : donor ≠ target)
    (hdonor : prior.fields[donor]? = some uses) (huse : uses.Perm (use :: rest))
    (htarget : prior.fields[target]? = some own) :
    SameScopes prior (moved prior donor target rest (use :: own)) ↔ donor.1 = target.1 ∧ rest.Perm own := by
  -- Both collections are the two fields and what stands beside them.
  have herased : ((prior.fields.insert donor rest).erase target) = (prior.fields.erase target).insert donor rest := by
    ext key value
    by_cases heq : target = key <;> by_cases heq' : donor = key <;>
      simp [ExtTreeMap.getElem?_erase, ExtTreeMap.getElem?_insert, heq, heq']
    exact absurd (heq'.trans heq.symm) hne
  have hkept : (prior.fields.erase target)[donor]? = some uses := by
    simp [ExtTreeMap.getElem?_erase, Ne.symm hne, hdonor]
  have hbefore := (patterns_erase htarget).trans ((patterns_erase hkept).cons _)
  have hrest : (((prior.fields.erase target).insert donor rest).toList.map pattern).Perm _ := patterns_insert
  rw [← herased] at hrest
  have hafter := patterns_insert.trans (hrest.cons (pattern (target, use :: own)))
  rw [sameScopes_iff, moved, hbefore.congr_left, hafter.congr_right]
  simp only [List.Perm.refl, and_true]
  have hother : ¬ uses.Perm rest := fun h => by
    have hlen := h.symm.length_eq.trans huse.length_eq
    simp at hlen
  rw [cons_cons_perm_iff, pattern_eq_iff, pattern_eq_iff, pattern_eq_iff, pattern_eq_iff]
  simp only [hother, and_false, false_or]
  constructor
  · rintro ⟨⟨hitem, hperm⟩, -⟩
    exact ⟨hitem.symm, hperm.symm⟩
  · rintro ⟨hitem, hperm⟩
    exact ⟨⟨hitem.symm, hperm.symm⟩, hitem, huse.trans (hperm.cons use)⟩

theorem scopesPreserved_exact (prior next : PublicScopes) :
    (scopesPreserved prior next = true ↔ Fresh prior next ∧ SameScopes prior next) ∧
    (∀ changed, Change prior changed → SameScopes changed next → scopesPreserved prior next = false) ∧
    ∀ donor target uses use rest own, donor ≠ target → prior.fields[donor]? = some uses → uses.Perm (use :: rest) →
      prior.fields[target]? = some own → SameScopes (moved prior donor target rest (use :: own)) next →
      (scopesPreserved prior next = true ↔ Fresh prior next ∧ donor.1 = target.1 ∧ rest.Perm own) := by
  refine ⟨scopesPreserved_eq_true, fun changed hchange hnext => ?_, ?_⟩
  · rw [Bool.eq_false_iff, Ne, scopesPreserved_eq_true, hnext.trans_iff]
    exact fun h => hchange.not_sameScopes h.2
  · intro donor target uses use rest own hne hdonor huse htarget hnext
    rw [scopesPreserved_eq_true, hnext.trans_iff, sameScopes_moved_iff hne hdonor huse htarget]

end Jury.Rollover

namespace Jury.Rollover.Sample

open Lib Protocol.Sample

instance : ScopeJson where
  encodeItem entry := some entry.2
  encodeField entry := some entry.2

def fieldKey (n : UInt8) : FieldKey := (identifier .item 1, identifier .field n)

def collect (entries : List (UInt8 × Bytes)) : PublicScopes :=
  let added := entries.foldlM (fun scopes entry =>
    scopes.addWithInactive (some (fieldKey entry.1).1) (some (fieldKey entry.1).2) entry.2 ∅) PublicScopes.empty
  added.toOption.getD .empty

def ruleA : Bytes := octets [1]

def ruleB : Bytes := octets [2]

def before : PublicScopes := collect [(2, ruleA), (2, ruleB), (3, ruleB)]

def after : PublicScopes := collect [(4, ruleB), (5, ruleA), (5, ruleB)]

theorem merged_fields_rejected : scopesPreserved before (collect [(4, ruleB), (4, ruleA), (4, ruleB)]) = false := by
  have hfirst : before.fields[fieldKey 2]? = some [ruleA, ruleB] := by decide +kernel
  have hsecond : before.fields[fieldKey 3]? = some [ruleB] := by decide +kernel
  exact (scopesPreserved_exact _ _).2.1 _ (.merge (by decide +kernel) hfirst hsecond)
    (sameScopes_iff.mpr (by decide +kernel))

-- The rule goes from the field with both to the other one, as if the two had been renamed to each other.
theorem moved_use_accepted : before.fields[fieldKey 2]? = some [ruleA, ruleB] ∧
    before.fields[fieldKey 3]? = some [ruleB] ∧
    SameScopes (moved before (fieldKey 2) (fieldKey 3) [ruleB] [ruleA, ruleB]) after ∧
    scopesPreserved before after = true :=
  ⟨by decide +kernel, by decide +kernel, sameScopes_iff.mpr (by decide +kernel), by decide +kernel⟩

end Jury.Rollover.Sample
