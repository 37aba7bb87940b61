import Jury.Lib.Order
import Jury.Lib.Outcome

-- Byte strings and the codes built from them. A string is kept as its length and the number that its
-- bytes spell, so that long strings stay cheap to evaluate. A code here is a prefix code: what it
-- writes can be taken off the front of any longer string in one way only. Every lemma of the form
-- `enc a ++ r = enc b ++ s ↔ a = b ∧ r = s` is a simp lemma, so that the injectivity of a record's
-- encoding is one call to `simp` on the record's own definition.
namespace Jury.Lib

variable {α β : Type} {r s out : Bytes} {length m n size : Nat} {values : List Bytes} {f : α → Option β}
  {encode : α → Bytes}

structure Bytes where
  length : Nat
  value : Nat
  value_lt : value < 256 ^ length
deriving DecidableEq

namespace Bytes

def empty : Bytes := ⟨0, 0, by decide⟩

instance : Inhabited Bytes := ⟨empty⟩

instance : EmptyCollection Bytes := ⟨empty⟩

protected def append (a b : Bytes) : Bytes :=
  ⟨a.length + b.length, a.value * 256 ^ b.length + b.value, by
    have ha := Nat.mul_le_mul_right (256 ^ b.length) a.value_lt
    have hb := b.value_lt
    rw [Nat.succ_mul, ← pow_add] at ha
    omega⟩

instance : Append Bytes := ⟨Bytes.append⟩

@[ext] theorem ext {a b : Bytes} (hlen : a.length = b.length) (hvalue : a.value = b.value) : a = b := by
  cases a
  cases b
  simp_all

@[simp] theorem length_empty : (∅ : Bytes).length = 0 := rfl

@[simp] theorem length_append (a b : Bytes) : (a ++ b).length = a.length + b.length := rfl

theorem value_append (a b : Bytes) : (a ++ b).value = a.value * 256 ^ b.length + b.value := rfl

@[simp] theorem empty_append (a : Bytes) : ∅ ++ a = a := by
  ext
  · simp
  · rw [value_append, show (∅ : Bytes).value = 0 from rfl]
    omega

theorem append_assoc (a b c : Bytes) : a ++ b ++ c = a ++ (b ++ c) := by
  ext
  · simp only [length_append]
    omega
  · simp only [value_append, length_append, pow_add]
    ring

-- Strings of equal length in front of two equal strings are equal, and so is what follows them.
theorem append_inj {a b : Bytes} (h : a ++ r = b ++ s) (hlen : a.length = b.length) : a = b ∧ r = s := by
  have hlengths := congrArg length h
  have hvalues := congrArg value h
  simp only [length_append, hlen, Nat.add_left_cancel_iff] at hlengths
  rw [value_append, value_append, ← hlengths] at hvalues
  have hr := r.value_lt
  have hs : s.value < 256 ^ r.length := hlengths ▸ s.value_lt
  have hpos : 0 < 256 ^ r.length := Nat.pow_pos (by decide)
  have hlow : r.value = s.value := by
    have hmod := congrArg (· % 256 ^ r.length) hvalues
    simpa [Nat.mod_eq_of_lt hr, Nat.mod_eq_of_lt hs] using hmod
  have hhigh : a.value = b.value := by
    rw [hlow, Nat.add_right_cancel_iff] at hvalues
    exact Nat.eq_of_mul_eq_mul_right hpos hvalues
  exact ⟨ext hlen hhigh, ext hlengths hlow⟩

theorem append_inj_iff {a b : Bytes} (hlen : a.length = b.length) : a ++ r = b ++ s ↔ a = b ∧ r = s :=
  ⟨fun h => append_inj h hlen, fun ⟨ha, hr⟩ => ha ▸ hr ▸ rfl⟩

def digits : Nat → Nat → List UInt8
  | 0, _ => []
  | length + 1, value => UInt8.ofNat (value / 256 ^ length) :: digits length (value % 256 ^ length)

def toList (bytes : Bytes) : List UInt8 := digits bytes.length bytes.value

theorem length_digits (length value : Nat) : (digits length value).length = length := by
  induction length generalizing value with
  | zero => rfl
  | succ length ih => simp [digits, ih]

theorem digits_inj {a b : Nat} (ha : a < 256 ^ length) (hb : b < 256 ^ length) (h : digits length a = digits length b) :
    a = b := by
  induction length generalizing a b with
  | zero => simp at ha hb; omega
  | succ length ih =>
    obtain ⟨hfirst, hrest⟩ := List.cons.inj h
    have hpos : 0 < 256 ^ length := Nat.pow_pos (by decide)
    have hmod := ih (Nat.mod_lt a hpos) (Nat.mod_lt b hpos) hrest
    have hdiv : a / 256 ^ length = b / 256 ^ length := by
      have hda : a / 256 ^ length < 256 := Nat.div_lt_of_lt_mul (by rwa [pow_succ] at ha)
      have hdb : b / 256 ^ length < 256 := Nat.div_lt_of_lt_mul (by rwa [pow_succ] at hb)
      have heq := congrArg UInt8.toNat hfirst
      simpa [Nat.mod_eq_of_lt hda, Nat.mod_eq_of_lt hdb] using heq
    rw [← Nat.div_add_mod a (256 ^ length), ← Nat.div_add_mod b (256 ^ length), hdiv, hmod]

theorem toList_inj {a b : Bytes} (h : a.toList = b.toList) : a = b := by
  have hlen := congrArg List.length h
  simp only [toList, length_digits] at hlen
  refine ext hlen (digits_inj a.value_lt (hlen ▸ b.value_lt) ?_)
  rw [toList, toList, ← hlen] at h
  exact h

theorem digits_append {x y : Nat} (hy : y < 256 ^ n) (hx : x < 256 ^ m) :
    digits (m + n) (x * 256 ^ n + y) = digits m x ++ digits n y := by
  induction m generalizing x with
  | zero =>
    have hzero : x = 0 := by omega
    rw [hzero, Nat.zero_mul, Nat.zero_add, Nat.zero_add, digits, List.nil_append]
  | succ m ih =>
    have hlow : x % 256 ^ m < 256 ^ m := Nat.mod_lt _ (Nat.pow_pos (by decide))
    have hrest : (x % 256 ^ m) * 256 ^ n + y < 256 ^ (m + n) := by
      have hle := Nat.mul_le_mul_right (256 ^ n) (Nat.succ_le_of_lt hlow)
      rw [Nat.succ_mul] at hle
      rw [pow_add]
      omega
    have hsplit : x * 256 ^ n + y = ((x % 256 ^ m) * 256 ^ n + y) + 256 ^ (m + n) * (x / 256 ^ m) := by
      conv_lhs => rw [← Nat.mod_add_div x (256 ^ m)]
      rw [pow_add]
      ring
    have hpos : 0 < 256 ^ (m + n) := Nat.pow_pos (by decide)
    rw [Nat.add_right_comm, digits, digits, hsplit, Nat.add_mul_div_left _ _ hpos, Nat.div_eq_of_lt hrest, Nat.zero_add,
      Nat.add_mul_mod_self_left, Nat.mod_eq_of_lt hrest, ih hlow, List.cons_append]

theorem toList_append (a b : Bytes) : (a ++ b).toList = a.toList ++ b.toList := digits_append b.value_lt a.value_lt

@[simp] theorem length_toList (a : Bytes) : a.toList.length = a.length := length_digits _ _

theorem toList_append_right {a b : Bytes} (h : a.length ≤ n) : (a ++ b).toList[n]? = b.toList[n - a.length]? := by
  rw [toList_append, List.getElem?_append_right (by simpa using h), length_toList]

instance : Ord Bytes := keyOrd toList

instance : Std.TransOrd Bytes := keyOrd_trans _

instance : Std.LawfulEqOrd Bytes := keyOrd_lawful fun _ _ => toList_inj

end Bytes

def u8 (byte : UInt8) : Bytes := ⟨1, byte.toNat, by simpa using byte.toNat_lt⟩

@[simp] theorem length_u8 (byte : UInt8) : (u8 byte).length = 1 := rfl

@[simp] theorem u8_inj {a b : UInt8} : u8 a = u8 b ↔ a = b :=
  ⟨fun h => UInt8.toNat_inj.mp (congrArg Bytes.value h), fun h => h ▸ rfl⟩

@[simp] theorem u8_append_inj {a b : UInt8} {r s : Bytes} : u8 a ++ r = u8 b ++ s ↔ a = b ∧ r = s := by
  rw [Bytes.append_inj_iff (by rfl), u8_inj]

def octets : List UInt8 → Bytes
  | [] => ∅
  | byte :: rest => u8 byte ++ octets rest

@[simp] theorem length_octets (bytes : List UInt8) : (octets bytes).length = bytes.length := by
  induction bytes with
  | nil => rfl
  | cons byte rest ih => simp [octets, ih, Nat.add_comm]

@[simp] theorem octets_nil_append (r : Bytes) : octets [] ++ r = r := Bytes.empty_append r

@[simp] theorem octets_cons_append (byte : UInt8) (rest : List UInt8) (r : Bytes) :
    octets (byte :: rest) ++ r = u8 byte ++ (octets rest ++ r) := Bytes.append_assoc _ _ _

@[simp] theorem octets_inj {a b : List UInt8} : octets a = octets b ↔ a = b := by
  refine ⟨fun h => ?_, fun h => h ▸ rfl⟩
  induction a generalizing b with
  | nil =>
    have hlen := congrArg Bytes.length h
    simp only [length_octets, List.length_nil] at hlen
    exact (List.length_eq_zero_iff.mp hlen.symm).symm
  | cons byte rest ih =>
    cases b with
    | nil => simpa using congrArg Bytes.length h
    | cons byte' rest' =>
      obtain ⟨rfl, hrest⟩ := u8_append_inj.mp h
      rw [ih hrest]

theorem toList_u8_append (byte : UInt8) (rest : Bytes) : (u8 byte ++ rest).toList = byte :: rest.toList := by
  rw [Bytes.toList_append]
  simp [Bytes.toList, Bytes.digits, u8]

@[simp] theorem toList_octets (bytes : List UInt8) : (octets bytes).toList = bytes := by
  induction bytes with
  | nil => rfl
  | cons byte rest ih => rw [octets, toList_u8_append, ih]

-- A byte string of a length fixed by its type.
structure FixedBytes (n : Nat) where
  bytes : Bytes
  length_eq : bytes.length = n
deriving DecidableEq

namespace FixedBytes

variable {n : Nat}

theorem replicate_lt (n : Nat) (byte : UInt8) : byte.toNat * ((256 ^ n - 1) / 255) < 256 ^ n := by
  have hbyte := byte.toNat_lt
  have hpos : 0 < 256 ^ n := Nat.pow_pos (by decide)
  calc byte.toNat * ((256 ^ n - 1) / 255)
      ≤ 255 * ((256 ^ n - 1) / 255) := Nat.mul_le_mul_right _ (by omega)
    _ ≤ 256 ^ n - 1 := Nat.mul_div_le _ _
    _ < 256 ^ n := by omega

def replicate (n : Nat) (byte : UInt8) : FixedBytes n :=
  ⟨⟨n, byte.toNat * ((256 ^ n - 1) / 255), replicate_lt n byte⟩, rfl⟩

instance : Inhabited (FixedBytes n) := ⟨replicate n 0⟩

variable {a b : FixedBytes n}

@[ext] theorem ext (h : a.bytes = b.bytes) : a = b := by
  cases a
  cases b
  simpa using h

@[simp] theorem length_bytes (a : FixedBytes n) : a.bytes.length = n := a.length_eq

-- Among strings of one length the lexicographic order is the order of the numbers.
instance : Ord (FixedBytes n) := keyOrd fun a => a.bytes.value

instance : Std.TransOrd (FixedBytes n) := keyOrd_trans _

instance : Std.LawfulEqOrd (FixedBytes n) :=
  keyOrd_lawful fun a b h => ext (Bytes.ext (a.length_eq.trans b.length_eq.symm) h)

@[simp] theorem bytes_inj : a.bytes = b.bytes ↔ a = b :=
  ⟨ext, fun h => h ▸ rfl⟩

@[simp] theorem append_inj {r s : Bytes} : a.bytes ++ r = b.bytes ++ s ↔ a = b ∧ r = s := by
  rw [Bytes.append_inj_iff (by simp), bytes_inj]

end FixedBytes

def beBytes (width value : Nat) : Bytes :=
  ⟨width, value % 256 ^ width, Nat.mod_lt _ (Nat.pow_pos (by decide))⟩

@[simp] theorem length_beBytes (width value : Nat) : (beBytes width value).length = width := rfl

theorem beBytes_inj {width a b : Nat} (ha : a < 256 ^ width) (hb : b < 256 ^ width)
    (h : beBytes width a = beBytes width b) : a = b := by
  have hvalue := congrArg Bytes.value h
  simpa [beBytes, Nat.mod_eq_of_lt ha, Nat.mod_eq_of_lt hb] using hvalue

def u16be (value : UInt16) : Bytes := beBytes 2 value.toNat

def u32be (value : UInt32) : Bytes := beBytes 4 value.toNat

def u64be (value : UInt64) : Bytes := beBytes 8 value.toNat

@[simp] theorem length_u16be (value : UInt16) : (u16be value).length = 2 := rfl

@[simp] theorem length_u32be (value : UInt32) : (u32be value).length = 4 := rfl

@[simp] theorem length_u64be (value : UInt64) : (u64be value).length = 8 := rfl

@[simp] theorem u16be_inj {a b : UInt16} : u16be a = u16be b ↔ a = b :=
  ⟨fun h => UInt16.toNat_inj.mp (beBytes_inj a.toNat_lt b.toNat_lt h), fun h => h ▸ rfl⟩

@[simp] theorem u32be_inj {a b : UInt32} : u32be a = u32be b ↔ a = b :=
  ⟨fun h => UInt32.toNat_inj.mp (beBytes_inj a.toNat_lt b.toNat_lt h), fun h => h ▸ rfl⟩

@[simp] theorem u64be_inj {a b : UInt64} : u64be a = u64be b ↔ a = b :=
  ⟨fun h => UInt64.toNat_inj.mp (beBytes_inj a.toNat_lt b.toNat_lt h), fun h => h ▸ rfl⟩

variable {r s x y : Bytes}

@[simp] theorem u16be_append_inj {a b : UInt16} : u16be a ++ r = u16be b ++ s ↔ a = b ∧ r = s := by
  rw [Bytes.append_inj_iff (by rfl), u16be_inj]

@[simp] theorem u32be_append_inj {a b : UInt32} : u32be a ++ r = u32be b ++ s ↔ a = b ∧ r = s := by
  rw [Bytes.append_inj_iff (by rfl), u32be_inj]

@[simp] theorem u64be_append_inj {a b : UInt64} : u64be a ++ r = u64be b ++ s ↔ a = b ∧ r = s := by
  rw [Bytes.append_inj_iff (by rfl), u64be_inj]

-- The length of a list as four bytes; a list of 2^32 elements or more has none.
def lengthBe (length : Nat) : Option Bytes :=
  if length < 2 ^ 32 then some (beBytes 4 length) else none

theorem lengthBe_eq_some : lengthBe length = some out ↔ length < 2 ^ 32 ∧ beBytes 4 length = out := by
  simp [lengthBe]

theorem lengthBe_append_inj (hx : lengthBe m = some x) (hy : lengthBe n = some y) (h : x ++ r = y ++ s) :
    m = n ∧ r = s := by
  obtain ⟨hm, rfl⟩ := lengthBe_eq_some.mp hx
  obtain ⟨hn, rfl⟩ := lengthBe_eq_some.mp hy
  obtain ⟨hmn, hrs⟩ := Bytes.append_inj h rfl
  exact ⟨beBytes_inj (by simpa using hm) (by simpa using hn) hmn, hrs⟩

def bytesField (value : Bytes) : Option Bytes := do
  let length ← lengthBe value.length
  return length ++ value

theorem bytesField_append_inj {a b : Bytes} (hx : bytesField a = some x) (hy : bytesField b = some y)
    (h : x ++ r = y ++ s) : a = b ∧ r = s := by
  simp only [bytesField, eq_some] at hx hy
  obtain ⟨m, hm, rfl⟩ := hx
  obtain ⟨n, hn, rfl⟩ := hy
  rw [Bytes.append_assoc, Bytes.append_assoc] at h
  obtain ⟨hlen, htail⟩ := lengthBe_append_inj hm hn h
  exact Bytes.append_inj htail hlen

def concat : List Bytes → Bytes
  | [] => ∅
  | first :: rest => first ++ concat rest

def listBytes (values : List Bytes) : Option Bytes := do
  let length ← lengthBe values.length
  let fields ← values.mapM bytesField
  return length ++ concat fields

theorem bytesField_eq_some {value : Bytes} :
    bytesField value = some out ↔ value.length < 2 ^ 32 ∧ beBytes 4 value.length ++ value = out := by
  simp only [bytesField, eq_some, lengthBe_eq_some]
  exact ⟨fun ⟨_, ⟨hlen, rfl⟩, hout⟩ => ⟨hlen, hout⟩, fun ⟨hlen, hout⟩ => ⟨_, ⟨hlen, rfl⟩, hout⟩⟩

theorem length_concat (h : ∀ value ∈ values, value.length = size) : (concat values).length = values.length * size := by
  induction values with
  | nil => simp [concat]
  | cons first rest ih =>
    have hfirst := h first List.mem_cons_self
    have hrest := ih fun value hvalue => h value (List.mem_cons_of_mem _ hvalue)
    simp only [concat, List.length_cons, Bytes.length_append, Nat.succ_mul]
    omega

theorem mapM_eq_some {as : List α} {bs : List β} :
    as.mapM f = some bs ↔ List.Forall₂ (fun a b => f a = some b) as bs := by
  induction as generalizing bs with
  | nil => simp [eq_comm]
  | cons a as ih =>
    simp only [List.mapM_cons, eq_some, ih, List.forall₂_cons_left_iff]
    exact ⟨fun ⟨b, hb, bs, hbs, heq⟩ => ⟨b, bs, hb, hbs, heq.symm⟩, fun ⟨b, bs, hb, hbs, heq⟩ => ⟨b, hb, bs, hbs, heq.symm⟩⟩

theorem le_length_listBytes (hout : listBytes values = some out) (h : ∀ value ∈ values, size ≤ value.length) :
    values.length * size ≤ out.length := by
  simp only [listBytes, eq_some] at hout
  obtain ⟨count, -, fields, hfields, rfl⟩ := hout
  replace hfields := mapM_eq_some.mp hfields
  suffices values.length * size ≤ (concat fields).length by
    rw [Bytes.length_append]
    omega
  induction hfields with
  | nil => simp [concat]
  | @cons value field rest fields hfield _ ih =>
    obtain ⟨-, rfl⟩ := bytesField_eq_some.mp hfield
    have hvalue := h value List.mem_cons_self
    have hrest := ih fun value hvalue => h value (List.mem_cons_of_mem _ hvalue)
    simp only [concat, List.length_cons, Bytes.length_append, length_beBytes, Nat.succ_mul]
    omega

theorem concat_fields_append_inj {as bs : List Bytes} {xs ys : List Bytes}
    (hxs : List.Forall₂ (fun a x => bytesField a = some x) as xs)
    (hys : List.Forall₂ (fun b y => bytesField b = some y) bs ys) (hlen : as.length = bs.length)
    (h : concat xs ++ r = concat ys ++ s) : as = bs ∧ r = s := by
  induction hxs generalizing bs ys with
  | nil =>
    cases hys with
    | nil => simpa [concat] using h
    | cons => simp at hlen
  | cons hx _ ih =>
    cases hys with
    | nil => simp at hlen
    | cons hy hys =>
      simp only [concat, Bytes.append_assoc] at h
      obtain ⟨rfl, hrest⟩ := bytesField_append_inj hx hy h
      obtain ⟨rfl, rfl⟩ := ih hys (by simpa using hlen) hrest
      exact ⟨rfl, rfl⟩

theorem listBytes_append_inj {as bs : List Bytes} (hx : listBytes as = some x) (hy : listBytes bs = some y)
    (h : x ++ r = y ++ s) : as = bs ∧ r = s := by
  simp only [listBytes, eq_some] at hx hy
  obtain ⟨m, hm, xs, hxs, rfl⟩ := hx
  obtain ⟨n, hn, ys, hys, rfl⟩ := hy
  rw [Bytes.append_assoc, Bytes.append_assoc] at h
  obtain ⟨hlen, hrest⟩ := lengthBe_append_inj hm hn h
  exact concat_fields_append_inj (mapM_eq_some.mp hxs) (mapM_eq_some.mp hys) hlen hrest

-- A list of records of one fixed size behind the number of records.
def listFixed {α : Type} (values : List α) (encode : α → Bytes) : Option Bytes := do
  let length ← lengthBe values.length
  return length ++ concat (values.map encode)

theorem concat_append_inj (hcode : ∀ a b r s, encode a ++ r = encode b ++ s → a = b ∧ r = s) {as bs : List α}
    (hlen : as.length = bs.length) (h : concat (as.map encode) ++ r = concat (bs.map encode) ++ s) :
    as = bs ∧ r = s := by
  induction as generalizing bs with
  | nil =>
    cases bs with
    | nil => simpa [concat] using h
    | cons => simp at hlen
  | cons a as ih =>
    cases bs with
    | nil => simp at hlen
    | cons b bs =>
      simp only [List.map_cons, concat, Bytes.append_assoc] at h
      obtain ⟨rfl, htail⟩ := hcode a b _ _ h
      obtain ⟨rfl, rfl⟩ := ih (by simpa using hlen) htail
      exact ⟨rfl, rfl⟩

theorem listFixed_append_inj (hcode : ∀ a b r s, encode a ++ r = encode b ++ s → a = b ∧ r = s) {as bs : List α}
    (hx : listFixed as encode = some x) (hy : listFixed bs encode = some y) (h : x ++ r = y ++ s) :
    as = bs ∧ r = s := by
  simp only [listFixed, eq_some] at hx hy
  obtain ⟨m, hm, rfl⟩ := hx
  obtain ⟨n, hn, rfl⟩ := hy
  rw [Bytes.append_assoc, Bytes.append_assoc] at h
  obtain ⟨hlen, htail⟩ := lengthBe_append_inj hm hn h
  exact concat_append_inj hcode hlen htail

-- Optional values: a presence byte, then the value when there is one.
def optionalFixed (value : Option Bytes) : Bytes :=
  match value with
  | none => u8 0
  | some bytes => u8 1 ++ bytes

def optionalBytes (value : Option Bytes) : Option Bytes :=
  match value with
  | none => some (u8 0)
  | some bytes => do
    let field ← bytesField bytes
    return u8 1 ++ field

def optionalU8 (value : Option UInt8) : Bytes := optionalFixed (value.map u8)

def optionalU64 (value : Option UInt64) : Bytes := optionalFixed (value.map u64be)

theorem optionalFixed_append_inj (hcode : ∀ a b r s, encode a ++ r = encode b ++ s ↔ a = b ∧ r = s) {a b : Option α} :
    optionalFixed (a.map encode) ++ r = optionalFixed (b.map encode) ++ s ↔ a = b ∧ r = s := by
  cases a <;> cases b <;> simp [optionalFixed, Bytes.append_assoc, hcode]

@[simp] theorem optionalU64_append_inj {a b : Option UInt64} :
    optionalU64 a ++ r = optionalU64 b ++ s ↔ a = b ∧ r = s :=
  optionalFixed_append_inj fun _ _ _ _ => u64be_append_inj

@[simp] theorem optionalU8_append_inj {a b : Option UInt8} : optionalU8 a ++ r = optionalU8 b ++ s ↔ a = b ∧ r = s :=
  optionalFixed_append_inj fun _ _ _ _ => u8_append_inj

@[simp] theorem optionalDigest_append_inj {n : Nat} {a b : Option (FixedBytes n)} :
    optionalFixed (a.map (·.bytes)) ++ r = optionalFixed (b.map (·.bytes)) ++ s ↔ a = b ∧ r = s :=
  optionalFixed_append_inj fun _ _ _ _ => FixedBytes.append_inj

theorem optionalBytes_append_inj {a b : Option Bytes} (hx : optionalBytes a = some x) (hy : optionalBytes b = some y)
    (h : x ++ r = y ++ s) : a = b ∧ r = s := by
  cases a with
  | none =>
    cases hx
    cases b with
    | none =>
      cases hy
      simpa using h
    | some b =>
      simp only [optionalBytes, eq_some] at hy
      obtain ⟨field, -, rfl⟩ := hy
      simp [Bytes.append_assoc] at h
  | some a =>
    simp only [optionalBytes, eq_some] at hx
    obtain ⟨field, hfield, rfl⟩ := hx
    cases b with
    | none =>
      cases hy
      simp [Bytes.append_assoc] at h
    | some b =>
      simp only [optionalBytes, eq_some] at hy
      obtain ⟨other, hother, rfl⟩ := hy
      simp only [Bytes.append_assoc, u8_append_inj, true_and] at h
      obtain ⟨rfl, rfl⟩ := bytesField_append_inj hfield hother h
      exact ⟨rfl, rfl⟩

theorem optionMapM_agree {γ : Type} {g : α → γ} (hf : ∀ a b c, f a = some c → f b = some c → g a = g b) {a b : Option α}
    {code : Option β} (ha : a.mapM f = some code) (hb : b.mapM f = some code) : a.map g = b.map g := by
  cases a <;> cases b <;>
    simp only [Option.mapM_none, Option.mapM_some, Option.pure_def, Option.map_eq_map, Option.map_eq_some_iff,
      Option.some.injEq] at ha hb
  case none.none => rfl
  case none.some =>
    obtain ⟨c, -, hc⟩ := hb
    cases ha.trans hc.symm
  case some.none =>
    obtain ⟨c, -, hc⟩ := ha
    cases hb.trans hc.symm
  case some.some a b =>
    obtain ⟨c, ha, rfl⟩ := ha
    obtain ⟨d, hb, hd⟩ := hb
    cases hd
    exact congrArg some (hf a b c ha hb)

def utf8 (text : String) : Bytes := octets text.toUTF8.data.toList

theorem utf8_inj {a b : String} : utf8 a = utf8 b ↔ a = b := by
  refine ⟨fun h => ?_, fun h => h ▸ rfl⟩
  rw [utf8, utf8, octets_inj] at h
  have hbytes : a.toUTF8 = b.toUTF8 := ByteArray.ext (Array.ext' h)
  exact String.toByteArray_inj.mp hbytes

-- Strings without a zero byte can be told apart when one follows them.
theorem octets_append_zero_inj {a b : List UInt8} (ha : 0 ∉ a) (hb : 0 ∉ b)
    (h : octets a ++ (u8 0 ++ r) = octets b ++ (u8 0 ++ s)) : a = b ∧ r = s := by
  induction a generalizing b with
  | nil =>
    cases b with
    | nil => simpa using h
    | cons byte rest =>
      rw [octets_nil_append, octets_cons_append, u8_append_inj] at h
      exact absurd h.1 (List.ne_of_not_mem_cons hb)
  | cons byte rest ih =>
    cases b with
    | nil =>
      rw [octets_nil_append, octets_cons_append, u8_append_inj] at h
      exact absurd h.1.symm (List.ne_of_not_mem_cons ha)
    | cons byte' rest' =>
      rw [octets_cons_append, octets_cons_append, u8_append_inj] at h
      obtain ⟨rfl, hrest⟩ := ih (List.not_mem_of_not_mem_cons ha) (List.not_mem_of_not_mem_cons hb) h.2
      exact ⟨by rw [h.1], hrest⟩

end Jury.Lib
