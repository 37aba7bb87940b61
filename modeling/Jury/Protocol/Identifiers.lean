import Jury.Lib.Bytes

-- Identifiers, digests and keys of the vault formats, and the two cryptographic primitives every
-- module takes as given.
namespace Jury.Protocol

open Lib Std

inductive ByteStringError where
  | wrongLength (expected actual : Nat)
  | tooLong (maximum actual : Nat)
  | zeroIdentifier
deriving DecidableEq

-- One kind for each of the identifier types that the formats keep apart.
inductive IdentifierKind where
  | vault
  | principal
  | item
  | field
  | revisionSeal
  | slot
  | witnessPolicy
  | migration
  | rollover
  | response
  | request
  | approval
  | cancellation
  | registration
  | recovery
  | label
  | presentationNonce
  | rotation
  | receipt
deriving DecidableEq

-- Thirty-two bytes, not all of them zero.
structure Identifier (kind : IdentifierKind) where
  asBytes : FixedBytes 32
  nonzero : asBytes.bytes.value ≠ 0
deriving DecidableEq

namespace Identifier

variable {kind : IdentifierKind}

def fromBytes (bytes : FixedBytes 32) : Except ByteStringError (Identifier kind) :=
  if h : bytes.bytes.value = 0 then .error .zeroIdentifier else .ok ⟨bytes, h⟩

def repeated (kind : IdentifierKind) (byte : UInt8) (h : byte ≠ 0) : Identifier kind :=
  ⟨FixedBytes.replicate 32 byte, by
    have hbyte : byte.toNat ≠ 0 := fun hzero => h (UInt8.toNat_inj.mp hzero)
    simpa [FixedBytes.replicate] using hbyte⟩

@[ext] theorem ext {a b : Identifier kind} (h : a.asBytes = b.asBytes) : a = b := by
  cases a
  cases b
  simpa using h

instance : Ord (Identifier kind) := keyOrd asBytes

instance : Std.TransOrd (Identifier kind) := keyOrd_trans _

instance : Std.LawfulEqOrd (Identifier kind) := keyOrd_lawful fun _ _ => ext

@[simp] theorem asBytes_inj {a b : Identifier kind} : a.asBytes = b.asBytes ↔ a = b :=
  ⟨ext, fun h => h ▸ rfl⟩

@[simp] theorem optional_append_inj {a b : Option (Identifier kind)} :
    optionalFixed (a.map (·.asBytes.bytes)) ++ r = optionalFixed (b.map (·.asBytes.bytes)) ++ s ↔ a = b ∧ r = s :=
  optionalFixed_append_inj fun _ _ _ _ => by rw [FixedBytes.append_inj, asBytes_inj]

end Identifier

-- Two records that are written field after field agree on their fields, one after the other.
theorem code_inj :
    (∀ {a b c : Bytes}, a ++ b ++ c = a ++ (b ++ c)) ∧
    (∀ {n : Nat} {a b : FixedBytes n} {r s : Bytes}, a.bytes ++ r = b.bytes ++ s ↔ a = b ∧ r = s) ∧
    (∀ {kind : IdentifierKind} {a b : Identifier kind}, a.asBytes = b.asBytes ↔ a = b) ∧
    (∀ {a b : UInt8} {r s : Bytes}, u8 a ++ r = u8 b ++ s ↔ a = b ∧ r = s) ∧
    (∀ {a b : UInt16} {r s : Bytes}, u16be a ++ r = u16be b ++ s ↔ a = b ∧ r = s) ∧
    (∀ {a b : UInt32} {r s : Bytes}, u32be a ++ r = u32be b ++ s ↔ a = b ∧ r = s) ∧
    (∀ {a b : UInt64} {r s : Bytes}, u64be a ++ r = u64be b ++ s ↔ a = b ∧ r = s) ∧
    (∀ {r : Bytes}, octets [] ++ r = r) ∧
    ∀ {byte : UInt8} {rest : List UInt8} {r : Bytes}, octets (byte :: rest) ++ r = u8 byte ++ (octets rest ++ r) :=
  ⟨Bytes.append_assoc _ _ _, FixedBytes.append_inj, Identifier.asBytes_inj, u8_append_inj, u16be_append_inj,
    u32be_append_inj, u64be_append_inj, octets_nil_append _, octets_cons_append _ _ _⟩

abbrev VaultId := Identifier .vault
abbrev PrincipalId := Identifier .principal
abbrev ItemId := Identifier .item
abbrev FieldId := Identifier .field
abbrev RevisionSealId := Identifier .revisionSeal
abbrev SlotId := Identifier .slot
abbrev WitnessPolicyId := Identifier .witnessPolicy
abbrev MigrationId := Identifier .migration
abbrev RolloverId := Identifier .rollover
abbrev ResponseId := Identifier .response
abbrev RequestId := Identifier .request
abbrev ApprovalId := Identifier .approval
abbrev CancellationId := Identifier .cancellation
abbrev RegistrationId := Identifier .registration
abbrev RecoveryId := Identifier .recovery
abbrev LabelId := Identifier .label
abbrev PresentationNonce := Identifier .presentationNonce
abbrev RotationId := Identifier .rotation
abbrev ReceiptId := Identifier .receipt

abbrev Digest32 := FixedBytes 32
abbrev Signature64 := FixedBytes 64
abbrev Nonce12 := FixedBytes 12
abbrev RecipientPublicKey1216 := FixedBytes 1216
abbrev VerificationPublicKey32 := FixedBytes 32
abbrev Encapsulation1120 := FixedBytes 1120
abbrev DirectCiphertext48 := FixedBytes 48
abbrev ShareCiphertext49 := FixedBytes 49
abbrev DescriptorCiphertext272 := FixedBytes 272

instance : Std.TransOrd Digest32 := inferInstance

instance : Std.TransOrd RecipientPublicKey1216 := inferInstance

def ZERO_DIGEST : Digest32 := FixedBytes.replicate 32 0

structure BoundedBytes (max : Nat) where
  asBytes : Bytes
  length_le : asBytes.length ≤ max
deriving DecidableEq

def BoundedBytes.new (max : Nat) (bytes : Bytes) : Except ByteStringError (BoundedBytes max) :=
  if h : bytes.length ≤ max then .ok ⟨bytes, h⟩ else .error (.tooLong max bytes.length)

theorem BoundedBytes.new_eq_ok {max : Nat} {bytes : Bytes} {value : BoundedBytes max}
    (h : BoundedBytes.new max bytes = .ok value) : value.asBytes = bytes := by
  unfold BoundedBytes.new at h
  split at h
  · obtain rfl := Except.ok.inj h
    rfl
  · cases h

@[ext] theorem BoundedBytes.ext {max : Nat} {a b : BoundedBytes max} (h : a.asBytes = b.asBytes) : a = b := by
  cases a
  cases b
  simpa using h

def BoundedBytes.isEmpty {max : Nat} (value : BoundedBytes max) : Bool := value.asBytes.length == 0

-- Maps and sets with ordered keys; two of them are equal when they hold the same entries.
abbrev BTreeMap (κ : Type) [Ord κ] (β : Type) := Std.ExtTreeMap κ β compare
abbrev BTreeSet (κ : Type) [Ord κ] := Std.ExtTreeSet κ compare

section Maps

variable {κ β : Type} [Ord κ] [TransOrd κ] {map : BTreeMap κ β} {key other : κ} {value found : β}

theorem mem_iff_getElem? : key ∈ map ↔ ∃ value, map[key]? = some value := by
  rw [ExtTreeMap.mem_iff_isSome_getElem?, Option.isSome_iff_exists]

theorem mem_of_getElem? (h : map[key]? = some value) : key ∈ map := mem_iff_getElem?.mpr ⟨value, h⟩

theorem not_mem_of_contains {set : BTreeSet κ} (h : set.contains key = false) : key ∉ set := by
  rw [← ExtTreeSet.contains_iff_mem, h]
  exact Bool.false_ne_true

theorem getElem?_of_erase (h : (map.erase key)[other]? = some found) : map[other]? = some found := by
  rw [ExtTreeMap.getElem?_erase] at h
  split at h
  · cases h
  · exact h

variable [LawfulEqOrd κ]

theorem getElem?_insert_ne (map : BTreeMap κ β) (value : β) (h : other ≠ key) :
    (map.insert key value)[other]? = map[other]? := by
  rw [ExtTreeMap.getElem?_insert, if_neg]
  exact fun heq => h (LawfulEqOrd.eq_of_compare heq).symm

theorem getElem?_insert_eq_some : (map.insert key value)[other]? = some found ↔
    (other = key ∧ value = found) ∨ (other ≠ key ∧ map[other]? = some found) := by
  by_cases h : other = key
  · simp [h]
  · simp [h, getElem?_insert_ne]

end Maps

theorem values_eq_map_toList {κ β : Type} [Ord κ] [TransOrd κ] (map : BTreeMap κ β) :
    map.values = map.toList.map (·.2) := by
  obtain ⟨inner⟩ := map
  induction inner using Std.ExtDTreeMap.inductionOn with
  | mk tree =>
    have hcollect : ∀ entries : List (κ × β),
        entries.foldr (fun entry rest => entry.2 :: rest) [] = entries.map (·.2) := by
      intro entries
      induction entries with
      | nil => rfl
      | cons entry entries ih => rw [List.foldr_cons, ih, List.map_cons]
    have hfold : tree.foldr (fun _ value rest => value :: rest) [] =
        (Std.DTreeMap.Const.toList tree).foldr (fun entry rest => entry.2 :: rest) [] :=
      Std.DTreeMap.Const.foldr_eq_foldr_toList
    exact hfold.trans (hcollect _)

theorem mem_values {κ β : Type} [Ord κ] [TransOrd κ] [LawfulEqOrd κ] {map : BTreeMap κ β} {value : β} :
    value ∈ map.values ↔ ∃ key : κ, map[key]? = some value := by
  rw [values_eq_map_toList, List.mem_map]
  constructor
  · rintro ⟨⟨key, found⟩, hmem, rfl⟩
    exact ⟨key, ExtTreeMap.mem_toList_iff_getElem?_eq_some.mp hmem⟩
  · rintro ⟨key, hkey⟩
    exact ⟨(key, value), ExtTreeMap.mem_toList_iff_getElem?_eq_some.mpr hkey, rfl⟩

-- SHA-256 and Ed25519 verification come from libraries outside the repository. Nothing is assumed
-- of them but that they are functions.
class Crypto where
  sha256 : Bytes → Digest32
  verifyBytes : VerificationPublicKey32 → Bytes → Signature64 → Bool

export Crypto (sha256 verifyBytes)

-- Stand-ins small enough to evaluate: the number a string spells modulo a prime, and signatures that
-- repeat the hash of the key and the message. They serve concrete runs only.
namespace Sample

-- The length leads, so that strings that differ in leading zeros stay apart.
def digest (bytes : Bytes) : Digest32 :=
  ⟨beBytes 32 ((bytes.length * 256 ^ bytes.length + bytes.value) % (2 ^ 255 - 19)), rfl⟩

def sign (key : VerificationPublicKey32) (message : Bytes) : Signature64 :=
  let half := digest (key.bytes ++ message)
  ⟨half.bytes ++ half.bytes, rfl⟩

scoped instance crypto : Crypto where
  sha256 := digest
  verifyBytes key message signature := signature == sign key message

def identifier (kind : IdentifierKind) (byte : UInt8) : Identifier kind :=
  if h : byte = 0 then .repeated kind 1 nofun else .repeated kind byte h

end Sample

-- The domain of a statement, its separator and the version of the encoding.
def jce (domain : String) : Bytes := utf8 domain ++ octets [0, 0, 1]

theorem jce_append_inj {a b : String} (ha : 0 ∉ a.toUTF8.data.toList) (hb : 0 ∉ b.toUTF8.data.toList)
    (h : jce a ++ r = jce b ++ s) : a = b ∧ r = s := by
  simp only [jce, utf8, code_inj] at h
  obtain ⟨hdomain, hrest⟩ := octets_append_zero_inj ha hb h
  exact ⟨utf8_inj.mp (octets_inj.mpr hdomain), by simpa using hrest⟩

end Jury.Protocol
