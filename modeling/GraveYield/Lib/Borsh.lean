import GraveYield.Lib.Word

/-!
# Borsh

The encoding of the published specification : integers little-endian in their own width, signed
ones in two's complement, a boolean as one byte, an option as a tag before its value, a sequence
as its length on four bytes before its elements, byte arrays and the fields of a struct one after
the other.
-/

namespace Borsh

open Machine

variable {α : Type}

/-- The values of an `i64`. -/
def InI64 (z : ℤ) : Prop :=
  -2 ^ 63 ≤ z ∧ z < 2 ^ 63

/-- Whether an integer is an `i64` is decided. -/
instance (z : ℤ) : Decidable (InI64 z) :=
  inferInstanceAs (Decidable (_ ∧ _))

/-- Two's complement on 64 bits. -/
def twosComplement64 (z : ℤ) : ℕ :=
  (z % 2 ^ 64).toNat

/-- The representation is a word. -/
theorem twosComplement64_lt (z : ℤ) : twosComplement64 z < 2 ^ 64 := by
  have h := Int.emod_lt_of_pos z (by decide : (0 : ℤ) < 2 ^ 64)
  have h0 := Int.emod_nonneg z (by decide : (2 ^ 64 : ℤ) ≠ 0)
  unfold twosComplement64
  omega

/-- An `i64` is read back from its representation. -/
theorem toSigned64_twosComplement64 {z : ℤ} (h : InI64 z) :
    toSigned64 (twosComplement64 z) = z := by
  unfold InI64 at h
  have h0 := Int.emod_nonneg z (by decide : (2 ^ 64 : ℤ) ≠ 0)
  have hval : ((twosComplement64 z : ℕ) : ℤ) = z % 2 ^ 64 := Int.toNat_of_nonneg h0
  unfold toSigned64
  split_ifs with hneg
  · omega
  · omega

/-- The value whose encoding on 64 bits `z` has. -/
def wrap64 (z : ℤ) : ℤ :=
  toSigned64 (twosComplement64 z)

/-- What wraps is an `i64`. -/
theorem inI64_wrap64 (z : ℤ) : InI64 (wrap64 z) := by
  have h := twosComplement64_lt z
  unfold InI64 wrap64 toSigned64
  split_ifs
  · omega
  · omega

/-- Wrapping keeps the representation. -/
theorem twosComplement64_wrap64 (z : ℤ) : twosComplement64 (wrap64 z) = twosComplement64 z := by
  have h := twosComplement64_lt z
  unfold wrap64 toSigned64
  generalize twosComplement64 z = n at h
  unfold twosComplement64
  split_ifs
  · omega
  · omega

/-! ## The encodings -/

/-- An unsigned integer of `8 * k` bits. -/
def word (k : ℕ) (v : Word (8 * k)) : List Byte :=
  leBytes k v.val

/-- A `u8` is its byte. -/
def u8 (v : Word 8) : List Byte :=
  word 1 v

/-- A `u16` is two bytes, the lowest first. -/
def u16 (v : Word 16) : List Byte :=
  word 2 v

/-- A `u64` is eight bytes. -/
def u64 (v : Word 64) : List Byte :=
  word 8 v

/-- A `u128` is sixteen. -/
def u128 (v : Word 128) : List Byte :=
  word 16 v

/-- An `i64` is the eight bytes of its representation. -/
def i64 (z : ℤ) : List Byte :=
  leBytes 8 (twosComplement64 z)

/-- A `bool` is one byte. -/
def bool (b : Bool) : List Byte :=
  [if b then 1 else 0]

/-- An option is a tag, and the value if there is one. -/
def option (enc : α → List Byte) : Option α → List Byte
  | none => [0]
  | some a => 1 :: enc a

/-- A sequence of fewer than `2 ^ 32` elements. -/
def vec (enc : α → List Byte) (l : List α) : List Byte :=
  leBytes 4 l.length ++ (l.map enc).flatten

/-- Wrapping does not change the bytes. -/
@[simp] theorem i64_wrap64 (z : ℤ) : i64 (wrap64 z) = i64 z := by
  rw [i64, twosComplement64_wrap64, i64]

@[simp] theorem length_u8 (v : Word 8) : (u8 v).length = 1 :=
  length_leBytes 1 _

@[simp] theorem length_u16 (v : Word 16) : (u16 v).length = 2 :=
  length_leBytes 2 _

@[simp] theorem length_u64 (v : Word 64) : (u64 v).length = 8 :=
  length_leBytes 8 _

@[simp] theorem length_u128 (v : Word 128) : (u128 v).length = 16 :=
  length_leBytes 16 _

@[simp] theorem length_i64 (z : ℤ) : (i64 z).length = 8 :=
  length_leBytes 8 _

@[simp] theorem length_bool (b : Bool) : (bool b).length = 1 :=
  rfl

/-- A sequence of elements of one size. -/
theorem length_vec {enc : α → List Byte} {size : ℕ} (henc : ∀ a, (enc a).length = size)
    (l : List α) : (vec enc l).length = 4 + size * l.length := by
  have hmap : (l.map enc).map List.length = List.replicate l.length size := by
    rw [List.map_map, ← List.map_const']
    exact List.map_congr_left fun a _ => henc a
  rw [vec, List.length_append, length_leBytes, List.length_flatten, hmap, List.sum_replicate,
    smul_eq_mul, mul_comm]

end Borsh
