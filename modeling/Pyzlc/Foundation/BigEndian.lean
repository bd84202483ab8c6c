import Mathlib.Algebra.Group.Nat.Defs
import Mathlib.Data.List.Induction
import Pyzlc.Foundation.Text

/-!
# Fixed-width big-endian integers

The most significant byte comes first.  Packing is total and truncates; the range
check belongs to the caller, as it does in the packing functions of the source
language.
-/

namespace Pyzlc.Foundation

namespace BigEndian

/-- The last `width` base-256 digits of a number, most significant first. -/
def pack : (width : Nat) → Nat → Bytes
  | 0, _ => []
  | width + 1, value => pack width (value / 256) ++ [UInt8.ofNat (value % 256)]

/-- The number whose base-256 digits are the bytes. -/
def unpack (bytes : Bytes) : Nat :=
  bytes.foldl (fun value byte => 256 * value + byte.toNat) 0

@[simp] theorem length_pack (width value : Nat) : (pack width value).length = width := by
  induction width generalizing value with
  | zero => rfl
  | succ width ih => simp [pack, ih]

@[simp] theorem unpack_append_singleton (bytes : Bytes) (byte : UInt8) :
    unpack (bytes ++ [byte]) = 256 * unpack bytes + byte.toNat := by
  simp [unpack]

theorem unpack_lt (bytes : Bytes) : unpack bytes < 256 ^ bytes.length := by
  induction bytes using List.reverseRecOn with
  | nil => simp [unpack]
  | append_singleton bytes byte ih =>
      have digit := byte.toNat_lt
      rw [unpack_append_singleton, List.length_append, List.length_singleton, Nat.pow_succ]
      omega

/-- Unpacking reverses packing below the width's range. -/
theorem unpack_pack {width value : Nat} (fits : value < 256 ^ width) :
    unpack (pack width value) = value := by
  induction width generalizing value with
  | zero =>
      obtain rfl : value = 0 := by simpa using fits
      rfl
  | succ width ih =>
      have head : value / 256 < 256 ^ width := by
        rw [Nat.pow_succ] at fits
        omega
      have digit : (UInt8.ofNat (value % 256)).toNat = value % 256 := by simp
      rw [pack, unpack_append_singleton, ih head, digit]
      omega

/-- Packing reverses unpacking at the bytes' own width. -/
theorem pack_unpack (bytes : Bytes) : pack bytes.length (unpack bytes) = bytes := by
  induction bytes using List.reverseRecOn with
  | nil => rfl
  | append_singleton bytes byte ih =>
      have digit := byte.toNat_lt
      have quotient : (256 * unpack bytes + byte.toNat) / 256 = unpack bytes := by omega
      have remainder : (256 * unpack bytes + byte.toNat) % 256 = byte.toNat := by omega
      rw [List.length_append, List.length_singleton, pack, unpack_append_singleton,
        quotient, remainder, ih, UInt8.ofNat_toNat]

/-! ## Two's complement -/

/-- The two's complement of an integer in the given width. -/
def packSigned (width : Nat) (value : Int) : Bytes :=
  pack width (value % (256 ^ width : Nat)).toNat

/-- The integer whose two's complement the bytes are. -/
def unpackSigned (bytes : Bytes) : Int :=
  (unpack bytes : Int).bmod (256 ^ bytes.length)

@[simp] theorem length_packSigned (width : Nat) (value : Int) :
    (packSigned width value).length = width := length_pack width _

theorem unpackSigned_packSigned {width : Nat} {value : Int}
    (low : -(256 ^ width : Nat) ≤ 2 * value) (high : 2 * value < (256 ^ width : Nat)) :
    unpackSigned (packSigned width value) = value := by
  have positive : (0 : Int) < (256 ^ width : Nat) := by
    exact_mod_cast Nat.pow_pos (by decide)
  have nonneg := Int.emod_nonneg value (Int.ne_of_gt positive)
  have below := Int.emod_lt_of_pos value positive
  have digits : (value % (256 ^ width : Nat)).toNat < 256 ^ width := by omega
  rw [unpackSigned, length_packSigned, packSigned, unpack_pack digits,
    Int.toNat_of_nonneg nonneg, Int.emod_bmod]
  exact Int.bmod_eq_of_le_mul_two (by omega) (by omega)

theorem packSigned_unpackSigned (bytes : Bytes) :
    packSigned bytes.length (unpackSigned bytes) = bytes := by
  have bound := unpack_lt bytes
  have digits : ((unpackSigned bytes) % (256 ^ bytes.length : Nat)).toNat = unpack bytes := by
    rw [unpackSigned, Int.bmod_emod, Int.emod_eq_of_lt (by omega) (by exact_mod_cast bound)]
    exact Int.toNat_natCast _
  rw [packSigned, digits, pack_unpack]

theorem unpackSigned_range (bytes : Bytes) :
    -(256 ^ bytes.length : Nat) ≤ 2 * unpackSigned bytes ∧
      2 * unpackSigned bytes < (256 ^ bytes.length : Nat) := by
  have positive : 0 < 256 ^ bytes.length := Nat.pow_pos (by decide)
  have low := Int.le_bmod (x := (unpack bytes : Int)) positive
  have high := Int.bmod_lt (x := (unpack bytes : Int)) positive
  rw [unpackSigned]
  omega

end BigEndian

end Pyzlc.Foundation
