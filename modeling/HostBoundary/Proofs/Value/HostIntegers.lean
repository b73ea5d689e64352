import HostBoundary.HostInteger
import HostBoundary.Proofs.Cell.Reinterpretation
import HostBoundary.Proofs.Value.Equality
import HostBoundary.Proofs.Vector128.Views

/-!
# Host integers across the boundary

The host has seven types of integers, and three of the boundary's types carry them.
`host_integers_cross_losslessly` follows an integer from the host's type into a value, into a cell
and out of it again. All that is kept of the integer is its remainder modulo `2 ^ w`, where `w` is
the number of bits of its type, and nothing else of it is lost: no integer is out of range, none is
clamped, and the cell is zero behind the `w` bits. `toNat_toCell_toValue` is that law; what is read
back and which integers fall together follow from it.
-/

namespace HostBoundary

universe u

/-! ## Patterns of bits as numbers -/

/-- The number of a pattern is smaller than the number of patterns. -/
theorem emod_natCast_toNat {w : Nat} (x : BitVec w) : (x.toNat : Int) % 2 ^ w = x.toNat :=
  Int.emod_eq_of_lt (Int.natCast_nonneg _) (by exact_mod_cast x.isLt)

/-- The integer of a pattern in two's complement is congruent to its number. -/
theorem emod_toInt {w : Nat} (x : BitVec w) : x.toInt % 2 ^ w = x.toNat := by
  have hbmod : x.toInt % (2 ^ w : Nat) = (x.toNat : Int) % (2 ^ w : Nat) := by
    rw [BitVec.toInt_eq_toNat_bmod, Int.bmod_emod]
  rw [Nat.cast_pow, Nat.cast_ofNat, emod_natCast_toNat] at hbmod
  exact hbmod

namespace HostInteger

variable {x y : HostInteger}

/-! ## From integers to cells -/

/-- The bits of an integer in its own type. -/
def pattern : (x : HostInteger) → BitVec x.width
  | .int32 n => n.toBitVec
  | .uint32 n => n.toBitVec
  | .int64 n | .addressDifference n => n.toBitVec
  | .uint64 n | .addressSize n => n.toBitVec
  | .uint128 n => n

/-- The bits of an integer are the integer modulo the number of patterns. -/
theorem emod_toInt_eq_toNat_pattern (x : HostInteger) :
    x.toInt % 2 ^ x.width = x.pattern.toNat := by
  cases x with
  | int32 n | int64 n | addressDifference n => exact emod_toInt n.toBitVec
  | uint32 n | uint64 n | addressSize n => exact emod_natCast_toNat n.toBitVec
  | uint128 n => exact emod_natCast_toNat n

/-- The type of the value that carries an integer depends on the width alone. -/
theorem type_toValue (x : HostInteger) :
    x.toValue.type = if x.width = 32 then .i32 else if x.width = 64 then .i64 else .v128 := by
  cases x <;> rfl

/-- An integer is carried by no reference. -/
theorem type_toValue_ne (x : HostInteger) : x.toValue.type ≠ .externref := by
  cases x <;> nofun

/-- The value that carries an integer may always cross. -/
theorem isReleased_toValue (x : HostInteger) : x.toValue.isReleased = false := by
  cases x <;> rfl

/-- The value that carries an integer is equal to itself alone. -/
theorem toValue_equals_iff {v : Value} : x.toValue.equals v = true ↔ x.toValue = v := by
  apply Value.equals_iff_eq
  · cases x <;> rfl
  · cases x <;> rfl

/-- The cell of an integer spells its bits. -/
theorem toNat_toCell_toValue (x : HostInteger) :
    x.toValue.toCell.toNat = x.pattern.toNat := by
  cases x with
  | int32 n => exact Cell.toNat_ofInt32 n
  | uint32 n => exact Cell.toNat_ofInt32 n.toInt32
  | int64 n | addressDifference n => exact Cell.toNat_ofInt64 n
  | uint64 n | addressSize n => exact Cell.toNat_ofInt64 n.toInt64
  | uint128 n => exact Vector128.toNat_block_ofWord n

/-- The cell of an integer is read back as the value that carries the integer. -/
theorem decode_toCell_toValue {α : Type u} (r : Registry α) (x : HostInteger) :
    r.decode x.toValue.toCell x.toValue.type = x.toValue := by
  rw [Registry.decode_toCell, r.judge_of_type_ne x.type_toValue_ne]

/-! ## Which integers fall together -/

/-- Integers of one width are carried by one value exactly when they are congruent. -/
theorem toValue_eq_iff_modEq (hwidth : x.width = y.width) :
    x.toValue = y.toValue ↔ x.toInt ≡ y.toInt [ZMOD 2 ^ x.width] := by
  have htype : x.toValue.type = y.toValue.type := by
    rw [type_toValue, type_toValue, hwidth]
  calc x.toValue = y.toValue
      ↔ x.toValue.toCell = y.toValue.toCell :=
        ⟨congrArg Value.toCell,
          Value.eq_of_toCell_eq htype x.isReleased_toValue y.isReleased_toValue⟩
    _ ↔ (x.pattern.toNat : Int) = y.pattern.toNat := by
        rw [← Cell.toNat_inj, toNat_toCell_toValue, toNat_toCell_toValue, Nat.cast_inj]
    _ ↔ x.toInt ≡ y.toInt [ZMOD 2 ^ x.width] := by
        rw [← emod_toInt_eq_toNat_pattern, ← emod_toInt_eq_toNat_pattern, ← hwidth]
        rfl

/-- An integer of 32 bits is carried as the signed integer congruent to it. -/
theorem exists_toValue_eq_i32 (hwidth : x.width = 32) :
    ∃ n : Int32, x.toValue = .i32 n ∧ n.toInt ≡ x.toInt [ZMOD 2 ^ 32] := by
  have htype : x.toValue.type = .i32 := by
    rw [type_toValue, if_pos hwidth]
  cases hvalue : x.toValue with
  | i32 n =>
      have hsame : (int32 n).width = x.width := hwidth.symm
      exact ⟨n, rfl, (toValue_eq_iff_modEq hsame).1 hvalue.symm⟩
  | _ => rw [hvalue] at htype; cases htype

/-- An integer of 64 bits is carried as the signed integer congruent to it. -/
theorem exists_toValue_eq_i64 (hwidth : x.width = 64) :
    ∃ n : Int64, x.toValue = .i64 n ∧ n.toInt ≡ x.toInt [ZMOD 2 ^ 64] := by
  have htype : x.toValue.type = .i64 := by
    rw [type_toValue, hwidth]
    rfl
  cases hvalue : x.toValue with
  | i64 n =>
      have hsame : (int64 n).width = x.width := hwidth.symm
      exact ⟨n, rfl, (toValue_eq_iff_modEq hsame).1 hvalue.symm⟩
  | _ => rw [hvalue] at htype; cases htype

/-- An integer of 128 bits is carried as the vector of its quotient and its remainder. -/
theorem exists_toValue_eq_v128 (hwidth : x.width = 128) :
    ∃ high low : UInt64, x.toValue = .v128 (.ofHalves high low) ∧
      (high.toNat : Int) = x.toInt / 2 ^ 64 ∧ (low.toNat : Int) = x.toInt % 2 ^ 64 := by
  cases x with
  | uint128 n =>
      refine ⟨(Vector128.ofWord n).high, (Vector128.ofWord n).low, ?_, ?_, ?_⟩
      · rw [Vector128.ofHalves_high_low]
        rfl
      · rw [Vector128.toNat_high, Vector128.toNat_block_ofWord]
        rfl
      · rw [Vector128.toNat_low, Vector128.toNat_block_ofWord]
        rfl
  | _ => cases hwidth

/-- An integer of any of the host's types is encoded, and its cell spells the integer modulo the
number of bits of the type. Whatever registry reads the cell back as the type of the value, it finds
the signed integer of 32 or 64 bits that is congruent to the one sent, or the vector whose halves
are its quotient and its remainder. So no two integers of one of the host's types are carried by one
value, and integers of types of one width are carried by one value, or by equal ones, exactly when
they are congruent. -/
theorem host_integers_cross_losslessly {α : Type u} :
    (∀ x : HostInteger, ∃ cell, x.toValue.encode.result = .ok cell ∧
      (cell.toNat : Int) = x.toInt % 2 ^ x.width ∧
      ∀ r : Registry α,
        (x.width = 32 → ∃ n : Int32,
          r.decode cell x.toValue.type = .i32 n ∧ n.toInt ≡ x.toInt [ZMOD 2 ^ 32]) ∧
        (x.width = 64 → ∃ n : Int64,
          r.decode cell x.toValue.type = .i64 n ∧ n.toInt ≡ x.toInt [ZMOD 2 ^ 64]) ∧
        (x.width = 128 → ∃ high low : UInt64,
          r.decode cell x.toValue.type = .v128 (.ofHalves high low) ∧
            (high.toNat : Int) = x.toInt / 2 ^ 64 ∧ (low.toNat : Int) = x.toInt % 2 ^ 64)) ∧
    (Function.Injective (fun n => (int32 n).toValue) ∧
      Function.Injective (fun n => (uint32 n).toValue) ∧
      Function.Injective (fun n => (int64 n).toValue) ∧
      Function.Injective (fun n => (uint64 n).toValue) ∧
      Function.Injective (fun n => (addressDifference n).toValue) ∧
      Function.Injective (fun n => (addressSize n).toValue) ∧
      Function.Injective (fun n => (uint128 n).toValue)) ∧
    ∀ x y : HostInteger, x.width = y.width →
      (x.toValue = y.toValue ↔ x.toInt ≡ y.toInt [ZMOD 2 ^ x.width]) ∧
      (x.toValue.equals y.toValue = true ↔ x.toInt ≡ y.toInt [ZMOD 2 ^ x.width]) := by
  refine ⟨fun x => ⟨x.toValue.toCell, ?_, ?_, fun r => ?_⟩, ⟨?_, ?_, ?_, ?_, ?_, ?_, ?_⟩,
    fun x y hwidth => ⟨toValue_eq_iff_modEq hwidth, ?_⟩⟩
  · exact Value.result_encode_eq_ok_iff.2 ⟨x.isReleased_toValue, rfl⟩
  · rw [toNat_toCell_toValue, emod_toInt_eq_toNat_pattern]
  · rw [decode_toCell_toValue]
    exact ⟨exists_toValue_eq_i32, exists_toValue_eq_i64, exists_toValue_eq_v128⟩
  · exact fun n m h => Value.i32.inj h
  · exact fun n m h => Function.LeftInverse.injective UInt32.toUInt32_toInt32 (Value.i32.inj h)
  · exact fun n m h => Value.i64.inj h
  · exact fun n m h => Function.LeftInverse.injective UInt64.toUInt64_toInt64 (Value.i64.inj h)
  · exact fun n m h => Value.i64.inj h
  · exact fun n m h => Function.LeftInverse.injective UInt64.toUInt64_toInt64 (Value.i64.inj h)
  · exact fun n m h => Function.LeftInverse.injective Vector128.toWord_ofWord (Value.v128.inj h)
  · rw [toValue_equals_iff]
    exact toValue_eq_iff_modEq hwidth

/-- The unsigned integer of 32 bits with the highest bit alone and the least signed one are carried
by equal values. The largest address is read back as a signed integer congruent to it, and the
address below it is carried by another value. -/
theorem host_integers_cross_losslessly_at_sign_bit :
    (uint32 0x80000000).toValue.equals (int32 (-0x80000000)).toValue = true ∧
      (∃ (cell : Cell) (n : Int64),
        (addressSize 0xFFFFFFFFFFFFFFFF).toValue.encode.result = .ok cell ∧
        (Registry.empty : Registry HostObject).decode cell .i64 = .i64 n ∧
          n.toInt ≡ 0xFFFFFFFFFFFFFFFF [ZMOD 2 ^ 64]) ∧
      (addressSize 0xFFFFFFFFFFFFFFFF).toValue ≠ (addressSize 0xFFFFFFFFFFFFFFFE).toValue := by
  obtain ⟨hcross, ⟨-, -, -, -, -, hinjective, -⟩, hequal⟩ :=
    host_integers_cross_losslessly (α := HostObject)
  refine ⟨(hequal (uint32 0x80000000) (int32 (-0x80000000)) rfl).2.2 (by decide), ?_, ?_⟩
  · obtain ⟨cell, hcell, -, hread⟩ := hcross (addressSize 0xFFFFFFFFFFFFFFFF)
    obtain ⟨n, hn, hcongruent⟩ := (hread .empty).2.1 rfl
    exact ⟨cell, n, hcell, hn, hcongruent⟩
  · exact fun h => absurd (hinjective h) (by decide)

end HostInteger

end HostBoundary
