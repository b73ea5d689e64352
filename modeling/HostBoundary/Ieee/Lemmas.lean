import HostBoundary.Ieee.Basic
import Mathlib

/-!
# Floating-point data and their bits as numbers

A datum and the number of its bits determine each other: `ofNat_toNat` one way, `toNat_ofNat` the
other, modulo the width of the format. Without its sign the number is the `magnitude` of the datum,
and it tells the kinds of data apart: the zeros have magnitude zero (`isZero_iff`), and the NaNs lie
above the infinities (`isNaN_iff`). A zero is therefore no NaN, and the comparison of the standard
holds between equal data that are no NaN and between zeros (`ieeeEq_iff_eq_or_isZero`).
-/

namespace HostBoundary.Ieee

/-- The magnitude of the infinities: the largest exponent and no fraction. -/
def Format.infinity (f : Format) : Nat :=
  (2 ^ f.exponentWidth - 1) * 2 ^ f.fractionWidth

namespace Datum

variable {f : Format}

/-- A datum has fewer than `2 ^ width` bit patterns to choose from. -/
theorem toNat_lt (x : Datum f) : x.toNat < 2 ^ f.width :=
  x.bits.isLt

/-- The datum made from a number has its bits, modulo the width. -/
@[simp]
theorem toNat_ofNat (n : Nat) : (ofNat n : Datum f).toNat = n % 2 ^ f.width :=
  BitVec.toNat_ofNat n f.width

/-- A datum is the one made from its bits. -/
@[simp]
theorem ofNat_toNat (x : Datum f) : ofNat x.toNat = x := by
  apply toNat_inj.1
  rw [toNat_ofNat, Nat.mod_eq_of_lt x.toNat_lt]

/-! ## Magnitudes -/

/-- The bits of a datum without its sign, as a number. -/
def magnitude (x : Datum f) : Nat :=
  x.toNat % 2 ^ (f.exponentWidth + f.fractionWidth)

/-- The exponent is the quotient of the bits, without the sign. -/
theorem toNat_exponent (x : Datum f) :
    x.exponent.toNat = x.toNat / 2 ^ f.fractionWidth % 2 ^ f.exponentWidth := by
  rw [exponent, BitVec.extractLsb'_toNat, Nat.shiftRight_eq_div_pow]
  rfl

/-- The fraction is the remainder of the bits. -/
theorem toNat_fraction (x : Datum f) : x.fraction.toNat = x.toNat % 2 ^ f.fractionWidth := by
  rw [fraction, BitVec.extractLsb'_toNat, Nat.shiftRight_zero]
  rfl

/-- In the magnitude the exponent stands above the fraction. -/
theorem magnitude_eq (x : Datum f) :
    x.magnitude = x.fraction.toNat + 2 ^ f.fractionWidth * x.exponent.toNat := by
  rw [magnitude, Nat.add_comm, Nat.pow_add, Nat.mod_mul, toNat_fraction, toNat_exponent]

/-- The zeros are the data of magnitude zero. -/
theorem isZero_iff {x : Datum f} : x.isZero = true ↔ x.magnitude = 0 := by
  have hone : 0 < 2 ^ f.fractionWidth := Nat.two_pow_pos _
  rw [magnitude_eq, Nat.add_eq_zero_iff, Nat.mul_eq_zero, or_iff_right hone.ne', isZero,
    Bool.and_eq_true, beq_iff_eq, beq_iff_eq, ← BitVec.toNat_inj, ← BitVec.toNat_inj]
  exact and_comm

/-- The NaNs are the data above the infinities. -/
theorem isNaN_iff {x : Datum f} : x.isNaN = true ↔ f.infinity < x.magnitude := by
  have hexponent : x.exponent.toNat < 2 ^ f.exponentWidth := x.exponent.isLt
  have hfraction : x.fraction.toNat < 2 ^ f.fractionWidth := x.fraction.isLt
  have hfields : x.isNaN = true ↔
      x.exponent.toNat = 2 ^ f.exponentWidth - 1 ∧ x.fraction.toNat ≠ 0 := by
    rw [isNaN, Bool.and_eq_true, beq_iff_eq, bne_iff_ne, ne_eq, ← BitVec.toNat_inj,
      ← BitVec.toNat_inj, BitVec.toNat_allOnes]
    rfl
  rw [hfields, magnitude_eq, Format.infinity, Nat.mul_comm]
  constructor
  · rintro ⟨hlargest, hpositive⟩
    rw [hlargest]
    omega
  · intro habove
    -- An exponent below the largest one leaves no room for the fraction to make up for it.
    have hlargest : x.exponent.toNat = 2 ^ f.exponentWidth - 1 := by
      by_contra hne
      have hbelow : x.exponent.toNat + 1 ≤ 2 ^ f.exponentWidth - 1 := by omega
      have hroom := Nat.mul_le_mul_left (2 ^ f.fractionWidth) hbelow
      rw [Nat.mul_add] at hroom
      omega
    rw [hlargest] at habove
    exact ⟨hlargest, by omega⟩

/-! ## The comparison -/

/-- A zero is no NaN. -/
theorem isNaN_eq_false_of_isZero {x : Datum f} (hx : x.isZero = true) : x.isNaN = false := by
  rw [isZero_iff] at hx
  rw [← Bool.not_eq_true, isNaN_iff, hx]
  exact Nat.not_lt_zero _

/-- The comparison holds between a datum that is no NaN and itself, and between zeros. -/
theorem ieeeEq_iff_eq_or_isZero {x y : Datum f} :
    x.ieeeEq y = true ↔
      x = y ∧ x.isNaN = false ∨ x.isZero = true ∧ y.isZero = true := by
  rw [ieeeEq_iff]
  constructor
  · rintro ⟨hx, -, heq | hzero⟩
    · exact Or.inl ⟨heq, hx⟩
    · exact Or.inr hzero
  · rintro (⟨rfl, hx⟩ | ⟨hx, hy⟩)
    · exact ⟨hx, hx, Or.inl rfl⟩
    · exact ⟨isNaN_eq_false_of_isZero hx, isNaN_eq_false_of_isZero hy, Or.inr ⟨hx, hy⟩⟩

end Datum

end HostBoundary.Ieee
