/-!
# Floating-point data as bit patterns

A datum of a binary interchange format is kept as its bit pattern, so that a NaN keeps its payload
and a zero its sign wherever it is carried. `Datum.ieeeEq` is the comparison of the floating-point
standard, said on the fields of the pattern; equality of data themselves is equality of patterns.
`ieeeEq_iff` says where the two differ: at NaN and at the two zeros.
-/

namespace HostBoundary.Ieee

/-- A binary interchange format: the widths of its exponent and fraction fields. -/
structure Format where
  exponentWidth : Nat
  fractionWidth : Nat
  deriving DecidableEq

/-- The number of bits of a datum: a sign, an exponent and a fraction. -/
def Format.width (f : Format) : Nat :=
  1 + f.exponentWidth + f.fractionWidth

/-- Single precision, 32 bits. -/
def binary32 : Format := ⟨8, 23⟩

/-- Double precision, 64 bits. -/
def binary64 : Format := ⟨11, 52⟩

/-- Single precision has 32 bits. -/
@[simp]
theorem width_binary32 : binary32.width = 32 := rfl

/-- Double precision has 64 bits. -/
@[simp]
theorem width_binary64 : binary64.width = 64 := rfl

/-- A datum of a format is its bit pattern. -/
@[ext]
structure Datum (f : Format) where
  bits : BitVec f.width
  deriving DecidableEq

namespace Datum

variable {f : Format}

/-- The datum whose bits are those of a number, modulo the width of the format. -/
def ofNat (n : Nat) : Datum f :=
  ⟨BitVec.ofNat f.width n⟩

/-- The bits of a datum as an unsigned number. -/
def toNat (x : Datum f) : Nat :=
  x.bits.toNat

/-- The biased exponent: the field above the fraction. -/
def exponent (x : Datum f) : BitVec f.exponentWidth :=
  x.bits.extractLsb' f.fractionWidth f.exponentWidth

/-- The fraction: the low bits. -/
def fraction (x : Datum f) : BitVec f.fractionWidth :=
  x.bits.extractLsb' 0 f.fractionWidth

/-- A NaN has the largest exponent and a fraction that is not zero. -/
def isNaN (x : Datum f) : Bool :=
  x.exponent == BitVec.allOnes f.exponentWidth && x.fraction != 0#f.fractionWidth

/-- A zero has exponent and fraction zero and either sign. -/
def isZero (x : Datum f) : Bool :=
  x.exponent == 0#f.exponentWidth && x.fraction == 0#f.fractionWidth

/-- Equality as the standard compares: a NaN equals nothing, the two zeros equal each other, and
any other datum equals itself alone. -/
def ieeeEq (x y : Datum f) : Bool :=
  !x.isNaN && !y.isNaN && (x == y || x.isZero && y.isZero)

/-- Data with the same bits are one datum. -/
theorem toNat_inj {x y : Datum f} : x.toNat = y.toNat ↔ x = y := by
  constructor
  · intro h
    exact Datum.ext (BitVec.eq_of_toNat_eq h)
  · exact congrArg toNat

/-- The comparison holds exactly between equal patterns that are no NaN, and between zeros. -/
theorem ieeeEq_iff {x y : Datum f} :
    x.ieeeEq y = true ↔
      x.isNaN = false ∧ y.isNaN = false ∧ (x = y ∨ x.isZero = true ∧ y.isZero = true) := by
  simp [ieeeEq, and_assoc]

end Datum

end HostBoundary.Ieee
