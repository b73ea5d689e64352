import HostBoundary.Cell.Basic
import HostBoundary.Foreign.Status

/-!
# Cells in foreign hands

A foreign caller has no types of the host. It makes and reads cells with plain words: a reference is
its number, and a vector goes in as two halves and comes out through two pointers that the caller
passes, either of which may be null.
-/

namespace HostBoundary

open Ieee

/-- What a foreign caller puts into a cell, and finds in it. -/
inductive ForeignValue where
  | i32 (n : Int32)
  | i64 (n : Int64)
  | f32 (x : Datum binary32)
  | f64 (x : Datum binary64)
  | v128 (high low : UInt64)
  | funcref (index : UInt32)
  | externref (number : UInt64)
  deriving DecidableEq

namespace ForeignValue

/-- Make a cell. -/
def toCell : ForeignValue → Cell
  | .i32 n => .ofInt32 n
  | .i64 n => .ofInt64 n
  | .f32 x => .ofFloat32 x
  | .f64 x => .ofFloat64 x
  | .v128 high low => .ofVector (.ofHalves high low)
  | .funcref index => .ofFuncRef ⟨index⟩
  | .externref number => .ofHandle ⟨number⟩

/-- Read the lane of a type. -/
def ofCell (c : Cell) : ValueType → ForeignValue
  | .i32 => .i32 c.int32
  | .i64 => .i64 c.int64
  | .f32 => .f32 c.float32
  | .f64 => .f64 c.float64
  | .v128 => .v128 c.vector.high c.vector.low
  | .funcref => .funcref c.funcRef.index
  | .externref => .externref c.handle.number

end ForeignValue

namespace Foreign

/-- What stands behind the two pointers of a caller; `none` is a null pointer. -/
structure Halves where
  high : Option UInt64
  low : Option UInt64
  deriving DecidableEq

/-- Read the vector lane of a cell into the halves that a caller points to. With a null pointer
among the two, neither is written. -/
def readVector (c : Cell) (out : Halves) : Status × Halves :=
  match out with
  | ⟨some _, some _⟩ => (.ok, ⟨some c.vector.high, some c.vector.low⟩)
  | _ => (.nullPointer, out)

/-- Whether a byte names a value type, as a status. -/
def checkType (code : UInt8) : Status :=
  .ofResult (ValueType.ofCode code)

end Foreign

end HostBoundary
