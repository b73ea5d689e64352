import HostBoundary.Cell.Basic
import HostBoundary.Error
import HostBoundary.Registry.Basic
import HostBoundary.Value

/-!
# Cells to values

Decoding reads a native cell as a value of a declared type. The registry is asked only whether the
handle of an extern reference is registered, and asking is not an event, so decoding emits none.
-/

namespace HostBoundary.Registry

universe u

variable {α : Type u}

/-- The reference that a handle is: live if an object is registered under it. -/
def refOf (r : Registry α) (h : Handle) : ExternRef :=
  if r.contains h then .live h else .released h

/-- Read a cell as a value of the given type. -/
def decode (r : Registry α) (c : Cell) : ValueType → Value
  | .i32 => .i32 c.int32
  | .i64 => .i64 c.int64
  | .f32 => .f32 c.float32
  | .f64 => .f64 c.float64
  | .v128 => .v128 c.vector
  | .funcref => .funcref c.funcRef
  | .externref => .externref (r.refOf c.handle)

/-- A cell read as a type has that type. -/
@[simp]
theorem type_decode (r : Registry α) (c : Cell) (t : ValueType) : (r.decode c t).type = t := by
  cases t <;> rfl

/-- Read a cell as a value of the type that a byte names. -/
def decodeByCode (r : Registry α) (c : Cell) (code : UInt8) : Except BoundaryError Value :=
  (ValueType.ofCode code).map (r.decode c)

/-- Read cells as values of the given types, one for one. Lists of different lengths are refused
before any cell is read. -/
def decodeAll (r : Registry α) (cells : List Cell) (types : List ValueType) :
    Except BoundaryError (List Value) :=
  if cells.length = types.length then .ok (cells.zipWith r.decode types)
  else .error (.arityMismatch types.length cells.length)

end HostBoundary.Registry
