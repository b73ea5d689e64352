import HostBoundary.Ieee.Basic
import HostBoundary.Reference
import HostBoundary.ValueType
import HostBoundary.Vector128.Basic

/-!
# Values

A `Value` is what the host sees of an argument or a result: a typed scalar, vector or reference.
`Value.equals` is the comparison that the host uses, in which floating-point data are compared by
the standard; equality of values themselves keeps every bit apart.
-/

namespace HostBoundary

open Ieee

/-- A typed value on the host's side of the boundary. -/
inductive Value where
  | i32 (n : Int32)
  | i64 (n : Int64)
  | f32 (x : Datum binary32)
  | f64 (x : Datum binary64)
  | v128 (v : Vector128)
  | funcref (r : FuncRef)
  | externref (r : ExternRef)
  deriving DecidableEq

namespace Value

/-- The type of a value. -/
def type : Value → ValueType
  | .i32 _ => .i32
  | .i64 _ => .i64
  | .f32 _ => .f32
  | .f64 _ => .f64
  | .v128 _ => .v128
  | .funcref _ => .funcref
  | .externref _ => .externref

/-- The number of a 32-bit integer value. -/
def i32? : Value → Option Int32
  | .i32 n => some n
  | _ => none

/-- The number of a 64-bit integer value. -/
def i64? : Value → Option Int64
  | .i64 n => some n
  | _ => none

/-- The datum of a single-precision value. -/
def f32? : Value → Option (Datum binary32)
  | .f32 x => some x
  | _ => none

/-- The datum of a double-precision value. -/
def f64? : Value → Option (Datum binary64)
  | .f64 x => some x
  | _ => none

/-- The vector of a vector value. -/
def v128? : Value → Option Vector128
  | .v128 v => some v
  | _ => none

/-- The function reference of a function reference value. -/
def funcref? : Value → Option FuncRef
  | .funcref r => some r
  | _ => none

/-- The extern reference of an extern reference value. -/
def externref? : Value → Option ExternRef
  | .externref r => some r
  | _ => none

/-- Whether a value is a floating-point NaN. -/
def isNaN : Value → Bool
  | .f32 x => x.isNaN
  | .f64 x => x.isNaN
  | _ => false

/-- Equality as the host compares: values of different types differ, floating-point data compare by
the standard, and anything else equals itself alone. -/
def equals : Value → Value → Bool
  | .i32 a, .i32 b => a == b
  | .i64 a, .i64 b => a == b
  | .f32 a, .f32 b => a.ieeeEq b
  | .f64 a, .f64 b => a.ieeeEq b
  | .v128 a, .v128 b => a == b
  | .funcref a, .funcref b => a == b
  | .externref a, .externref b => a == b
  | _, _ => false

/-- The diagnostic form of what a value carries. Floating-point data have none, since they are kept
as bit patterns and have no decimal form here. -/
def payloadDiagnostic? : Value → Option String
  | .i32 n => some (toString n.toInt)
  | .i64 n => some (toString n.toInt)
  | .f32 _ | .f64 _ => none
  | .v128 v => some v.diagnostic
  | .funcref r => some r.diagnostic
  | .externref r => some r.diagnostic

/-- The diagnostic form of a value: the label of its type and what it carries. -/
def diagnostic? (v : Value) : Option String :=
  v.payloadDiagnostic?.map fun payload => v.type.label ++ "(" ++ payload ++ ")"

/-- Values that compare equal have one type. -/
theorem type_eq_of_equals {a b : Value} (h : a.equals b = true) : a.type = b.type := by
  cases a <;> cases b <;> first | rfl | simp [equals] at h

end Value

end HostBoundary
