import HostBoundary.Value

/-!
# Integers of the host

The host has more integer types than the boundary has. Each goes across as the value of its width,
reinterpreted in two's complement where the host's type is unsigned: no integer is out of range, and
none is clamped. Address-sized integers have 64 bits, and 128-bit integers go across as vectors.
-/

namespace HostBoundary

/-- An integer of one of the host's types. -/
inductive HostInteger where
  | int32 (n : Int32)
  | uint32 (n : UInt32)
  | int64 (n : Int64)
  | uint64 (n : UInt64)
  /-- A signed integer of the size of an address. -/
  | addressDifference (n : Int64)
  /-- An unsigned integer of the size of an address. -/
  | addressSize (n : UInt64)
  | uint128 (n : BitVec 128)
  deriving DecidableEq

namespace HostInteger

/-- The number of bits of the host's type. -/
def width : HostInteger → Nat
  | .int32 _ | .uint32 _ => 32
  | .int64 _ | .uint64 _ | .addressDifference _ | .addressSize _ => 64
  | .uint128 _ => 128

/-- The integer itself. -/
def toInt : HostInteger → Int
  | .int32 n | .int64 n | .addressDifference n => n.toInt
  | .uint32 n => n.toNat
  | .uint64 n | .addressSize n => n.toNat
  | .uint128 n => n.toNat

/-- The value that carries an integer across the boundary. -/
def toValue : HostInteger → Value
  | .int32 n => .i32 n
  | .uint32 n => .i32 n.toInt32
  | .int64 n | .addressDifference n => .i64 n
  | .uint64 n | .addressSize n => .i64 n.toInt64
  | .uint128 n => .v128 (.ofWord n)

end HostInteger

end HostBoundary
