import HostBoundary.Registry.Basic

/-!
# Plain host objects

The registry keeps objects of any type. These are the plain ones that a session can name: a text, an
integer, a byte, a string of bytes, and the empty object.
-/

namespace HostBoundary

/-- A plain host object. -/
inductive HostObject where
  | text (text : String)
  | int64 (n : Int64)
  | byte (b : UInt8)
  | bytes (bytes : List UInt8)
  | unit
  deriving DecidableEq

/-- The kind of a plain host object. -/
inductive ObjectKind where
  | text
  | int64
  | byte
  | bytes
  | unit
  deriving DecidableEq

/-- The kind of a plain host object. -/
def HostObject.kind : HostObject → ObjectKind
  | .text _ => .text
  | .int64 _ => .int64
  | .byte _ => .byte
  | .bytes _ => .bytes
  | .unit => .unit

instance : HasKind HostObject ObjectKind := ⟨HostObject.kind⟩

end HostBoundary
