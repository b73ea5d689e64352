import HostBoundary.Cell.Basic
import HostBoundary.Foreign.Status
import HostBoundary.Value

/-!
# Replies

What the calls on registries, bridges and foreign pointers answer, in one type, so that runs that
mix them have one list of answers.
-/

namespace HostBoundary

universe u

/-- The answer to a call. -/
inductive Reply (α : Type u) where
  /-- A handle. -/
  | handle (handle : Handle)
  /-- A host object, if there is one. -/
  | object (object : Option α)
  /-- A yes or no. -/
  | flag (flag : Bool)
  /-- A number of objects. -/
  | count (count : Nat)
  /-- A diagnostic form. -/
  | text (text : String)
  /-- A reference. -/
  | reference (ref : ExternRef)
  /-- A value. -/
  | value (value : Value)
  /-- A cell, or why there is none. -/
  | cell (result : Except BoundaryError Cell)
  /-- Cells, or why there are none. -/
  | cells (result : Except BoundaryError (List Cell))
  /-- A value read under a type code, or why there is none. -/
  | decoded (result : Except BoundaryError Value)
  /-- Values, or why there are none. -/
  | decodedAll (result : Except BoundaryError (List Value))
  /-- The status of a foreign call. -/
  | status (status : Status)
  /-- The status of a foreign question, and what then stands behind the caller's pointer; `none` is
  a null pointer. -/
  | liveness (status : Status) (out : Option Bool)
  /-- The index of something that was made. -/
  | index (index : Nat)
  /-- Nothing to tell. -/
  | done
  /-- The call named something that was never made, and nothing was done. -/
  | unknown
  deriving DecidableEq

namespace Reply

variable {α : Type u}

/-- The value that a reply hands out, if it hands out one. -/
def value? : Reply α → Option Value
  | .reference r => some (.externref r)
  | .value v => some v
  | .decoded (.ok v) => some v
  | _ => none

end Reply

end HostBoundary
