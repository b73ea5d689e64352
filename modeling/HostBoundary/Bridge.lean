import HostBoundary.Registry.Call

/-!
# Bridges

A bridge is the view of a registry that an embedding of the engine is given: it makes and gives up
references and moves values both ways, always with the references checked. Bridges may share a
registry; what one does is seen by the others.
-/

namespace HostBoundary

universe u

/-- A call on a bridge. -/
inductive BridgeCall (α : Type u) where
  /-- Register an object and get a reference to it. -/
  | issue (object : α)
  /-- Give up a reference. -/
  | retire (ref : ExternRef)
  /-- Write a value into a cell. -/
  | encode (value : Value)
  /-- Write values into cells. -/
  | encodeAll (values : List Value)
  /-- Read a cell as a type. -/
  | decode (cell : Cell) (type : ValueType)
  /-- Read cells as types. -/
  | decodeAll (cells : List Cell) (types : List ValueType)
  /-- Ask for the diagnostic form. -/
  | diagnostic
  deriving DecidableEq

variable {α : Type u}

/-- The diagnostic form of a bridge, which is that of its registry in a frame. -/
def Registry.bridgeDiagnostic (r : Registry α) : String :=
  "Bridge \x7b registry: " ++ r.diagnostic ++ " \x7d"

/-- How the registry behind a bridge answers a call on the bridge, and the registry afterwards. -/
def Registry.answerBridge (r : Registry α) : BridgeCall α → Logged (Reply α) × Registry α
  | .issue object =>
      let (ref, next) := r.issue object
      (ref.map .reference, next)
  | .retire ref =>
      let (released, next) := r.retire ref
      (released.map .reference, next)
  | .encode v => ((r.encodeChecked v).map .cell, r)
  | .encodeAll vs => ((r.encodeAllChecked vs).map .cells, r)
  | .decode c t => (.quiet (.value (r.decode c t)), r)
  | .decodeAll cells types => (.quiet (.decodedAll (r.decodeAll cells types)), r)
  | .diagnostic => (.quiet (.text r.bridgeDiagnostic), r)

end HostBoundary
