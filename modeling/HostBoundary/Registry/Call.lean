import HostBoundary.Reply
import HostBoundary.Run
import HostBoundary.Transfer.Decode
import HostBoundary.Transfer.Encode

/-!
# Calls of the host

Everything that the host can ask of a registry, as data, and the answer to it. A call leaves the
registry, changed or not, for the next one.
-/

namespace HostBoundary

universe u v

/-- A call of the host on a registry. Objects have type `α` and kinds type `κ`. -/
inductive RegistryCall (α : Type u) (κ : Type v) where
  /-- Register an object. -/
  | register (object : α)
  /-- Read the object of a handle. -/
  | lookup (handle : Handle)
  /-- Read the object of a handle if it is of a kind. -/
  | lookupOfKind (handle : Handle) (kind : κ)
  /-- Ask whether a handle has an object. -/
  | contains (handle : Handle)
  /-- Release a handle. -/
  | release (handle : Handle)
  /-- Ask for the number of objects. -/
  | size
  /-- Ask whether there is no object. -/
  | isEmpty
  /-- Ask for the next handle never given out. -/
  | nextFresh
  /-- Ask for the diagnostic form. -/
  | diagnostic
  /-- Register an object and get a reference to it. -/
  | issue (object : α)
  /-- Read the object of a reference. -/
  | resolve (ref : ExternRef)
  /-- Read the object of a reference if it is of a kind. -/
  | resolveOfKind (ref : ExternRef) (kind : κ)
  /-- Give up a reference. -/
  | retire (ref : ExternRef)
  /-- Write a value into a cell without asking the registry. -/
  | encode (value : Value)
  /-- Write a value into a cell, its reference checked. -/
  | encodeChecked (value : Value)
  /-- Write values into cells without asking the registry. -/
  | encodeAll (values : List Value)
  /-- Write values into cells, their references checked. -/
  | encodeAllChecked (values : List Value)
  /-- Read a cell as a type. -/
  | decode (cell : Cell) (type : ValueType)
  /-- Read a cell as the type that a byte names. -/
  | decodeByCode (cell : Cell) (code : UInt8)
  /-- Read cells as types. -/
  | decodeAll (cells : List Cell) (types : List ValueType)
  deriving DecidableEq

variable {α : Type u} {κ : Type v}

/-- How a registry answers a call of the host, and the registry afterwards. -/
def Registry.answer [HasKind α κ] [DecidableEq κ] (r : Registry α) :
    RegistryCall α κ → Logged (Reply α) × Registry α
  | .register object =>
      let (h, next) := r.register object
      (h.map .handle, next)
  | .lookup h => ((r.lookup h).map .object, r)
  | .lookupOfKind h k => ((r.lookupOfKind h k).map .object, r)
  | .contains h => (.quiet (.flag (r.contains h)), r)
  | .release h =>
      let (object, next) := r.release h
      (object.map .object, next)
  | .size => (.quiet (.count r.size), r)
  | .isEmpty => (.quiet (.flag r.isEmpty), r)
  | .nextFresh => (.quiet (.handle r.nextFresh), r)
  | .diagnostic => (.quiet (.text r.diagnostic), r)
  | .issue object =>
      let (ref, next) := r.issue object
      (ref.map .reference, next)
  | .resolve ref => ((r.resolve ref).map .object, r)
  | .resolveOfKind ref k => ((r.resolveOfKind ref k).map .object, r)
  | .retire ref =>
      let (released, next) := r.retire ref
      (released.map .reference, next)
  | .encode v => (v.encode.map .cell, r)
  | .encodeChecked v => ((r.encodeChecked v).map .cell, r)
  | .encodeAll vs => ((Value.encodeAll vs).map .cells, r)
  | .encodeAllChecked vs => ((r.encodeAllChecked vs).map .cells, r)
  | .decode c t => (.quiet (.value (r.decode c t)), r)
  | .decodeByCode c code => (.quiet (.decoded (r.decodeByCode c code)), r)
  | .decodeAll cells types => (.quiet (.decodedAll (r.decodeAll cells types)), r)

/-- How a registry answers calls of the host in order, and the registry afterwards. -/
def Registry.run [HasKind α κ] [DecidableEq κ] (r : Registry α) (calls : List (RegistryCall α κ)) :
    List (Logged (Reply α)) × Registry α :=
  HostBoundary.run Registry.answer r calls

end HostBoundary
