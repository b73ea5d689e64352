import HostBoundary.Event
import HostBoundary.SlotTable.Basic

/-!
# Registries of host objects

A `Registry` makes host objects visible to the engine as handles. The engine only ever sees the
handle; the object stays with the host, which reads it back by the handle and takes it back when the
handle is released. Every operation is one atomic step on the whole registry and emits at most one
event.
-/

namespace HostBoundary

universe u v

/-- Objects whose concrete kind can be asked for. -/
class HasKind (α : Type u) (κ : outParam (Type v)) where
  /-- The kind of an object. -/
  kind : α → κ

/-- A registry of host objects. -/
@[ext]
structure Registry (α : Type u) where
  slots : SlotTable α
  deriving DecidableEq

namespace Registry

variable {α : Type u} {κ : Type v}

/-- The registry with no object. -/
def empty : Registry α :=
  ⟨.empty⟩

instance : Inhabited (Registry α) := ⟨empty⟩

/-- The number of registered objects. -/
def size (r : Registry α) : Nat :=
  r.slots.size

/-- Whether no object is registered. -/
def isEmpty (r : Registry α) : Bool :=
  r.slots.isEmpty

/-- The next handle that was never given out. -/
def nextFresh (r : Registry α) : Handle :=
  r.slots.nextFresh

/-- Whether an object is registered under a handle. Asking is not an event. -/
def contains (r : Registry α) (h : Handle) : Bool :=
  r.slots.contains h

/-- Register an object; the result is its handle. -/
def register (r : Registry α) (object : α) : Logged Handle × Registry α :=
  let (h, slots) := r.slots.insert object
  (⟨h, [.registered h]⟩, ⟨slots⟩)

/-- The object registered under a handle. -/
def lookup (r : Registry α) (h : Handle) : Logged (Option α) :=
  match r.slots.get? h with
  | some object => .quiet (some object)
  | none => ⟨none, [.lookupMissed h]⟩

/-- Keep an object only if it is of the given kind. -/
def ofKind [HasKind α κ] [DecidableEq κ] (k : κ) (found : Option α) : Option α :=
  found.filter fun object => HasKind.kind object = k

/-- The object registered under a handle, if it is of the given kind. An object of another kind is
no event. -/
def lookupOfKind [HasKind α κ] [DecidableEq κ] (r : Registry α) (h : Handle) (k : κ) :
    Logged (Option α) :=
  (r.lookup h).map (ofKind k)

/-- Release a handle; the result is the object that was registered under it. Releasing a handle
with no object under it changes nothing. -/
def release (r : Registry α) (h : Handle) : Logged (Option α) × Registry α :=
  match r.slots.remove h with
  | (some object, slots) => (⟨some object, [.released h]⟩, ⟨slots⟩)
  | (none, slots) => (⟨none, [.releaseIgnored h]⟩, ⟨slots⟩)

/-! ## References -/

/-- Register an object and give a live reference to it. -/
def issue (r : Registry α) (object : α) : Logged ExternRef × Registry α :=
  let (h, next) := r.register object
  (h.map .live, next)

/-- The object of a live reference. A released reference has none, whatever is registered under its
handle by now. -/
def resolve (r : Registry α) : ExternRef → Logged (Option α)
  | .live h => r.lookup h
  | .released _ => .quiet none

/-- The object of a live reference, if it is of the given kind. -/
def resolveOfKind [HasKind α κ] [DecidableEq κ] (r : Registry α) (ref : ExternRef) (k : κ) :
    Logged (Option α) :=
  (r.resolve ref).map (ofKind k)

/-- Give up a reference; the result is the reference in its released form. A live reference releases
its handle, a released one does nothing. -/
def retire (r : Registry α) : ExternRef → Logged ExternRef × Registry α
  | .live h =>
      let (taken, next) := r.release h
      (taken.map fun _ => .released h, next)
  | .released h => (.quiet (.released h), r)

/-- The diagnostic form of a registry: how many objects it holds, how many handles wait to be used
again, and the next handle never given out. -/
def diagnostic (r : Registry α) : String :=
  "ExternRegistry \x7b live: " ++ toString r.size ++ ", free: " ++ toString r.slots.freeCount ++
    ", next: " ++ r.nextFresh.diagnostic ++ " \x7d"

end Registry

end HostBoundary
