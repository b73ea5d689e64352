import HostBoundary.Registry.Access

/-!
# The boundary

A `Boundary` is all that host and engine share: registries, and the names under which each is
reached, which are host references, bridges and foreign pointers. Several names may stand for one
registry. A call through a name is answered by the registry behind it and reaches no other;
`getElem?_reach_of_ne` is that law for one call.
-/

namespace HostBoundary

universe u v

/-- Registries and the names that stand for them. `hosts`, `bridges` and `pointers` hold positions
in `registries`. A pointer that has been freed must not be used again, and a boundary is one whose
caller keeps to that by setting the pointer to null: this is the `none` among `pointers`. -/
@[ext]
structure Boundary (α : Type u) where
  registries : Array (Registry α)
  hosts : Array Nat
  bridges : Array Nat
  pointers : Array (Option Nat)
  deriving DecidableEq

/-- A call on a boundary. Names are numbered in the order in which they were made, separately for
host references, bridges and pointers; `none` is a null pointer. -/
inductive BoundaryCall (α : Type u) (κ : Type v) where
  /-- Make a registry and a host reference to it. -/
  | newRegistry
  /-- Make a registry and a bridge over it. -/
  | newBridge
  /-- Make a bridge over the registry of a host reference. -/
  | bridgeOver (host : Nat)
  /-- Make another bridge over the registry of a bridge. -/
  | cloneBridge (bridge : Nat)
  /-- Make a host reference to the registry of a bridge. -/
  | registryOf (bridge : Nat)
  /-- Make a registry and a pointer to it. -/
  | newPointer
  /-- Make a pointer to the registry of a host reference. -/
  | pointerTo (host : Nat)
  /-- Free a pointer, which the caller then sets to null. -/
  | freePointer (pointer : Option Nat)
  /-- Call the registry of a host reference. -/
  | onHost (host : Nat) (call : RegistryCall α κ)
  /-- Call a bridge. -/
  | onBridge (bridge : Nat) (call : BridgeCall α)
  /-- Call through a pointer. -/
  | onPointer (pointer : Option Nat) (call : ForeignCall)
  deriving DecidableEq

namespace Boundary

variable {α : Type u} {κ : Type v}

/-- The boundary before anything is made. -/
def empty : Boundary α :=
  ⟨#[], #[], #[], #[]⟩

instance : Inhabited (Boundary α) := ⟨empty⟩

/-- The registry of a host reference. -/
def hostRegistry? (b : Boundary α) (host : Nat) : Option (Registry α) :=
  b.hosts[host]?.bind fun i => b.registries[i]?

/-- The registry of a bridge. -/
def bridgeRegistry? (b : Boundary α) (bridge : Nat) : Option (Registry α) :=
  b.bridges[bridge]?.bind fun i => b.registries[i]?

/-- Add an empty registry; the result is its position. -/
def addRegistry (b : Boundary α) : Nat × Boundary α :=
  (b.registries.size, { b with registries := b.registries.push .empty })

/-- Name a registry by a new host reference. -/
def addHost (b : Boundary α) (i : Nat) : Logged (Reply α) × Boundary α :=
  (.quiet (.index b.hosts.size), { b with hosts := b.hosts.push i })

/-- Name a registry by a new bridge. -/
def addBridge (b : Boundary α) (i : Nat) : Logged (Reply α) × Boundary α :=
  (.quiet (.index b.bridges.size), { b with bridges := b.bridges.push i })

/-- Name a registry by a new pointer. -/
def addPointer (b : Boundary α) (i : Nat) : Logged (Reply α) × Boundary α :=
  (.quiet (.index b.pointers.size), { b with pointers := b.pointers.push (some i) })

/-- Let the registry at a position answer, if there is one, and put back what it becomes. -/
def reach [HasKind α κ] [DecidableEq κ] (b : Boundary α) (i : Option Nat)
    (call : AccessCall α κ) : Logged (Reply α) × Boundary α :=
  match i with
  | none => (.quiet .unknown, b)
  | some i =>
      match b.registries[i]? with
      | none => (.quiet .unknown, b)
      | some r =>
          let (reply, next) := r.access call
          (reply, { b with registries := b.registries.setIfInBounds i next })

/-- Make a name for the position that another name stands for, if it stands for one. -/
def addAlias (b : Boundary α) (i : Option Nat)
    (add : Boundary α → Nat → Logged (Reply α) × Boundary α) : Logged (Reply α) × Boundary α :=
  match i with
  | some i => add b i
  | none => (.quiet .unknown, b)

/-- Free a pointer and set it to null. It is the caller who does the latter: nothing is said of one
who keeps the pointer and uses it, for which there is no answer. Freeing a null pointer does
nothing. -/
def free (b : Boundary α) (pointer : Option Nat) : Boundary α :=
  match pointer with
  | some p => { b with pointers := b.pointers.setIfInBounds p none }
  | none => b

/-- How a boundary answers a call, and the boundary afterwards. -/
def answer [HasKind α κ] [DecidableEq κ] (b : Boundary α) :
    BoundaryCall α κ → Logged (Reply α) × Boundary α
  | .newRegistry =>
      let (i, next) := b.addRegistry
      next.addHost i
  | .newBridge =>
      let (i, next) := b.addRegistry
      next.addBridge i
  | .newPointer =>
      let (i, next) := b.addRegistry
      next.addPointer i
  | .bridgeOver host => b.addAlias b.hosts[host]? addBridge
  | .cloneBridge bridge => b.addAlias b.bridges[bridge]? addBridge
  | .registryOf bridge => b.addAlias b.bridges[bridge]? addHost
  | .pointerTo host => b.addAlias b.hosts[host]? addPointer
  | .freePointer pointer => (.quiet .done, b.free pointer)
  | .onHost host call => b.reach b.hosts[host]? (.host call)
  | .onBridge bridge call => b.reach b.bridges[bridge]? (.bridge call)
  | .onPointer pointer call =>
      match pointer with
      | none => (.quiet (Foreign.answerNull call), b)
      | some p =>
          match b.pointers[p]? with
          | none => (.quiet .unknown, b)
          | some none => (.quiet (Foreign.answerNull call), b)
          | some (some i) => b.reach (some i) (.foreign call : AccessCall α κ)

/-- How a boundary answers calls in order, and the boundary afterwards. -/
def run [HasKind α κ] [DecidableEq κ] (b : Boundary α) (calls : List (BoundaryCall α κ)) :
    List (Logged (Reply α)) × Boundary α :=
  HostBoundary.run Boundary.answer b calls

/-- A call that is answered by one registry leaves every other registry as it is. -/
theorem getElem?_reach_of_ne [HasKind α κ] [DecidableEq κ] {b : Boundary α} {i : Option Nat}
    {j : Nat} {call : AccessCall α κ} (h : i ≠ some j) :
    (b.reach i call).2.registries[j]? = b.registries[j]? := by
  cases i with
  | none => rfl
  | some i =>
      have hij : i ≠ j := fun hij => h (congrArg some hij)
      cases hr : b.registries[i]? with
      | none => simp [reach, hr]
      | some r => simp [reach, hr, Array.getElem?_setIfInBounds_ne hij]

end Boundary

end HostBoundary
