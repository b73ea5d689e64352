import HostBoundary.Bridge
import HostBoundary.Foreign.Call

/-!
# Access to a registry

A registry is reached by the host itself, through a bridge, or by foreign code through a pointer.
Whichever way a call comes, it is answered by the same registry.
-/

namespace HostBoundary

universe u v

/-- A call that has reached a registry. -/
inductive AccessCall (α : Type u) (κ : Type v) where
  /-- By the host itself. -/
  | host (call : RegistryCall α κ)
  /-- Through a bridge. -/
  | bridge (call : BridgeCall α)
  /-- By foreign code, through a pointer that is not null. -/
  | foreign (call : ForeignCall)
  deriving DecidableEq

variable {α : Type u} {κ : Type v} [HasKind α κ] [DecidableEq κ]

/-- How a registry answers a call that has reached it, and the registry afterwards. -/
def Registry.access (r : Registry α) : AccessCall α κ → Logged (Reply α) × Registry α
  | .host call => r.answer call
  | .bridge call => r.answerBridge call
  | .foreign call => r.answerForeign call

/-- How a registry answers the calls that reach it, in order, and the registry afterwards. -/
def Registry.runAccess (r : Registry α) (calls : List (AccessCall α κ)) :
    List (Logged (Reply α)) × Registry α :=
  HostBoundary.run Registry.access r calls

end HostBoundary
