import HostBoundary.Reference

/-!
# Audit events

Operations of the boundary report what they did as events, each about one handle. An operation is a
pure function that gives its result together with the events it emits, in order: a `Logged` result.
-/

namespace HostBoundary

/-- How prominent an event is. -/
inductive Level where
  | trace
  | debug
  deriving DecidableEq

/-- The written form of a level. -/
def Level.text : Level → String
  | .trace => "TRACE"
  | .debug => "DEBUG"

/-- Something that happened to a handle. -/
inductive Event where
  /-- An object was registered under the handle. -/
  | registered (handle : Handle)
  /-- The handle was looked up and names no object. -/
  | lookupMissed (handle : Handle)
  /-- The object of the handle was released. -/
  | released (handle : Handle)
  /-- The handle was released and names no object; nothing was done. -/
  | releaseIgnored (handle : Handle)
  /-- A reference that had been released was kept from crossing the boundary. -/
  | releasedRefused (handle : Handle)
  /-- A live reference that the registry does not know was kept from crossing the boundary. -/
  | absentRefused (handle : Handle)
  deriving DecidableEq

namespace Event

/-- The handle that an event is about. -/
def handle : Event → Handle
  | .registered h | .lookupMissed h | .released h | .releaseIgnored h | .releasedRefused h
  | .absentRefused h => h

/-- The level of an event: refusals and ignored releases stand out. -/
def level : Event → Level
  | .registered _ | .lookupMissed _ | .released _ => .trace
  | .releaseIgnored _ | .releasedRefused _ | .absentRefused _ => .debug

/-- The message of an event. -/
def message : Event → String
  | .registered _ => "extern reference registered"
  | .lookupMissed _ => "extern reference lookup missed"
  | .released _ => "extern reference released"
  | .releaseIgnored _ => "release of absent extern reference ignored"
  | .releasedRefused _ => "refusing to encode released extern reference"
  | .absentRefused _ => "refusing to encode extern reference absent from registry"

end Event

universe u v

/-- A result together with the events emitted on the way to it, in order. -/
structure Logged (β : Type u) where
  result : β
  events : List Event
  deriving DecidableEq

namespace Logged

variable {β : Type u} {γ : Type v}

/-- A result with no event. -/
def quiet (result : β) : Logged β :=
  ⟨result, []⟩

/-- Change the result and keep the events. -/
def map (f : β → γ) (x : Logged β) : Logged γ :=
  ⟨f x.result, x.events⟩

/-- The result of a quiet result is itself. -/
@[simp]
theorem result_quiet (b : β) : (quiet b).result = b := rfl

/-- A quiet result has no event. -/
@[simp]
theorem events_quiet (b : β) : (quiet b).events = [] := rfl

/-- Mapping changes the result. -/
@[simp]
theorem result_map (f : β → γ) (x : Logged β) : (x.map f).result = f x.result := rfl

/-- Mapping keeps the events. -/
@[simp]
theorem events_map (f : β → γ) (x : Logged β) : (x.map f).events = x.events := rfl

end Logged

end HostBoundary
