import HostBoundary.Boundary
import HostBoundary.HostObject

/-!
# Sessions

A `Session` is a boundary together with what a user of it has at hand: values kept under names, and
host objects that may be registered more than once. A call whose answer hands out a value can keep
that value under a name.
-/

namespace HostBoundary

/-- A call on a session's boundary. -/
abbrev SessionCall := BoundaryCall HostObject ObjectKind

/-- A boundary and what its user has at hand. -/
structure Session where
  boundary : Boundary HostObject
  objects : Array HostObject
  values : List (String × Value)

namespace Session

/-- The session at its start. -/
def empty : Session :=
  ⟨.empty, #[], []⟩

instance : Inhabited Session := ⟨empty⟩

/-- The value kept under a name. -/
def value? (s : Session) (name : String) : Option Value :=
  s.values.lookup name

/-- Keep a value under a name, in place of any other. -/
def keep (s : Session) (name : String) (v : Value) : Session :=
  { s with values := (name, v) :: s.values.filter fun entry => entry.1 != name }

/-- Put an object at hand; the result is its number. -/
def addObject (s : Session) (object : HostObject) : Nat × Session :=
  (s.objects.size, { s with objects := s.objects.push object })

/-- Make a call and, if a name is given, keep the value that its answer hands out. -/
def perform (s : Session) (call : SessionCall) (name : Option String) :
    Logged (Reply HostObject) × Session :=
  let (reply, boundary) := s.boundary.answer call
  let next := { s with boundary }
  match name, reply.result.value? with
  | some name, some v => (reply, next.keep name v)
  | _, _ => (reply, next)

end Session

end HostBoundary
