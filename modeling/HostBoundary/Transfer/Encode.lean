import HostBoundary.Cell.Basic
import HostBoundary.Error
import HostBoundary.Registry.Basic
import HostBoundary.Value

/-!
# Values to cells

Encoding writes a value into a native cell. The plain encoder refuses a reference that has been
released. The encoder of a registry also refuses a live reference whose handle the registry does not
know, so that no reference leaves the host that the engine could not use. Lists are encoded from the
front and stop at the first value refused.
-/

namespace HostBoundary

universe u

/-- Write a value into a cell. A released reference is refused. -/
def Value.encode : Value → Logged (Except BoundaryError Cell)
  | .i32 n => .quiet (.ok (.ofInt32 n))
  | .i64 n => .quiet (.ok (.ofInt64 n))
  | .f32 x => .quiet (.ok (.ofFloat32 x))
  | .f64 x => .quiet (.ok (.ofFloat64 x))
  | .v128 v => .quiet (.ok (.ofVector v))
  | .funcref r => .quiet (.ok (.ofFuncRef r))
  | .externref (.live h) => .quiet (.ok (.ofHandle h))
  | .externref (.released h) => ⟨.error (.releasedReference h), [.releasedRefused h]⟩

/-- Write values into cells with the given encoder, from the front. The first value refused ends the
work: its error is the result, and the values behind it are not looked at. -/
def encodeEach (encode : Value → Logged (Except BoundaryError Cell)) :
    List Value → Logged (Except BoundaryError (List Cell))
  | [] => .quiet (.ok [])
  | v :: vs =>
      match encode v with
      | ⟨.error e, events⟩ => ⟨.error e, events⟩
      | ⟨.ok c, events⟩ =>
          let rest := encodeEach encode vs
          ⟨rest.result.map (c :: ·), events ++ rest.events⟩

/-- Write values into cells; released references are refused. -/
def Value.encodeAll (vs : List Value) : Logged (Except BoundaryError (List Cell)) :=
  encodeEach Value.encode vs

namespace Registry

variable {α : Type u}

/-- Write a value into a cell. A live reference that the registry does not know is refused, and so
is a released one. -/
def encodeChecked (r : Registry α) (v : Value) : Logged (Except BoundaryError Cell) :=
  match v with
  | .externref (.live h) =>
      if r.contains h then v.encode else ⟨.error (.releasedReference h), [.absentRefused h]⟩
  | _ => v.encode

/-- Write values into cells; live references that the registry does not know and released ones are
refused. -/
def encodeAllChecked (r : Registry α) (vs : List Value) :
    Logged (Except BoundaryError (List Cell)) :=
  encodeEach r.encodeChecked vs

end Registry

end HostBoundary
