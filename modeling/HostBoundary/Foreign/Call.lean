import HostBoundary.Registry.Call

/-!
# Calls of foreign code

Foreign code holds a pointer to a registry, which may be null. It can count, ask and release, but it
cannot register an object. Nothing here fails otherwise than by a status, and a status other than
success leaves everything as it was.
-/

namespace HostBoundary

universe u

/-- A call of foreign code through a pointer to a registry. -/
inductive ForeignCall where
  /-- Ask for the number of objects. -/
  | size
  /-- Ask whether a handle has an object. -/
  | contains (handle : Handle)
  /-- Release a handle. -/
  | release (handle : Handle)
  /-- Ask whether a cell, read as the type that a byte names, is a live reference. `out` is what
  stands behind the pointer that the caller passes for the answer, `none` if it is null. -/
  | isLive (cell : Cell) (code : UInt8) (out : Option Bool)
  deriving DecidableEq

variable {α : Type u}

namespace Foreign

/-- Whether a cell, read as the type that a byte names, is a live reference: the status, and what
then stands behind the caller's pointer. A null registry or a null pointer is found before the byte
is looked at, and only a success writes. -/
def isLive (r : Option (Registry α)) (c : Cell) (code : UInt8) (out : Option Bool) :
    Status × Option Bool :=
  match r, out with
  | some r, some _ =>
      match r.decodeByCode c code with
      | .ok v => (.ok, some (v.externref?.any ExternRef.isLive))
      | .error e => (.ofError e, out)
  | _, _ => (.nullPointer, out)

end Foreign

/-- How the registry behind a pointer answers a call of foreign code, and the registry
afterwards. -/
def Registry.answerForeign (r : Registry α) : ForeignCall → Logged (Reply α) × Registry α
  | .size => (.quiet (.count r.size), r)
  | .contains h => (.quiet (.flag (r.contains h)), r)
  | .release h =>
      let (taken, next) := r.release h
      (taken.map fun _ => .status .ok, next)
  | .isLive c code out =>
      let (status, written) := Foreign.isLive (some r) c code out
      (.quiet (.liveness status written), r)

/-- The answer to a call through a null pointer: nothing is counted, nothing is found, and the
status says that the pointer is null. -/
def Foreign.answerNull : ForeignCall → Reply α
  | .size => .count 0
  | .contains _ => .flag false
  | .release _ => .status .nullPointer
  | .isLive c code out =>
      let (status, written) := Foreign.isLive (none : Option (Registry α)) c code out
      .liveness status written

end HostBoundary
