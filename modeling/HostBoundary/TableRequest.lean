import HostBoundary.Run
import HostBoundary.SlotTable.Basic

/-!
# Requests to a table of references

The requests that a table of values under handles answers, and how a slot table answers them. Each
request leaves the table it was made on, changed or not, for the next one.
-/

namespace HostBoundary

universe u

/-- A request to a table. -/
inductive TableRequest (α : Type u) where
  /-- Keep a value. -/
  | insert (value : α)
  /-- Read the value under a handle. -/
  | get (handle : Handle)
  /-- Ask whether there is a value under a handle. -/
  | contains (handle : Handle)
  /-- Take out the value under a handle. -/
  | remove (handle : Handle)
  /-- Replace the value under a handle. -/
  | overwrite (handle : Handle) (value : α)
  /-- Ask for the number of values. -/
  | size
  /-- Ask whether there is no value. -/
  | isEmpty
  /-- Ask for the number of handles waiting to be used again. -/
  | freeCount
  /-- Ask for the next handle that was never used. -/
  | nextFresh
  deriving DecidableEq

/-- What a table answers. -/
inductive TableAnswer (α : Type u) where
  | handle (handle : Handle)
  | value (value : Option α)
  | flag (flag : Bool)
  | count (count : Nat)
  deriving DecidableEq

variable {α : Type u}

/-- How a slot table answers a request, and the table afterwards. -/
def SlotTable.answer (t : SlotTable α) : TableRequest α → TableAnswer α × SlotTable α
  | .insert a =>
      let (h, next) := t.insert a
      (.handle h, next)
  | .get h => (.value (t.get? h), t)
  | .contains h => (.flag (t.contains h), t)
  | .remove h =>
      let (a, next) := t.remove h
      (.value a, next)
  | .overwrite h a =>
      let (old, next) := t.overwrite h a
      (.value old, next)
  | .size => (.count t.size, t)
  | .isEmpty => (.flag t.isEmpty, t)
  | .freeCount => (.count t.freeCount, t)
  | .nextFresh => (.handle t.nextFresh, t)

/-- How a slot table answers requests in order, and the table afterwards. -/
def SlotTable.run (t : SlotTable α) (requests : List (TableRequest α)) :
    List (TableAnswer α) × SlotTable α :=
  HostBoundary.run SlotTable.answer t requests

end HostBoundary
