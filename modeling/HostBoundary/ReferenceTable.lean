import HostBoundary.TableRequest

/-!
# The abstract table of references

What a table of references is, without slots: the values under their handles, a stack of handles
taken back, and the number of the next handle that was never used. It answers the same requests as a
slot table and is what a slot table implements.
-/

namespace HostBoundary

universe u

/-- A table of references. `bindings` has at most one value for a handle, `reclaimed` are the
handles taken back with the latest first, and `next` is the number of the next handle never used. -/
structure ReferenceTable (α : Type u) where
  bindings : List (Handle × α)
  reclaimed : List Handle
  next : Nat
  deriving DecidableEq

namespace ReferenceTable

variable {α : Type u}

/-- The table with no value, whose first handle is number one. -/
def empty : ReferenceTable α :=
  ⟨[], [], 1⟩

/-- The value bound to a handle. -/
def get? (t : ReferenceTable α) (h : Handle) : Option α :=
  t.bindings.lookup h

/-- Bind a value to the handle taken back last or, if there is none, to the next one never used. -/
def insert (t : ReferenceTable α) (a : α) : Handle × ReferenceTable α :=
  match t.reclaimed with
  | h :: rest => (h, ⟨(h, a) :: t.bindings, rest, t.next⟩)
  | [] =>
      let h : Handle := ⟨UInt64.ofNat t.next⟩
      (h, ⟨(h, a) :: t.bindings, [], t.next + 1⟩)

/-- Remove the binding of a handle and take the handle back; a handle with no binding is left
alone. -/
def remove (t : ReferenceTable α) (h : Handle) : Option α × ReferenceTable α :=
  match t.get? h with
  | some a => (some a, ⟨t.bindings.filter fun b => b.1 != h, h :: t.reclaimed, t.next⟩)
  | none => (none, t)

/-- Bind another value to a handle that has one; a handle with no binding is left alone. -/
def overwrite (t : ReferenceTable α) (h : Handle) (a : α) : Option α × ReferenceTable α :=
  match t.get? h with
  | some old =>
      (some old, { t with bindings := t.bindings.map fun b => if b.1 = h then (h, a) else b })
  | none => (none, t)

/-- How the abstract table answers a request, and the table afterwards. -/
def answer (t : ReferenceTable α) : TableRequest α → TableAnswer α × ReferenceTable α
  | .insert a =>
      let (h, next) := t.insert a
      (.handle h, next)
  | .get h => (.value (t.get? h), t)
  | .contains h => (.flag (t.get? h).isSome, t)
  | .remove h =>
      let (a, next) := t.remove h
      (.value a, next)
  | .overwrite h a =>
      let (old, next) := t.overwrite h a
      (.value old, next)
  | .size => (.count t.bindings.length, t)
  | .isEmpty => (.flag t.bindings.isEmpty, t)
  | .freeCount => (.count t.reclaimed.length, t)
  | .nextFresh => (.handle ⟨UInt64.ofNat t.next⟩, t)

/-- How the abstract table answers requests in order, and the table afterwards. -/
def run (t : ReferenceTable α) (requests : List (TableRequest α)) :
    List (TableAnswer α) × ReferenceTable α :=
  HostBoundary.run ReferenceTable.answer t requests

end ReferenceTable

end HostBoundary
