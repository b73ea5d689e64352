import HostBoundary.Reference

/-!
# Slot tables

A `SlotTable` keeps values under handles. Handle `h` stands for the slot at position `h - 1` of a
dense array, so the null handle stands for none. A removed value leaves its slot empty and its
handle on a stack; an insertion takes the handle on top of that stack and opens a new slot only when
the stack is empty.
-/

namespace HostBoundary

universe u

/-- The position of the slot that a handle stands for; the null handle stands for none. -/
def Handle.slot (h : Handle) : Nat :=
  h.number.toNat - 1

/-- The handle that stands for the slot at a position. -/
def Handle.ofSlot (position : Nat) : Handle :=
  ⟨UInt64.ofNat (position + 1)⟩

/-- A dense table of values under handles. `entries` are the slots, `free` the handles of empty
slots with the next to be used first, and `size` the number of occupied slots. -/
@[ext]
structure SlotTable (α : Type u) where
  entries : Array (Option α)
  free : List Handle
  size : Nat
  deriving DecidableEq

namespace SlotTable

variable {α : Type u}

/-- The table with no slot. -/
def empty : SlotTable α :=
  ⟨#[], [], 0⟩

instance : Inhabited (SlotTable α) := ⟨empty⟩

/-- The slot of a handle, if the table has opened it, which is empty or holds a value. -/
def slot? (t : SlotTable α) (h : Handle) : Option (Option α) :=
  if h.isNull then none else t.entries[h.slot]?

/-- The value under a handle. -/
def get? (t : SlotTable α) (h : Handle) : Option α :=
  (t.slot? h).join

/-- Whether there is a value under a handle. -/
def contains (t : SlotTable α) (h : Handle) : Bool :=
  (t.get? h).isSome

/-- Whether no slot is occupied. -/
def isEmpty (t : SlotTable α) : Bool :=
  t.size == 0

/-- The number of handles waiting to be used again. -/
def freeCount (t : SlotTable α) : Nat :=
  t.free.length

/-- The handle of the next slot to be opened. -/
def nextFresh (t : SlotTable α) : Handle :=
  .ofSlot t.entries.size

/-- Keep a value: under the handle freed last or, if none is free, in a new slot. -/
def insert (t : SlotTable α) (a : α) : Handle × SlotTable α :=
  match t.free with
  | h :: rest => (h, ⟨t.entries.setIfInBounds h.slot (some a), rest, t.size + 1⟩)
  | [] => (t.nextFresh, ⟨t.entries.push (some a), [], t.size + 1⟩)

/-- Take the value under a handle out of the table and free the handle. A handle with no value
under it is left alone. -/
def remove (t : SlotTable α) (h : Handle) : Option α × SlotTable α :=
  match t.get? h with
  | some a => (some a, ⟨t.entries.setIfInBounds h.slot none, h :: t.free, t.size - 1⟩)
  | none => (none, t)

/-- Replace the value under a handle and give the one that was there. A handle with no value under
it is left alone. -/
def overwrite (t : SlotTable α) (h : Handle) (a : α) : Option α × SlotTable α :=
  match t.get? h with
  | some old => (some old, { t with entries := t.entries.setIfInBounds h.slot (some a) })
  | none => (none, t)

/-- The values with their handles, in the order of the handles. -/
def toList (t : SlotTable α) : List (Handle × α) :=
  t.entries.toList.zipIdx.filterMap fun (entry, position) =>
    entry.map fun a => (Handle.ofSlot position, a)

/-- The diagnostic form of an entry, given that of a value. -/
def entryDiagnostic (render : α → String) : Option α → String
  | some a => "Some(" ++ render a ++ ")"
  | none => "None"

/-- The diagnostic form of a table, given that of a value: the slots in order, the freed handles
from the oldest to the newest, and the number of occupied slots. -/
def diagnostic (render : α → String) (t : SlotTable α) : String :=
  "Slots \x7b entries: [" ++ ", ".intercalate (t.entries.toList.map (entryDiagnostic render)) ++
    "], free: [" ++ ", ".intercalate (t.free.reverse.map Handle.diagnostic) ++
    "], len: " ++ toString t.size ++ " \x7d"

end SlotTable

end HostBoundary
