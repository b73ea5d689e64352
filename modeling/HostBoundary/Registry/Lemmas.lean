import HostBoundary.Registry.Basic
import HostBoundary.SlotTable.WellFormed

/-!
# What the operations of a registry answer and report

The answers of a registry and its state afterwards in terms of its slot table, and the event of a
look-up or a release, if there is one, in terms of whether the handle is registered.
-/

namespace HostBoundary.Registry

universe u

variable {α : Type u}

/-- A handle is registered when its slot holds an object. -/
theorem contains_eq (r : Registry α) (h : Handle) : r.contains h = (r.slots.get? h).isSome := rfl

/-- A handle is not registered when its slot holds no object. -/
theorem contains_eq_false_iff {r : Registry α} {h : Handle} :
    r.contains h = false ↔ r.slots.get? h = none := by
  rw [contains_eq, Option.isSome_eq_false_iff, Option.isNone_iff_eq_none]

/-- In the empty registry no handle is registered. -/
@[simp]
theorem contains_empty (h : Handle) : (empty : Registry α).contains h = false :=
  contains_eq_false_iff.2 (SlotTable.get?_empty h)

/-- A registration gives the handle of the slot that was filled. -/
theorem result_register (r : Registry α) (a : α) :
    (r.register a).1.result = (r.slots.insert a).1 := rfl

/-- A registration fills a slot. -/
theorem slots_register (r : Registry α) (a : α) :
    (r.register a).2.slots = (r.slots.insert a).2 := rfl

/-- A look-up gives what stands in the slot. -/
@[simp]
theorem result_lookup (r : Registry α) (h : Handle) : (r.lookup h).result = r.slots.get? h := by
  unfold lookup
  split <;> simp_all

/-- A reference finds an object exactly when it is live and its handle has the object. -/
theorem result_resolve_eq_some_iff {r : Registry α} {ref : ExternRef} {a : α} :
    (r.resolve ref).result = some a ↔
      ref = .live ref.handle ∧ r.slots.get? ref.handle = some a := by
  cases ref with
  | live h =>
      show (r.lookup h).result = some a ↔ _ ∧ r.slots.get? h = some a
      rw [result_lookup]
      exact (and_iff_right rfl).symm
  | released h => simp [resolve, ExternRef.handle]

/-- A look-up is reported exactly when it finds nothing. -/
theorem events_lookup (r : Registry α) (h : Handle) :
    (r.lookup h).events = if r.contains h then [] else [.lookupMissed h] := by
  rw [contains_eq]
  unfold lookup
  split <;> simp_all

/-- A release gives what stood in the slot. -/
@[simp]
theorem result_release (r : Registry α) (h : Handle) :
    (r.release h).1.result = r.slots.get? h := by
  rw [← SlotTable.remove_fst]
  unfold release
  split <;> simp_all

/-- A release empties the slot. -/
theorem slots_release (r : Registry α) (h : Handle) :
    (r.release h).2.slots = (r.slots.remove h).2 := by
  unfold release
  split <;> simp_all

/-- A release is always reported, and the report tells whether there was an object. -/
theorem events_release (r : Registry α) (h : Handle) :
    (r.release h).1.events = if r.contains h then [.released h] else [.releaseIgnored h] := by
  rw [contains_eq, ← SlotTable.remove_fst]
  unfold release
  split <;> simp_all

end HostBoundary.Registry
