import HostBoundary.Proofs.History
import HostBoundary.SlotTable.WellFormed
import HostBoundary.TableRequest

/-!
# One request to a slot table

What one request does to a slot table, in the form that arguments about runs need: the outcome of
each operation in each of its cases, the handle that an insertion gives out, the values under the
handles, the number of occupied slots, and the number of slots, which never falls. A table that a
run leaves with fewer than `2 ^ 63` slots therefore had fewer all along, and `WellFormed.run` says
that it is well formed if the run began with a well-formed table.
-/

namespace HostBoundary.SlotTable

universe u

variable {α : Type u} {t : SlotTable α}

/-! ## The cases of the operations -/

/-- An insertion that finds a free handle takes the one on top of the stack. -/
theorem insert_of_free_cons {h : Handle} {rest : List Handle} (hfree : t.free = h :: rest) (a : α) :
    t.insert a = (h, ⟨t.entries.setIfInBounds h.slot (some a), rest, t.size + 1⟩) := by
  unfold insert
  rw [hfree]

/-- An insertion that finds no free handle opens a slot. -/
theorem insert_of_free_nil (hfree : t.free = []) (a : α) :
    t.insert a = (t.nextFresh, ⟨t.entries.push (some a), [], t.size + 1⟩) := by
  unfold insert
  rw [hfree]

/-- Removing a value empties its slot and frees its handle. -/
theorem remove_of_get?_eq_some {h : Handle} {a : α} (ha : t.get? h = some a) :
    t.remove h =
      (some a, ⟨t.entries.setIfInBounds h.slot none, h :: t.free, t.size - 1⟩) := by
  unfold remove
  rw [ha]

/-- Removing nothing changes nothing. -/
theorem remove_of_get?_eq_none {h : Handle} (hnone : t.get? h = none) :
    t.remove h = (none, t) := by
  unfold remove
  rw [hnone]

/-- Overwriting a value changes its slot alone. -/
theorem overwrite_of_get?_eq_some {h : Handle} {old : α} (hold : t.get? h = some old) (a : α) :
    t.overwrite h a =
      (some old, { t with entries := t.entries.setIfInBounds h.slot (some a) }) := by
  unfold overwrite
  rw [hold]

/-- Overwriting nothing changes nothing. -/
theorem overwrite_of_get?_eq_none {h : Handle} (hnone : t.get? h = none) (a : α) :
    t.overwrite h a = (none, t) := by
  unfold overwrite
  rw [hnone]

/-! ## The handle that an insertion gives out -/

/-- There is no value under a free handle. -/
theorem WellFormed.get?_eq_none_of_mem_free (ht : t.WellFormed) {h : Handle} (hmem : h ∈ t.free) :
    t.get? h = none := by
  rw [get?, (ht.mem_free_iff h).1 hmem]
  rfl

/-- A free handle is not null. -/
theorem WellFormed.isNull_eq_false_of_mem_free (ht : t.WellFormed) {h : Handle}
    (hmem : h ∈ t.free) : h.isNull = false :=
  (slot_lt_of_slot? ((ht.mem_free_iff h).1 hmem)).1

/-- The handle that an insertion gives out had no value under it. -/
theorem WellFormed.get?_insert_fst (ht : t.WellFormed) (hsize : t.entries.size < 2 ^ 63) (a : α) :
    t.get? (t.insert a).1 = none := by
  cases hfree : t.free with
  | nil =>
      rw [insert_of_free_nil hfree, get?, slot?_nextFresh hsize]
      rfl
  | cons h rest =>
      rw [insert_of_free_cons hfree]
      exact ht.get?_eq_none_of_mem_free (by simp [hfree])

/-- The handle that an insertion gives out is not null. -/
theorem WellFormed.isNull_insert_fst (ht : t.WellFormed) (hsize : t.entries.size < 2 ^ 63) (a : α) :
    (t.insert a).1.isNull = false := by
  cases hfree : t.free with
  | nil =>
      rw [insert_of_free_nil hfree]
      exact Handle.isNull_ofSlot hsize
  | cons h rest =>
      rw [insert_of_free_cons hfree]
      exact ht.isNull_eq_false_of_mem_free (by simp [hfree])

/-! ## Values under handles -/

/-- After an insertion a value is under a handle if it was inserted there, or if it was there and
nothing was inserted there. -/
theorem WellFormed.get?_insert_eq_some_iff (ht : t.WellFormed) (hsize : t.entries.size < 2 ^ 63)
    (b : α) {h : Handle} {a : α} :
    (t.insert b).2.get? h = some a ↔
      (b = a ∧ h = (t.insert b).1) ∨ t.get? h = some a ∧ h ≠ (t.insert b).1 := by
  rw [get?_insert ht hsize]
  by_cases hh : h = (t.insert b).1
  · rw [if_pos hh, Option.some.injEq]
    refine ⟨fun hab => Or.inl ⟨hab, hh⟩, fun hor => ?_⟩
    rcases hor with ⟨hab, -⟩ | ⟨-, hne⟩
    · exact hab
    · exact absurd hh hne
  · rw [if_neg hh]
    refine ⟨fun ha => Or.inr ⟨ha, hh⟩, fun hor => ?_⟩
    rcases hor with ⟨-, hslot⟩ | ⟨ha, -⟩
    · exact absurd hslot hh
    · exact ha

/-- After a removal a value is under a handle if it was there and the handle is another one. -/
theorem get?_remove_eq_some_iff {h k : Handle} {a : α} :
    (t.remove k).2.get? h = some a ↔ t.get? h = some a ∧ h ≠ k := by
  rw [get?_remove]
  by_cases hh : h = k
  · simp [hh]
  · simp [hh]

/-! ## The number of occupied slots -/

/-- An insertion adds one to the size. -/
@[simp]
theorem size_insert (t : SlotTable α) (a : α) : (t.insert a).2.size = t.size + 1 := by
  cases hfree : t.free with
  | nil => rw [insert_of_free_nil hfree]
  | cons h rest => rw [insert_of_free_cons hfree]

/-- A table with a value under some handle is not empty. -/
theorem WellFormed.size_pos (ht : t.WellFormed) {h : Handle} {a : α} (ha : t.get? h = some a) :
    0 < t.size := by
  obtain ⟨-, hlt, hentry⟩ := slot_lt_of_slot? (get?_eq_some_iff.1 ha)
  rw [ht.size_eq]
  exact Array.countP_pos_iff.2 ⟨t.entries[h.slot], Array.getElem_mem hlt, by simp [hentry]⟩

/-- Removing a value takes one from the size. -/
theorem WellFormed.size_remove (ht : t.WellFormed) {h : Handle} {a : α} (ha : t.get? h = some a) :
    (t.remove h).2.size + 1 = t.size := by
  have hpos := ht.size_pos ha
  rw [remove_of_get?_eq_some ha]
  show t.size - 1 + 1 = t.size
  omega

/-- Different handles that have values under them are at most as many as the table has values. -/
theorem WellFormed.length_le_size (ht : t.WellFormed) {handles : List Handle}
    (hnodup : handles.Nodup) (hused : ∀ h ∈ handles, (t.get? h).isSome = true) :
    handles.length ≤ t.size := by
  have hslot : ∀ h ∈ handles, h.isNull = false ∧ h.slot < t.entries.size ∧
      (t.entries[h.slot]?.join).isSome = true := by
    intro h hmem
    obtain ⟨a, ha⟩ := Option.isSome_iff_exists.1 (hused h hmem)
    obtain ⟨hnull, hlt, hentry⟩ := slot_lt_of_slot? (get?_eq_some_iff.1 ha)
    exact ⟨hnull, hlt, by simp [hlt, hentry]⟩
  have hslots : (handles.map Handle.slot).Nodup := by
    refine hnodup.map_on ?_
    intro h hh k hk hsame
    exact (Handle.slot_inj (hslot h hh).1 (hslot k hk).1).1 hsame
  have hoccupied : handles.map Handle.slot ⊆
      (List.range t.entries.size).filter fun i => (t.entries[i]?.join).isSome := by
    intro i hi
    obtain ⟨h, hmem, rfl⟩ := List.mem_map.1 hi
    rw [List.mem_filter, List.mem_range]
    exact (hslot h hmem).2
  calc handles.length
      = (handles.map Handle.slot).length := (List.length_map _).symm
    _ ≤ ((List.range t.entries.size).filter fun i => (t.entries[i]?.join).isSome).length :=
      (hslots.subperm hoccupied).length_le
    _ = t.size := by
      rw [ht.size_eq, ← Array.countP_toList, toList_entries, List.countP_map,
        List.countP_eq_length_filter]
      rfl

/-- Overwriting keeps the size. -/
@[simp]
theorem size_overwrite (t : SlotTable α) (h : Handle) (a : α) :
    (t.overwrite h a).2.size = t.size := by
  cases hold : t.get? h with
  | none => rw [overwrite_of_get?_eq_none hold]
  | some old => rw [overwrite_of_get?_eq_some hold]

/-! ## The number of slots -/

/-- Removing a value closes no slot. -/
@[simp]
theorem entries_size_remove (t : SlotTable α) (h : Handle) :
    (t.remove h).2.entries.size = t.entries.size := by
  cases ha : t.get? h with
  | none => rw [remove_of_get?_eq_none ha]
  | some a =>
      rw [remove_of_get?_eq_some ha]
      exact Array.size_setIfInBounds

/-- Overwriting opens and closes no slot. -/
@[simp]
theorem entries_size_overwrite (t : SlotTable α) (h : Handle) (a : α) :
    (t.overwrite h a).2.entries.size = t.entries.size := by
  cases hold : t.get? h with
  | none => rw [overwrite_of_get?_eq_none hold]
  | some old =>
      rw [overwrite_of_get?_eq_some hold]
      exact Array.size_setIfInBounds

/-- An insertion closes no slot. -/
theorem entries_size_le_insert (t : SlotTable α) (a : α) :
    t.entries.size ≤ (t.insert a).2.entries.size := by
  cases hfree : t.free with
  | nil =>
      rw [insert_of_free_nil hfree]
      show t.entries.size ≤ (t.entries.push (some a)).size
      rw [Array.size_push]
      omega
  | cons h rest =>
      rw [insert_of_free_cons hfree]
      exact Array.size_setIfInBounds.ge

/-- No request closes a slot. -/
theorem entries_size_le_answer (t : SlotTable α) (request : TableRequest α) :
    t.entries.size ≤ (t.answer request).2.entries.size := by
  cases request with
  | insert a => exact t.entries_size_le_insert a
  | remove h => exact (t.entries_size_remove h).ge
  | overwrite h a => exact (t.entries_size_overwrite h a).ge
  | get | contains | size | isEmpty | freeCount | nextFresh => exact Nat.le_refl _

/-- A table that a request leaves below the limit on slots was below it. -/
theorem entries_size_lt_of_answer {limit : Nat} (t : SlotTable α) (request : TableRequest α)
    (hsize : (t.answer request).2.entries.size < limit) : t.entries.size < limit :=
  Nat.lt_of_le_of_lt (t.entries_size_le_answer request) hsize

/-- Every request keeps a table well formed. -/
theorem WellFormed.answer (ht : t.WellFormed) (hsize : t.entries.size < 2 ^ 63)
    (request : TableRequest α) : (t.answer request).2.WellFormed := by
  cases request with
  | insert a => exact ht.insert hsize a
  | remove h => exact ht.remove h
  | overwrite h a => exact ht.overwrite h a
  | get | contains | size | isEmpty | freeCount | nextFresh => exact ht

/-! ## Runs -/

/-- A run of a table can be cut anywhere. -/
theorem run_append_requests (t : SlotTable α) (first second : List (TableRequest α)) :
    t.run (first ++ second) = ((t.run first).1 ++ ((t.run first).2.run second).1,
      ((t.run first).2.run second).2) :=
  run_append _ _ _

/-- The table after one more request. -/
theorem run_append_request (t : SlotTable α) (requests : List (TableRequest α))
    (request : TableRequest α) :
    (t.run (requests ++ [request])).2 = ((t.run requests).2.answer request).2 :=
  run_append_singleton _ _ _

/-- A run keeps a table well formed if it does not open too many slots. -/
theorem WellFormed.run (ht : t.WellFormed) {requests : List (TableRequest α)}
    (hsize : (t.run requests).2.entries.size < 2 ^ 63) : (t.run requests).2.WellFormed := by
  refine run_invariant_within (fun s => s.entries.size < 2 ^ 63)
    (fun s request => s.entries_size_lt_of_answer request) WellFormed ?_ ht hsize
  intro s request _ hs hgood
  exact hgood.answer hs request

end HostBoundary.SlotTable
