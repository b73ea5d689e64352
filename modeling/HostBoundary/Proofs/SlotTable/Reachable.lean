import HostBoundary.Proofs.SlotTable.Steps

/-!
# Reachable slot tables

Which tables insertions, removals and overwritings lead to from the empty table. The main theorem,
`reachable_iff_parts_agree`, says that they are exactly the tables whose three parts agree, and
that none of the faults that an insertion or a removal could run into happens on them.

One direction is the invariant `WellFormed`. For the other a run is built for every well-formed
table: inserting into it and removing what was inserted gives the table back as long as a handle is
free, so the free handles can be filled one after the other until the table is full, and a full
table is the result of insertions alone.
-/

namespace HostBoundary

universe u

variable {α : Type u}

/-- Whether a request is one of those that can change a table. -/
def TableRequest.isChange : TableRequest α → Bool
  | .insert _ | .remove _ | .overwrite _ _ => true
  | .get _ | .contains _ | .size | .isEmpty | .freeCount | .nextFresh => false

namespace SlotTable

/-- A table that insertions, removals and overwritings lead to from the empty table. -/
def Reachable (t : SlotTable α) : Prop :=
  ∃ requests : List (TableRequest α),
    (∀ request ∈ requests, request.isChange = true) ∧ (empty.run requests).2 = t

/-! ## Faults -/

/-- What an operation on a table could run into if the parts of the table did not agree. -/
inductive Fault where
  /-- The handle on top of the stack is null, so that there is no position before its number. -/
  | nullHandle
  /-- The slot that is to be filled lies outside the table. -/
  | slotOutside
  /-- The slot that is to be filled is occupied. -/
  | slotOccupied
  /-- The size is to be lowered below zero. -/
  | sizeBelowZero
  deriving DecidableEq

/-- Fill the slot at a position, which has to be there and to be empty. -/
def strictFill (t : SlotTable α) (position : Nat) (a : α) :
    Except Fault (Handle × SlotTable α) :=
  match t.entries[position]? with
  | none => .error .slotOutside
  | some (some _) => .error .slotOccupied
  | some none =>
      .ok (.ofSlot position,
        { t with entries := t.entries.setIfInBounds position (some a), size := t.size + 1 })

/-- Insert a value, step by step, and stop at the first fault: find the position of the slot, which
is either that of the handle on top of the stack or a new one at the end, then fill it. -/
def strictInsert (t : SlotTable α) (a : α) : Except Fault (Handle × SlotTable α) :=
  match t.free with
  | h :: rest =>
      if h.number.toNat < 1 then .error .nullHandle
      else strictFill { t with free := rest } (h.number.toNat - 1) a
  | [] =>
      let opened := t.entries.push none
      strictFill { t with entries := opened } (opened.size - 1) a

/-- Remove the value under a handle, step by step, and stop at the first fault. -/
def strictRemove (t : SlotTable α) (h : Handle) : Except Fault (Option α × SlotTable α) :=
  match t.slot? h with
  | some (some a) =>
      if t.size < 1 then .error .sizeBelowZero
      else .ok (some a,
        ⟨t.entries.setIfInBounds h.slot none, h :: t.free, t.size - 1⟩)
  | some none | none => .ok (none, t)

/-- On a well-formed table an insertion runs into no fault. -/
theorem WellFormed.strictInsert_eq_ok {t : SlotTable α} (ht : t.WellFormed) (a : α) :
    t.strictInsert a = .ok (t.insert a) := by
  cases hfree : t.free with
  | nil =>
      -- Opening an empty slot and filling it is what the insertion does in one go.
      have hfill : (t.entries.push none).setIfInBounds t.entries.size (some a) =
          t.entries.push (some a) := by
        apply Array.ext_getElem?
        intro i
        by_cases hi : i = t.entries.size
        · simp [hi]
        · simp [Array.getElem?_push, Array.getElem?_setIfInBounds_ne (Ne.symm hi), hi]
      rw [insert_of_free_nil hfree]
      simp [strictInsert, strictFill, hfree, nextFresh, hfill]
  | cons h rest =>
      have hmem : h ∈ t.free := by simp [hfree]
      have hnull := ht.isNull_eq_false_of_mem_free hmem
      obtain ⟨-, hlt, hentry⟩ := slot_lt_of_slot? ((ht.mem_free_iff h).1 hmem)
      have hpos : ¬ h.number.toNat < 1 := by
        have := Handle.isNull_eq_false_iff.1 hnull
        omega
      have hslot : t.entries[h.slot]? = some none := Array.getElem?_eq_some_iff.2 ⟨hlt, hentry⟩
      unfold strictInsert
      rw [insert_of_free_cons hfree, hfree]
      show (if h.number.toNat < 1 then _ else strictFill _ h.slot a) = _
      rw [if_neg hpos, strictFill, hslot, Handle.ofSlot_slot hnull]

/-- On a well-formed table a removal runs into no fault. -/
theorem WellFormed.strictRemove_eq_ok {t : SlotTable α} (ht : t.WellFormed) (h : Handle) :
    t.strictRemove h = .ok (t.remove h) := by
  unfold strictRemove
  cases hslot : t.slot? h with
  | none => rw [remove_of_get?_eq_none (by rw [get?, hslot]; rfl)]
  | some entry =>
      cases entry with
      | none => rw [remove_of_get?_eq_none (by rw [get?, hslot]; rfl)]
      | some a =>
          have ha : t.get? h = some a := get?_eq_some_iff.2 hslot
          have hpos : ¬ t.size < 1 := by
            have := ht.size_pos ha
            omega
          rw [remove_of_get?_eq_some ha]
          show (if t.size < 1 then _ else _) = _
          rw [if_neg hpos]

/-! ## What reachable tables have in common -/

/-- The empty table is reachable. -/
theorem reachable_empty : (empty : SlotTable α).Reachable :=
  ⟨[], by simp, rfl⟩

/-- A change to a reachable table gives a reachable table. -/
theorem Reachable.answer {t : SlotTable α} (ht : t.Reachable) (request : TableRequest α)
    (hchange : request.isChange = true) : (t.answer request).2.Reachable := by
  obtain ⟨requests, hchanges, rfl⟩ := ht
  refine ⟨requests ++ [request], ?_, run_append_singleton _ _ _⟩
  intro request' hmem
  rcases List.mem_append.1 hmem with hmem | hmem
  · exact hchanges request' hmem
  · rw [List.mem_singleton.1 hmem]
    exact hchange

/-- A reachable table with fewer than `2 ^ 63` slots is well formed. -/
theorem Reachable.wellFormed {t : SlotTable α} (ht : t.Reachable)
    (hsize : t.entries.size < 2 ^ 63) : t.WellFormed := by
  obtain ⟨requests, -, rfl⟩ := ht
  exact wellFormed_empty.run hsize

/-- Without a value to insert no slot is ever opened. -/
theorem Reachable.nonempty_or_entries_eq {t : SlotTable α} (ht : t.Reachable) :
    Nonempty α ∨ t.entries = #[] := by
  obtain ⟨requests, -, rfl⟩ := ht
  -- Only a request that brings a value can open a slot, and such a request shows that there is one.
  refine run_invariant (fun t : SlotTable α => Nonempty α ∨ t.entries = #[]) requests
    (Or.inr rfl) ?_
  intro t ht request _
  cases request with
  | insert a => exact Or.inl ⟨a⟩
  | overwrite h a => exact Or.inl ⟨a⟩
  | remove h =>
      rcases ht with hvalue | hnone
      · exact Or.inl hvalue
      · refine Or.inr (Array.eq_empty_of_size_eq_zero ?_)
        show (t.remove h).2.entries.size = 0
        rw [entries_size_remove, hnone]
        rfl
  | get | contains | size | isEmpty | freeCount | nextFresh => exact ht

/-! ## A run for every well-formed table -/

/-- A full table is the result of inserting its values in order. -/
theorem reachable_full (values : List α) :
    (⟨(values.map some).toArray, [], values.length⟩ : SlotTable α).Reachable := by
  induction values using List.reverseRecOn with
  | nil => exact reachable_empty
  | append_singleton values a ih =>
      have hinsert := ih.answer (.insert a) rfl
      simpa [SlotTable.answer, insert_of_free_nil] using hinsert

/-- A well-formed table with no free handle is full. -/
theorem WellFormed.eq_full {t : SlotTable α} (ht : t.WellFormed) (hsize : t.entries.size < 2 ^ 63)
    (hfree : t.free = []) :
    ∃ values : List α, t = ⟨(values.map some).toArray, [], values.length⟩ := by
  have hcount := ht.size_add_freeCount hsize
  have hoccupied : ∀ entry ∈ t.entries.toList, entry.isSome = true := by
    rw [ht.size_eq, freeCount, hfree] at hcount
    have hall : t.entries.countP Option.isSome = t.entries.size := by simpa using hcount
    simpa using Array.countP_eq_size.1 hall
  -- The values in slot order are those to insert one after the other.
  have hvalues : (t.entries.toList.filterMap id).map some = t.entries.toList := by
    rw [List.map_filterMap_some_eq_filter_map_isSome, List.map_id]
    exact List.filter_eq_self.2 hoccupied
  have hlength : (t.entries.toList.filterMap id).length = t.entries.size := by
    rw [← Array.length_toList, ← hvalues, List.length_map, hvalues]
  refine ⟨t.entries.toList.filterMap id, SlotTable.ext ?_ hfree ?_⟩
  · rw [hvalues, Array.toArray_toList]
  · rw [freeCount, hfree] at hcount
    exact hcount.trans hlength.symm

/-- As long as a handle is free, inserting a value and removing it again changes nothing. -/
theorem WellFormed.remove_insert {t : SlotTable α} (ht : t.WellFormed) {h : Handle}
    {rest : List Handle} (hfree : t.free = h :: rest) (a : α) :
    ((t.insert a).2.remove h).2 = t := by
  have hmem : h ∈ t.free := by simp [hfree]
  have hempty := (ht.mem_free_iff h).1 hmem
  obtain ⟨-, hlt, hentry⟩ := slot_lt_of_slot? hempty
  have hget : (t.insert a).2.get? h = some a := by
    rw [insert_of_free_cons hfree, get?_eq_some_iff, slot?_write (some a) hempty, if_pos rfl]
  rw [remove_of_get?_eq_some hget, insert_of_free_cons hfree]
  refine SlotTable.ext ?_ hfree.symm (Nat.add_sub_cancel t.size 1)
  show (t.entries.setIfInBounds h.slot (some a)).setIfInBounds h.slot none = t.entries
  rw [Array.setIfInBounds_setIfInBounds, Array.setIfInBounds, dif_pos hlt, ← hentry]
  exact Array.set_getElem_self hlt

/-- Every well-formed table with fewer than `2 ^ 63` slots is reachable. The induction is on the
stack of free handles: what its top handle would be given is removed last. -/
theorem WellFormed.reachable {t : SlotTable α} (ht : t.WellFormed)
    (hsize : t.entries.size < 2 ^ 63) (hvalue : Nonempty α ∨ t.entries = #[]) : t.Reachable := by
  induction hfree : t.free generalizing t with
  | nil =>
      obtain ⟨values, rfl⟩ := ht.eq_full hsize hfree
      exact reachable_full values
  | cons h rest ih =>
      have hmem : h ∈ t.free := by simp [hfree]
      obtain ⟨-, hlt, -⟩ := slot_lt_of_slot? ((ht.mem_free_iff h).1 hmem)
      rcases hvalue with ⟨⟨a⟩⟩ | hnone
      -- Any value will do, as it is removed again.
      · have hslots : (t.insert a).2.entries.size = t.entries.size := by
          rw [insert_of_free_cons hfree]
          exact Array.size_setIfInBounds
        have hrest : (t.insert a).2.free = rest := by
          rw [insert_of_free_cons hfree]
        have hfilled : (t.insert a).2.Reachable :=
          ih (ht.insert hsize a) (by rw [hslots]; exact hsize) (Or.inl ⟨a⟩) hrest
        have hremoved := hfilled.answer (.remove h) rfl
        rw [← ht.remove_insert hfree a]
        exact hremoved
      · rw [hnone] at hlt
        exact absurd hlt (Nat.not_lt_zero _)

/-- The tables that changes lead to from the empty table are exactly those whose parts agree: no
handle is free twice, the free handles are those of the empty slots, and the size is the number of
occupied slots. (A table of a type with no value has no slot.) On each of them the slots are the
occupied and the free ones, the null handle is neither in use nor free, and insertions and removals
run into no fault. -/
theorem reachable_iff_parts_agree (t : SlotTable α) (hsize : t.entries.size < 2 ^ 63) :
    (t.Reachable ↔
      (t.free.Nodup ∧
        (∀ h : Handle, h ∈ t.free ↔
          1 ≤ h.number.toNat ∧ h.number.toNat ≤ t.entries.size ∧
            t.entries[h.number.toNat - 1]? = some none) ∧
        t.size = t.entries.countP Option.isSome) ∧
      (Nonempty α ∨ t.entries = #[])) ∧
    (t.Reachable →
      t.size + t.freeCount + 1 = t.nextFresh.number.toNat ∧
      (t.contains .null = false ∧ Handle.null ∉ t.free) ∧
      (∀ a, t.strictInsert a = .ok (t.insert a)) ∧
      ∀ h, t.strictRemove h = .ok (t.remove h)) := by
  refine ⟨⟨fun ht => ?_, fun hparts => ?_⟩, fun ht => ?_⟩
  · obtain ⟨hnodup, hmem, hcount⟩ := ht.wellFormed hsize
    refine ⟨⟨hnodup, fun h => ?_, hcount⟩, ht.nonempty_or_entries_eq⟩
    rw [hmem, slot?_eq_some_iff]
  · obtain ⟨⟨hnodup, hmem, hcount⟩, hvalue⟩ := hparts
    have hwell : t.WellFormed := by
      refine ⟨hnodup, fun h => ?_, hcount⟩
      rw [hmem, slot?_eq_some_iff]
    exact hwell.reachable hsize hvalue
  · have hwell := ht.wellFormed hsize
    refine ⟨?_, ⟨rfl, ?_⟩, hwell.strictInsert_eq_ok, hwell.strictRemove_eq_ok⟩
    · rw [hwell.size_add_freeCount hsize, nextFresh, Handle.toNat_ofSlot hsize]
    · intro hnull
      have := hwell.isNull_eq_false_of_mem_free hnull
      exact absurd this (by decide)

/-- A table with one occupied slot between two free ones is reachable, and the next insertion goes
to the handle freed last. -/
theorem reachable_with_two_free :
    (⟨#[none, some 7, none], [⟨3⟩, ⟨1⟩], 1⟩ : SlotTable Nat).entries.size < 2 ^ 63 ∧
      (⟨#[none, some 7, none], [⟨3⟩, ⟨1⟩], 1⟩ : SlotTable Nat).Reachable ∧
      (⟨#[none, some 7, none], [⟨3⟩, ⟨1⟩], 1⟩ : SlotTable Nat).strictInsert 8 =
        .ok (⟨3⟩, ⟨#[none, some 7, some 8], [⟨1⟩], 2⟩) := by
  have hsize : (⟨#[none, some 7, none], [⟨3⟩, ⟨1⟩], 1⟩ : SlotTable Nat).entries.size < 2 ^ 63 := by
    decide
  have hreach : (⟨#[none, some 7, none], [⟨3⟩, ⟨1⟩], 1⟩ : SlotTable Nat).Reachable :=
    ⟨[.insert 5, .insert 7, .insert 9, .remove ⟨1⟩, .remove ⟨3⟩], by decide, rfl⟩
  refine ⟨hsize, hreach, ?_⟩
  exact ((reachable_iff_parts_agree _ hsize).2 hreach).2.2.1 8

end SlotTable

end HostBoundary
