import HostBoundary.Proofs.SlotTable.Steps
import HostBoundary.ReferenceTable

/-!
# Slot tables implement reference tables

A slot table `Represents` a reference table when both have the same value under every handle, the
same stack of handles taken back, and the next slot to be opened has the number of the next handle
never used. Related tables answer every request alike and are left related (`Represents.answer`), so
`run_refines_reference` says that from the empty tables on nobody can tell the two apart.
-/

namespace HostBoundary

universe u

variable {α : Type u}

/-! ## Finite maps as lists of bindings -/

section Bindings

variable {bindings : List (Handle × α)}

/-- The first binding decides for its own handle, the others for the rest. -/
theorem lookup_cons_eq_ite (bindings : List (Handle × α)) (h k : Handle) (a : α) :
    ((h, a) :: bindings).lookup k = if k = h then some a else bindings.lookup k := by
  by_cases hk : k = h
  · simp [hk]
  · have hbeq : (k == h) = false := by simpa using hk
    rw [List.lookup_cons, hbeq, if_neg hk]

/-- Removing the bindings of a handle leaves those of all others. -/
theorem lookup_filter_bne (bindings : List (Handle × α)) (h k : Handle) :
    (bindings.filter fun b => b.1 != h).lookup k =
      if k = h then none else bindings.lookup k := by
  induction bindings with
  | nil => simp
  | cons b bindings ih =>
      rcases b with ⟨i, a⟩
      by_cases hi : i = h
      · subst hi
        rw [List.filter_cons_of_neg (by simp), ih, lookup_cons_eq_ite]
        by_cases hk : k = i
        · rw [if_pos hk, if_pos hk]
        · rw [if_neg hk, if_neg hk, if_neg hk]
      · rw [List.filter_cons_of_pos (by simpa using hi), lookup_cons_eq_ite, lookup_cons_eq_ite,
          ih]
        by_cases hk : k = i
        · simp [hk, hi]
        · rw [if_neg hk, if_neg hk]

/-- Replacing the value bound to a handle leaves the values bound to all others. -/
theorem lookup_map_replace (bindings : List (Handle × α)) (h k : Handle) (a : α) :
    (bindings.map fun b => if b.1 = h then (h, a) else b).lookup k =
      if k = h ∧ (bindings.lookup h).isSome then some a else bindings.lookup k := by
  induction bindings with
  | nil => simp
  | cons b bindings ih =>
      rcases b with ⟨i, old⟩
      rw [List.map_cons]
      by_cases hi : i = h
      · subst hi
        rw [if_pos rfl, lookup_cons_eq_ite, lookup_cons_eq_ite, lookup_cons_eq_ite, ih]
        by_cases hk : k = i <;> simp [hk]
      · have hne : ¬ h = i := fun hh => hi hh.symm
        rw [if_neg hi, lookup_cons_eq_ite, lookup_cons_eq_ite, lookup_cons_eq_ite, ih,
          if_neg hne]
        by_cases hk : k = i
        · simp [hk, hi]
        · rw [if_neg hk, if_neg hk]

/-- Replacing the value bound to a handle changes no handle. -/
theorem map_fst_map_replace (bindings : List (Handle × α)) (h : Handle) (a : α) :
    (bindings.map fun b => if b.1 = h then (h, a) else b).map Prod.fst =
      bindings.map Prod.fst := by
  rw [List.map_map]
  apply List.map_congr_left
  intro b _
  by_cases hb : b.1 = h
  · simp [hb]
  · simp [hb]

/-- Where no handle is bound twice, removing a handle that is bound removes one binding. -/
theorem length_filter_bne (hnodup : (bindings.map Prod.fst).Nodup) {h : Handle} {a : α}
    (ha : bindings.lookup h = some a) :
    (bindings.filter fun b => b.1 != h).length + 1 = bindings.length := by
  have hmem : h ∈ bindings.map Prod.fst := by
    obtain ⟨before, after, hsplit, -⟩ := List.lookup_eq_some_iff.1 ha
    simp [hsplit]
  have hone : bindings.countP (fun b => b.1 == h) = 1 := by
    have hcount := List.count_eq_one_of_mem hnodup hmem
    rw [List.count, List.countP_map] at hcount
    exact hcount
  have hsplit := List.length_eq_countP_add_countP (fun b : Handle × α => b.1 == h) (l := bindings)
  have hrest : (fun b : Handle × α => decide ¬ (b.1 == h) = true) = fun b => b.1 != h := by
    funext b
    by_cases hb : b.1 = h <;> simp [hb]
  rw [hone, hrest, List.countP_eq_length_filter] at hsplit
  omega

end Bindings

/-! ## The operations of a reference table -/

namespace ReferenceTable

/-- An insertion that finds no handle taken back uses the next one never used. -/
theorem insert_of_reclaimed_nil {r : ReferenceTable α} (hreclaimed : r.reclaimed = []) (a : α) :
    r.insert a =
      (⟨UInt64.ofNat r.next⟩, ⟨(⟨UInt64.ofNat r.next⟩, a) :: r.bindings, [], r.next + 1⟩) := by
  unfold insert
  rw [hreclaimed]

/-- An insertion that finds a handle taken back uses the latest one. -/
theorem insert_of_reclaimed_cons {r : ReferenceTable α} {h : Handle} {rest : List Handle}
    (hreclaimed : r.reclaimed = h :: rest) (a : α) :
    r.insert a = (h, ⟨(h, a) :: r.bindings, rest, r.next⟩) := by
  unfold insert
  rw [hreclaimed]

/-- An insertion adds one binding, for the handle that it gives out. -/
theorem bindings_insert (r : ReferenceTable α) (a : α) :
    (r.insert a).2.bindings = ((r.insert a).1, a) :: r.bindings := by
  cases hreclaimed : r.reclaimed with
  | nil => rw [insert_of_reclaimed_nil hreclaimed]
  | cons h rest => rw [insert_of_reclaimed_cons hreclaimed]

/-- After an insertion the value is under the handle that was given out, and nothing else
changed. -/
theorem get?_insert (r : ReferenceTable α) (a : α) (k : Handle) :
    (r.insert a).2.get? k = if k = (r.insert a).1 then some a else r.get? k := by
  rw [get?, bindings_insert, lookup_cons_eq_ite]
  rfl

end ReferenceTable

namespace SlotTable

/-- A slot table and a reference table that cannot be told apart. -/
structure Represents (t : SlotTable α) (r : ReferenceTable α) : Prop where
  /-- The parts of the slot table agree. -/
  wellFormed : t.WellFormed
  /-- Both have the same value under every handle. -/
  get?_eq : ∀ h, t.get? h = r.get? h
  /-- No handle is bound twice. -/
  nodup_bindings : (r.bindings.map Prod.fst).Nodup
  /-- The size is the number of bindings. -/
  length_bindings : r.bindings.length = t.size
  /-- The free handles are those taken back, in the same order. -/
  reclaimed_eq : r.reclaimed = t.free
  /-- The next slot has the number of the next handle never used. -/
  next_eq : r.next = t.entries.size + 1

/-- The empty tables are related. -/
theorem represents_empty : Represents (empty : SlotTable α) .empty where
  wellFormed := wellFormed_empty
  get?_eq h := by simp [ReferenceTable.get?, ReferenceTable.empty]
  nodup_bindings := List.nodup_nil
  length_bindings := rfl
  reclaimed_eq := rfl
  next_eq := rfl

variable {t : SlotTable α} {r : ReferenceTable α}

/-- Related tables open the same next handle. -/
theorem Represents.nextFresh_eq (hr : t.Represents r) : t.nextFresh = ⟨UInt64.ofNat r.next⟩ := by
  rw [hr.next_eq]
  rfl

/-- Related tables give out the same handle, and keep the same stack and the same counter. -/
theorem Represents.insert_handles (hr : t.Represents r) (a : α) :
    (t.insert a).1 = (r.insert a).1 ∧
      (r.insert a).2.reclaimed = (t.insert a).2.free ∧
      (r.insert a).2.next = (t.insert a).2.entries.size + 1 := by
  cases hfree : t.free with
  | nil =>
      have hreclaimed : r.reclaimed = [] := hr.reclaimed_eq.trans hfree
      rw [insert_of_free_nil hfree, ReferenceTable.insert_of_reclaimed_nil hreclaimed]
      refine ⟨hr.nextFresh_eq, rfl, ?_⟩
      show r.next + 1 = (t.entries.push (some a)).size + 1
      rw [hr.next_eq, Array.size_push]
  | cons h rest =>
      have hreclaimed : r.reclaimed = h :: rest := hr.reclaimed_eq.trans hfree
      rw [insert_of_free_cons hfree, ReferenceTable.insert_of_reclaimed_cons hreclaimed]
      refine ⟨rfl, rfl, ?_⟩
      show r.next = (t.entries.setIfInBounds h.slot (some a)).size + 1
      rw [hr.next_eq, Array.size_setIfInBounds]

/-- An insertion leaves related tables related. -/
theorem Represents.insert (hr : t.Represents r) (hsize : t.entries.size < 2 ^ 63) (a : α) :
    (t.insert a).2.Represents (r.insert a).2 := by
  obtain ⟨hhandle, hreclaimed, hnext⟩ := hr.insert_handles a
  -- Insertions put a binding in front without a look at the others, so none may be there yet.
  have hunbound : r.bindings.lookup (r.insert a).1 = none := by
    have hvacant := hr.wellFormed.get?_insert_fst hsize a
    rw [hhandle, hr.get?_eq] at hvacant
    exact hvacant
  refine ⟨hr.wellFormed.insert hsize a, fun k => ?_, ?_, ?_, hreclaimed, hnext⟩
  · rw [get?_insert hr.wellFormed hsize, ReferenceTable.get?_insert, hhandle, hr.get?_eq]
  · rw [ReferenceTable.bindings_insert, List.map_cons, List.nodup_cons]
    refine ⟨?_, hr.nodup_bindings⟩
    intro hmem
    obtain ⟨b, hb, hkey⟩ := List.mem_map.1 hmem
    have hne := List.lookup_eq_none_iff.1 hunbound b hb
    simp [hkey] at hne
  · rw [ReferenceTable.bindings_insert, List.length_cons, hr.length_bindings, size_insert]

/-- Related tables give back the same value, and removing it leaves them related. -/
theorem Represents.remove (hr : t.Represents r) (h : Handle) :
    (t.remove h).1 = (r.remove h).1 ∧ (t.remove h).2.Represents (r.remove h).2 := by
  cases ha : t.get? h with
  | none =>
      have hnone : r.get? h = none := (hr.get?_eq h).symm.trans ha
      rw [remove_of_get?_eq_none ha, ReferenceTable.remove, hnone]
      exact ⟨rfl, hr⟩
  | some a =>
      have hsome : r.get? h = some a := (hr.get?_eq h).symm.trans ha
      have hsize := hr.wellFormed.size_remove ha
      have hwell := hr.wellFormed.remove h
      have hget := get?_remove t h
      rw [remove_of_get?_eq_some ha] at hsize hwell hget ⊢
      rw [ReferenceTable.remove, hsome]
      refine ⟨rfl, hwell, fun k => ?_, ?_, ?_, ?_, ?_⟩
      · rw [hget, hr.get?_eq]
        exact (lookup_filter_bne r.bindings h k).symm
      · exact hr.nodup_bindings.sublist (List.filter_sublist.map Prod.fst)
      -- The handle is bound once, so that one binding goes as one is taken from the size.
      · have hlength := length_filter_bne hr.nodup_bindings hsome
        have hbindings := hr.length_bindings
        show (r.bindings.filter fun b => b.1 != h).length = t.size - 1
        omega
      · show h :: r.reclaimed = h :: t.free
        rw [hr.reclaimed_eq]
      · show r.next = (t.entries.setIfInBounds h.slot none).size + 1
        rw [Array.size_setIfInBounds, hr.next_eq]

/-- Related tables give back the same old value, and overwriting it leaves them related. -/
theorem Represents.overwrite (hr : t.Represents r) (h : Handle) (a : α) :
    (t.overwrite h a).1 = (r.overwrite h a).1 ∧
      (t.overwrite h a).2.Represents (r.overwrite h a).2 := by
  cases hold : t.get? h with
  | none =>
      have hnone : r.get? h = none := (hr.get?_eq h).symm.trans hold
      rw [overwrite_of_get?_eq_none hold, ReferenceTable.overwrite, hnone]
      exact ⟨rfl, hr⟩
  | some old =>
      have hsome : r.get? h = some old := (hr.get?_eq h).symm.trans hold
      have hwell := hr.wellFormed.overwrite h a
      have hget := get?_overwrite t h a
      rw [overwrite_of_get?_eq_some hold] at hwell hget ⊢
      rw [ReferenceTable.overwrite, hsome]
      refine ⟨rfl, hwell, fun k => ?_, ?_, ?_, hr.reclaimed_eq, ?_⟩
      · rw [hget, hr.get?_eq, hr.get?_eq]
        exact (lookup_map_replace r.bindings h k a).symm
      · rw [map_fst_map_replace]
        exact hr.nodup_bindings
      · rw [List.length_map]
        exact hr.length_bindings
      · show r.next = (t.entries.setIfInBounds h.slot (some a)).size + 1
        rw [Array.size_setIfInBounds, hr.next_eq]

/-- Related tables answer every request alike and are left related. -/
theorem Represents.answer (hr : t.Represents r) (hsize : t.entries.size < 2 ^ 63)
    (request : TableRequest α) :
    (t.answer request).1 = (r.answer request).1 ∧
      (t.answer request).2.Represents (r.answer request).2 := by
  cases request with
  | insert a =>
      obtain ⟨hhandle, -, -⟩ := hr.insert_handles a
      exact ⟨congrArg TableAnswer.handle hhandle, hr.insert hsize a⟩
  | get h => exact ⟨congrArg TableAnswer.value (hr.get?_eq h), hr⟩
  | contains h =>
      refine ⟨?_, hr⟩
      show TableAnswer.flag (t.get? h).isSome = .flag (r.get? h).isSome
      rw [hr.get?_eq]
  | remove h =>
      obtain ⟨hvalue, hrelated⟩ := hr.remove h
      exact ⟨congrArg TableAnswer.value hvalue, hrelated⟩
  | overwrite h a =>
      obtain ⟨hvalue, hrelated⟩ := hr.overwrite h a
      exact ⟨congrArg TableAnswer.value hvalue, hrelated⟩
  | size => exact ⟨congrArg TableAnswer.count hr.length_bindings.symm, hr⟩
  | isEmpty =>
      refine ⟨?_, hr⟩
      show TableAnswer.flag (t.size == 0) = .flag r.bindings.isEmpty
      rw [← hr.length_bindings]
      cases r.bindings <;> rfl
  | freeCount =>
      refine ⟨?_, hr⟩
      show TableAnswer.count t.free.length = .count r.reclaimed.length
      rw [hr.reclaimed_eq]
  | nextFresh => exact ⟨congrArg TableAnswer.handle hr.nextFresh_eq, hr⟩

/-- From the empty tables on, a slot table and a reference table give the same answers to the same
requests and end related, as long as the slot table has fewer than `2 ^ 63` slots in the end. -/
theorem run_refines_reference (requests : List (TableRequest α))
    (hsize : ((empty : SlotTable α).run requests).2.entries.size < 2 ^ 63) :
    (empty.run requests).1 = (ReferenceTable.empty.run requests).1 ∧
      (empty.run requests).2.Represents (ReferenceTable.empty.run requests).2 := by
  refine run_simulation_within (fun t : SlotTable α => t.entries.size < 2 ^ 63)
    (fun t request => t.entries_size_lt_of_answer request) ?_ represents_empty hsize
  intro t r request ht hr
  exact hr.answer ht request

/-- A handle is released twice and given out again between requests for handles that stand for
nothing: the reference table answers as the slot table does. -/
theorem run_refines_reference_recycling :
    ((empty : SlotTable Nat).run [.insert 5, .insert 6, .remove ⟨1⟩, .remove ⟨1⟩, .get ⟨0⟩,
        .overwrite ⟨2⟩ 7, .insert 8, .contains ⟨0xFFFFFFFFFFFFFFFF⟩, .nextFresh]).2.entries.size <
          2 ^ 63 ∧
      (ReferenceTable.empty.run [.insert 5, .insert 6, .remove ⟨1⟩, .remove ⟨1⟩, .get ⟨0⟩,
        .overwrite ⟨2⟩ 7, .insert 8, .contains ⟨0xFFFFFFFFFFFFFFFF⟩, .nextFresh]).1 =
        [.handle ⟨1⟩, .handle ⟨2⟩, .value (some 5), .value none, .value none, .value (some 6),
          .handle ⟨1⟩, .flag false, .handle ⟨3⟩] := by
  have hsize : ((empty : SlotTable Nat).run [.insert 5, .insert 6, .remove ⟨1⟩, .remove ⟨1⟩,
      .get ⟨0⟩, .overwrite ⟨2⟩ 7, .insert 8, .contains ⟨0xFFFFFFFFFFFFFFFF⟩,
      .nextFresh]).2.entries.size < 2 ^ 63 := by
    decide
  refine ⟨hsize, ?_⟩
  rw [← (run_refines_reference _ hsize).1]
  decide

end SlotTable

end HostBoundary
