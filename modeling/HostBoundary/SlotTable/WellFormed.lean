import HostBoundary.SlotTable.Basic
import Mathlib

/-!
# Well-formed slot tables

A slot table is well formed when its three parts tell one story: the free handles are exactly those
of the empty slots, each once, and the size is the number of occupied slots. The empty table is well
formed and every operation keeps it so, as long as the table has fewer than `2 ^ 63` slots. Every
slot is then either occupied or free (`size_add_freeCount`), and `get?_insert`, `get?_remove` and
`get?_overwrite` say what each operation does to the values under the handles.
-/

namespace HostBoundary

universe u

namespace Handle

/-- A handle is not null when its number is positive. -/
theorem isNull_eq_false_iff {h : Handle} : h.isNull = false ↔ 0 < h.number.toNat := by
  rw [isNull, beq_eq_false_iff_ne, Nat.pos_iff_ne_zero, ne_eq, ne_eq, ← UInt64.toNat_inj]
  rfl

/-- The number of the handle of a slot. -/
theorem toNat_ofSlot {i : Nat} (hi : i < 2 ^ 63) : (ofSlot i).number.toNat = i + 1 := by
  rw [ofSlot, UInt64.toNat_ofNat']
  omega

/-- The handle of a slot is not null. -/
theorem isNull_ofSlot {i : Nat} (hi : i < 2 ^ 63) : (ofSlot i).isNull = false := by
  rw [isNull_eq_false_iff, toNat_ofSlot hi]
  omega

/-- The slot of the handle of a slot is that slot. -/
theorem slot_ofSlot {i : Nat} (hi : i < 2 ^ 63) : (ofSlot i).slot = i := by
  rw [slot, toNat_ofSlot hi]
  rfl

/-- A handle that is not null is the handle of its slot. -/
theorem ofSlot_slot {h : Handle} (hnull : h.isNull = false) : ofSlot h.slot = h := by
  have hpos := isNull_eq_false_iff.1 hnull
  apply Handle.ext
  rw [ofSlot, slot, Nat.sub_add_cancel hpos, UInt64.ofNat_toNat]

/-- Handles that are not null and stand for one slot are one handle. -/
theorem slot_inj {a b : Handle} (ha : a.isNull = false) (hb : b.isNull = false) :
    a.slot = b.slot ↔ a = b := by
  constructor
  · intro h
    rw [← ofSlot_slot ha, ← ofSlot_slot hb, h]
  · exact congrArg slot

end Handle

namespace SlotTable

variable {α : Type u}

/-- The three parts of a table agree. -/
structure WellFormed (t : SlotTable α) : Prop where
  /-- No handle is free twice. -/
  nodup_free : t.free.Nodup
  /-- The free handles are those of the empty slots. -/
  mem_free_iff : ∀ h, h ∈ t.free ↔ t.slot? h = some none
  /-- The size is the number of occupied slots. -/
  size_eq : t.size = t.entries.countP Option.isSome

/-! ## Slots -/

/-- A handle with a slot is not null, and its slot is within the table. -/
theorem slot_lt_of_slot? {t : SlotTable α} {h : Handle} {e : Option α}
    (he : t.slot? h = some e) :
    h.isNull = false ∧ ∃ hlt : h.slot < t.entries.size, t.entries[h.slot] = e := by
  cases hnull : h.isNull with
  | true => simp [slot?, hnull] at he
  | false =>
      rw [slot?, hnull] at he
      exact ⟨rfl, Array.getElem?_eq_some_iff.1 he⟩

/-- The slot of a handle in plain numbers: handle one stands for the first entry. -/
theorem slot?_eq_some_iff {t : SlotTable α} {h : Handle} {e : Option α} :
    t.slot? h = some e ↔
      1 ≤ h.number.toNat ∧ h.number.toNat ≤ t.entries.size ∧
        t.entries[h.number.toNat - 1]? = some e := by
  refine ⟨fun he => ?_, fun he => ?_⟩
  · obtain ⟨hnull, hlt, hentry⟩ := slot_lt_of_slot? he
    have hpos := Handle.isNull_eq_false_iff.1 hnull
    refine ⟨hpos, ?_, Array.getElem?_eq_some_iff.2 ⟨hlt, hentry⟩⟩
    unfold Handle.slot at hlt
    omega
  · obtain ⟨hpos, -, hentry⟩ := he
    have hnull : h.isNull = false := Handle.isNull_eq_false_iff.2 hpos
    rw [slot?, hnull]
    exact hentry

/-- A value under a handle stands in its slot. -/
theorem get?_eq_some_iff {t : SlotTable α} {h : Handle} {a : α} :
    t.get? h = some a ↔ t.slot? h = some (some a) := by
  rw [get?, Option.join_eq_some_iff]

/-- Writing the slot of a handle changes that slot alone. -/
theorem slot?_write {t : SlotTable α} {h : Handle} {old : Option α} (new : Option α)
    (hold : t.slot? h = some old) (free : List Handle) (size : Nat) (k : Handle) :
    (SlotTable.mk (t.entries.setIfInBounds h.slot new) free size).slot? k =
      if k = h then some new else t.slot? k := by
  obtain ⟨hnull, hlt, -⟩ := slot_lt_of_slot? hold
  by_cases hk : k = h
  · subst hk
    simp [slot?, hnull, hlt]
  · rw [if_neg hk]
    cases hknull : k.isNull with
    | true => simp [slot?, hknull]
    | false =>
        have hslot : h.slot ≠ k.slot := fun hs => hk ((Handle.slot_inj hnull hknull).1 hs).symm
        simp [slot?, hknull, Array.getElem?_setIfInBounds_ne hslot]

/-- Opening a slot at the end changes that slot alone. -/
theorem slot?_push {t : SlotTable α} (hsize : t.entries.size < 2 ^ 63) (new : Option α)
    (free : List Handle) (size : Nat) (k : Handle) :
    (SlotTable.mk (t.entries.push new) free size).slot? k =
      if k = t.nextFresh then some new else t.slot? k := by
  have hfresh : t.nextFresh.isNull = false := Handle.isNull_ofSlot hsize
  have hslot : t.nextFresh.slot = t.entries.size := Handle.slot_ofSlot hsize
  by_cases hk : k = t.nextFresh
  · subst hk
    simp [slot?, hfresh, hslot]
  · rw [if_neg hk]
    cases hknull : k.isNull with
    | true => simp [slot?, hknull]
    | false =>
        have hne : k.slot ≠ t.entries.size := fun hs =>
          hk ((Handle.slot_inj hknull hfresh).1 (hs.trans hslot.symm))
        simp [slot?, hknull, Array.getElem?_push, hne]

/-- The handle that was never given out has no slot. -/
theorem slot?_nextFresh {t : SlotTable α} (hsize : t.entries.size < 2 ^ 63) :
    t.slot? t.nextFresh = none := by
  have hfresh : t.nextFresh.isNull = false := Handle.isNull_ofSlot hsize
  have hslot : t.nextFresh.slot = t.entries.size := Handle.slot_ofSlot hsize
  simp [slot?, hfresh, hslot]

/-- The null handle has no slot. -/
@[simp]
theorem slot?_null (t : SlotTable α) : t.slot? .null = none := rfl

/-- Filling an empty slot adds one occupied slot, and emptying an occupied one takes one away. -/
theorem countP_setIfInBounds {entries : Array (Option α)} {i : Nat} (hi : i < entries.size)
    (new : Option α) :
    (entries.setIfInBounds i new).countP Option.isSome + (if entries[i].isSome then 1 else 0) =
      entries.countP Option.isSome + (if new.isSome then 1 else 0) := by
  have hle : (if entries[i].isSome then 1 else 0) ≤ entries.countP Option.isSome := by
    split
    · next hsome => exact Array.countP_pos_iff.2 ⟨entries[i], Array.getElem_mem hi, hsome⟩
    · exact Nat.zero_le _
  rw [Array.setIfInBounds, dif_pos hi, Array.countP_set]
  omega

/-! ## The operations keep tables well formed -/

/-- The empty table is well formed. -/
theorem wellFormed_empty : (empty : SlotTable α).WellFormed where
  nodup_free := List.nodup_nil
  mem_free_iff h := by simp [empty, slot?]
  size_eq := rfl

/-- An insertion that takes a free handle fills its empty slot; one that finds none opens a slot. -/
theorem WellFormed.insert {t : SlotTable α} (ht : t.WellFormed)
    (hsize : t.entries.size < 2 ^ 63) (a : α) : (t.insert a).2.WellFormed := by
  obtain ⟨hnodup, hmem, hcount⟩ := ht
  unfold SlotTable.insert
  split
  · next h rest hfree =>
      rw [hfree] at hnodup
      obtain ⟨hnotin, hrest⟩ := List.nodup_cons.1 hnodup
      have hempty : t.slot? h = some none := (hmem h).1 (by simp [hfree])
      obtain ⟨-, hlt, hentry⟩ := slot_lt_of_slot? hempty
      refine ⟨hrest, fun k => ?_, ?_⟩
      · rw [slot?_write (some a) hempty]
        by_cases hk : k = h
        · simp [hk, hnotin]
        · rw [if_neg hk, ← hmem, hfree]
          simp [hk]
      · have := countP_setIfInBounds hlt (some a)
        simp only [hentry, Option.isSome_none, Option.isSome_some] at this
        simp only [hcount]
        simpa using this.symm
  · next hfree =>
      refine ⟨List.nodup_nil, fun k => ?_, ?_⟩
      · rw [slot?_push hsize]
        by_cases hk : k = t.nextFresh
        · simp [hk]
        · rw [if_neg hk, ← hmem, hfree]
      · simp [hcount]

/-- A removal frees the handle of the slot that it empties. -/
theorem WellFormed.remove {t : SlotTable α} (ht : t.WellFormed) (h : Handle) :
    (t.remove h).2.WellFormed := by
  unfold SlotTable.remove
  split
  · next a ha =>
      obtain ⟨hnodup, hmem, hcount⟩ := ht
      have hfull := get?_eq_some_iff.1 ha
      obtain ⟨-, hlt, hentry⟩ := slot_lt_of_slot? hfull
      refine ⟨List.nodup_cons.2 ⟨fun hin => ?_, hnodup⟩, fun k => ?_, ?_⟩
      · rw [hmem, hfull] at hin
        simp at hin
      · rw [slot?_write none hfull, List.mem_cons, hmem]
        by_cases hk : k = h
        · simp [hk]
        · simp [hk]
      · have := countP_setIfInBounds hlt (none : Option α)
        simp only [hentry, Option.isSome_none, Option.isSome_some] at this
        simp only [hcount]
        simp at this
        omega
  · exact ht

/-- Overwriting keeps every slot as full as it was. -/
theorem WellFormed.overwrite {t : SlotTable α} (ht : t.WellFormed) (h : Handle) (a : α) :
    (t.overwrite h a).2.WellFormed := by
  unfold SlotTable.overwrite
  split
  · next old hold =>
      obtain ⟨hnodup, hmem, hcount⟩ := ht
      have hfull := get?_eq_some_iff.1 hold
      obtain ⟨-, hlt, hentry⟩ := slot_lt_of_slot? hfull
      refine ⟨hnodup, fun k => ?_, ?_⟩
      · rw [slot?_write (some a) hfull, hmem]
        by_cases hk : k = h
        · simp [hk, hfull]
        · simp [hk]
      · have := countP_setIfInBounds hlt (some a)
        simp only [hentry, Option.isSome_some] at this
        simp only [hcount]
        omega
  · exact ht

/-! ## Free and occupied slots -/

/-- The entries of a table, read one slot after the other. -/
theorem toList_entries (t : SlotTable α) :
    t.entries.toList = (List.range t.entries.size).map fun i => t.entries[i]?.join := by
  apply List.ext_getElem
  · simp
  · intro i hi _
    have hlt : i < t.entries.size := by simpa using hi
    simp [hlt]

/-- The slots of the free handles are the empty slots, in some order. -/
theorem WellFormed.perm_slot_free {t : SlotTable α} (ht : t.WellFormed)
    (hsize : t.entries.size < 2 ^ 63) :
    (t.free.map Handle.slot).Perm
      ((List.range t.entries.size).filter fun i => !(t.entries[i]?.join).isSome) := by
  have hslots : (t.free.map Handle.slot).Nodup := by
    refine ht.nodup_free.map_on ?_
    intro h hh k hk hslot
    obtain ⟨hnull, -⟩ := slot_lt_of_slot? ((ht.mem_free_iff h).1 hh)
    obtain ⟨knull, -⟩ := slot_lt_of_slot? ((ht.mem_free_iff k).1 hk)
    exact (Handle.slot_inj hnull knull).1 hslot
  refine (List.perm_ext_iff_of_nodup hslots (List.nodup_range.filter _)).2 ?_
  intro i
  rw [List.mem_map, List.mem_filter, List.mem_range]
  refine ⟨fun hi => ?_, fun hi => ?_⟩
  · obtain ⟨h, hh, rfl⟩ := hi
    obtain ⟨-, hlt, hentry⟩ := slot_lt_of_slot? ((ht.mem_free_iff h).1 hh)
    exact ⟨hlt, by simp [hlt, hentry]⟩
  · obtain ⟨hlt, hempty⟩ := hi
    have hi : i < 2 ^ 63 := by omega
    refine ⟨Handle.ofSlot i, (ht.mem_free_iff _).2 ?_, Handle.slot_ofSlot hi⟩
    rw [slot?, Handle.isNull_ofSlot hi, Handle.slot_ofSlot hi]
    simpa [hlt] using hempty

/-- Every slot is either occupied or free. -/
theorem WellFormed.size_add_freeCount {t : SlotTable α} (ht : t.WellFormed)
    (hsize : t.entries.size < 2 ^ 63) : t.size + t.freeCount = t.entries.size := by
  have hfree : t.freeCount =
      t.entries.toList.countP (fun entry => !entry.isSome) := by
    calc t.freeCount = (t.free.map Handle.slot).length := (List.length_map _).symm
      _ = _ := (ht.perm_slot_free hsize).length_eq
      _ = _ := List.countP_eq_length_filter.symm
      _ = _ := by rw [toList_entries, List.countP_map]; rfl
  have hempty : (fun entry : Option α => decide ¬ entry.isSome = true) =
      fun entry => !entry.isSome := by
    funext entry
    cases entry <;> rfl
  rw [ht.size_eq, hfree, ← Array.countP_toList, ← Array.length_toList,
    List.length_eq_countP_add_countP Option.isSome, hempty]

/-! ## Values under handles -/

/-- The empty table has no value under any handle. -/
@[simp]
theorem get?_empty (h : Handle) : (empty : SlotTable α).get? h = none := by
  simp [empty, get?, slot?]

/-- After an insertion the value is under the handle that was given, and nothing else changed. -/
theorem get?_insert {t : SlotTable α} (ht : t.WellFormed) (hsize : t.entries.size < 2 ^ 63) (a : α)
    (k : Handle) :
    (t.insert a).2.get? k = if k = (t.insert a).1 then some a else t.get? k := by
  unfold SlotTable.insert
  split
  · next h rest hfree =>
      have hempty : t.slot? h = some none := (ht.mem_free_iff h).1 (by simp [hfree])
      simp only [get?, slot?_write (some a) hempty]
      split <;> simp
  · simp only [get?, slot?_push hsize]
    split <;> simp

/-- After a removal nothing is under the handle, and nothing else changed. -/
theorem get?_remove (t : SlotTable α) (h k : Handle) :
    (t.remove h).2.get? k = if k = h then none else t.get? k := by
  unfold SlotTable.remove
  split
  · next a ha =>
      simp only [get?, slot?_write none (get?_eq_some_iff.1 ha)]
      split <;> simp
  · next hnone =>
      split
      · next hk => rw [hk, hnone]
      · rfl

/-- After overwriting a handle that has a value the new value is under it, and nothing else
changed. -/
theorem get?_overwrite (t : SlotTable α) (h : Handle) (a : α) (k : Handle) :
    (t.overwrite h a).2.get? k =
      if k = h ∧ (t.get? h).isSome then some a else t.get? k := by
  unfold SlotTable.overwrite
  split
  · next old hold =>
      simp only [get?, slot?_write (some a) (get?_eq_some_iff.1 hold)]
      have hsome : (t.slot? h).join = some old := hold
      by_cases hk : k = h <;> simp [hk, hsome]
  · next hnone => simp [hnone]

/-- A removal gives the value that was under the handle. -/
theorem remove_fst (t : SlotTable α) (h : Handle) : (t.remove h).1 = t.get? h := by
  unfold SlotTable.remove
  split <;> simp_all

end SlotTable

end HostBoundary
