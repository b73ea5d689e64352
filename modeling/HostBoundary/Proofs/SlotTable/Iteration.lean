import HostBoundary.Proofs.SlotTable.Entries
import HostBoundary.Proofs.SlotTable.Reachable

/-!
# Walking a slot table

A table tells in four ways which handles have values: by walking its slots, by looking one handle
up, by its size, and by the handles that it keeps as free. `iteration_is_exact` says that the walk
agrees with the other three: it meets every value once, in the order of the handles, as many as the
size says, and of the handles given out so far it passes over the free ones alone.
-/

namespace HostBoundary.SlotTable

universe u

variable {α : Type u} {t : SlotTable α}

/-- A handle has a slot exactly when it has been given out. -/
theorem exists_slot?_iff (hsize : t.entries.size < 2 ^ 63) {h : Handle} :
    (∃ entry, t.slot? h = some entry) ↔
      1 ≤ h.number.toNat ∧ h.number.toNat < t.nextFresh.number.toNat := by
  rw [nextFresh, Handle.toNat_ofSlot hsize, Nat.lt_succ_iff]
  constructor
  · rintro ⟨entry, hentry⟩
    obtain ⟨hpos, hle, -⟩ := slot?_eq_some_iff.1 hentry
    exact ⟨hpos, hle⟩
  · rintro ⟨hpos, hle⟩
    have hlt : h.number.toNat - 1 < t.entries.size := by omega
    exact ⟨_, slot?_eq_some_iff.2 ⟨hpos, hle, Array.getElem?_eq_getElem hlt⟩⟩

/-- The handle of an entry has been given out. -/
theorem lt_nextFresh_of_mem_toList (hsize : t.entries.size < 2 ^ 63) {x : Handle × α}
    (hx : x ∈ t.toList) :
    1 ≤ x.1.number.toNat ∧ x.1.number.toNat < t.nextFresh.number.toNat := by
  have hslot := get?_eq_some_iff.1 ((mem_toList_iff hsize).1 hx)
  exact (exists_slot?_iff hsize).1 ⟨_, hslot⟩

/-- The free handles are those given out that have no entry. -/
theorem WellFormed.mem_free_iff_not_mem_toList (ht : t.WellFormed)
    (hsize : t.entries.size < 2 ^ 63) {h : Handle} :
    h ∈ t.free ↔ (1 ≤ h.number.toNat ∧ h.number.toNat < t.nextFresh.number.toNat) ∧
      h ∉ t.toList.map Prod.fst := by
  rw [ht.mem_free_iff, ← exists_slot?_iff hsize, mem_map_fst_toList_iff hsize, contains, get?]
  constructor
  · intro hempty
    rw [hempty]
    exact ⟨⟨none, rfl⟩, Bool.false_ne_true⟩
  · rintro ⟨⟨entry, hentry⟩, hvacant⟩
    rw [hentry] at hvacant ⊢
    cases entry with
    | none => rfl
    | some a => exact absurd rfl hvacant

/-- A table is empty exactly when it has no entry. -/
theorem WellFormed.isEmpty_iff (ht : t.WellFormed) : t.isEmpty = true ↔ t.toList = [] := by
  rw [isEmpty, beq_iff_eq, ← ht.length_toList, List.length_eq_zero_iff]

/-- The walk through a table that insertions, removals and overwritings lead to gives handles in
increasing order, so that none occurs twice, and each of them has been given out. It gives exactly
the values that are found by looking their handles up. They are as many as the size says, and none
exactly when the table is empty. The handles given out that it passes over are exactly those on the
stack of free handles. -/
theorem iteration_is_exact (ht : t.Reachable) (hsize : t.entries.size < 2 ^ 63) :
    (t.toList.Pairwise fun x y => x.1.number.toNat < y.1.number.toNat) ∧
    (∀ x ∈ t.toList, 1 ≤ x.1.number.toNat ∧ x.1.number.toNat < t.nextFresh.number.toNat) ∧
    (∀ h a, (h, a) ∈ t.toList ↔ t.get? h = some a) ∧
    t.toList.length = t.size ∧
    (t.isEmpty = true ↔ t.toList = []) ∧
    ∀ h : Handle, h ∈ t.free ↔
      (1 ≤ h.number.toNat ∧ h.number.toNat < t.nextFresh.number.toNat) ∧
        h ∉ t.toList.map Prod.fst := by
  have hwell := ht.wellFormed hsize
  exact ⟨pairwise_toList hsize, fun x hx => lt_nextFresh_of_mem_toList hsize hx,
    fun h a => mem_toList_iff hsize, hwell.length_toList, hwell.isEmpty_iff,
    fun h => hwell.mem_free_iff_not_mem_toList hsize⟩

/-- Three values are inserted, the second one is removed and the third one overwritten. -/
def churned : List (TableRequest Nat) :=
  [.insert 5, .insert 7, .insert 9, .remove ⟨2⟩, .overwrite ⟨3⟩ 8]

/-- The walk meets two values, among them the one that was written last, and passes over the handle
of the one that was removed. -/
theorem iteration_is_exact_after_churn :
    (empty.run churned).2.Reachable ∧ (empty.run churned).2.entries.size < 2 ^ 63 ∧
      (empty.run churned).2.toList.length = 2 ∧ (⟨3⟩, 8) ∈ (empty.run churned).2.toList ∧
      ⟨2⟩ ∉ (empty.run churned).2.toList.map Prod.fst := by
  have hreach : (empty.run churned).2.Reachable := ⟨churned, by decide, rfl⟩
  have hsize : (empty.run churned).2.entries.size < 2 ^ 63 := by decide
  obtain ⟨-, -, hmem, hlength, -, hfree⟩ := iteration_is_exact hreach hsize
  exact ⟨hreach, hsize, hlength, (hmem ⟨3⟩ 8).2 (by decide), ((hfree ⟨2⟩).1 (by decide)).2⟩

end HostBoundary.SlotTable
