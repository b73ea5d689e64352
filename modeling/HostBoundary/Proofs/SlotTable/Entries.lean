import HostBoundary.Proofs.SlotTable.Steps

/-!
# The entries of a slot table

`SlotTable.toList` walks the slots of a table and gives the values with their handles. It is the
table as a finite map: its handles increase, so that none occurs twice (`pairwise_toList`,
`nodup_map_fst_toList`); it has a value under a handle exactly when the table has
(`mem_toList_iff`); and it is as long as the table is large (`length_toList`). What an operation
does to a table is then a permutation of entries: an insertion adds one, a removal takes one away,
and overwriting trades one for another.
-/

namespace HostBoundary.SlotTable

universe u

variable {α : Type u} {t : SlotTable α}

/-! ## The table as a finite map -/

/-- The entries of a table are its values with their handles. -/
theorem mem_toList_iff (hsize : t.entries.size < 2 ^ 63) {h : Handle} {a : α} :
    (h, a) ∈ t.toList ↔ t.get? h = some a := by
  rw [get?_eq_some_iff, slot?_eq_some_iff, toList, List.mem_filterMap]
  constructor
  · rintro ⟨⟨entry, i⟩, hmem, hentry⟩
    have hi : t.entries[i]? = some entry := by
      simpa using List.mk_mem_zipIdx_iff_getElem?.1 hmem
    obtain ⟨hlt, -⟩ := Array.getElem?_eq_some_iff.1 hi
    obtain ⟨b, rfl, hb⟩ := Option.map_eq_some_iff.1 hentry
    cases hb
    rw [Handle.toNat_ofSlot (by omega), Nat.add_sub_cancel]
    exact ⟨by omega, by omega, hi⟩
  · rintro ⟨hpos, -, hentry⟩
    refine ⟨(some a, h.slot), ?_, ?_⟩
    · rw [List.mk_mem_zipIdx_iff_getElem?, Array.getElem?_toList]
      exact hentry
    · show some (Handle.ofSlot h.slot, a) = some (h, a)
      rw [Handle.ofSlot_slot (Handle.isNull_eq_false_iff.2 hpos)]

/-- The handles of the entries increase. -/
theorem pairwise_toList (hsize : t.entries.size < 2 ^ 63) :
    t.toList.Pairwise fun x y => x.1.number.toNat < y.1.number.toNat := by
  have hpositions : t.entries.toList.zipIdx.Pairwise fun x y => x.2 < y.2 := by
    rw [← List.pairwise_map (f := Prod.snd) (R := (· < ·)), List.zipIdx_map_snd]
    exact List.pairwise_lt_range'
  rw [toList, List.pairwise_filterMap]
  refine hpositions.imp_of_mem ?_
  rintro ⟨one, i⟩ ⟨two, j⟩ hone htwo hij x hx y hy
  obtain ⟨hi, -⟩ := List.mem_zipIdx' hone
  obtain ⟨hj, -⟩ := List.mem_zipIdx' htwo
  rw [Array.length_toList] at hi hj
  obtain ⟨a, -, rfl⟩ := Option.map_eq_some_iff.1 hx
  obtain ⟨b, -, rfl⟩ := Option.map_eq_some_iff.1 hy
  show (Handle.ofSlot i).number.toNat < (Handle.ofSlot j).number.toNat
  rw [Handle.toNat_ofSlot (by omega), Handle.toNat_ofSlot (by omega)]
  exact Nat.succ_lt_succ hij

/-- No handle has two entries. -/
theorem nodup_map_fst_toList (hsize : t.entries.size < 2 ^ 63) :
    (t.toList.map Prod.fst).Nodup := by
  refine List.pairwise_map.2 ((pairwise_toList hsize).imp ?_)
  intro x y hlt heq
  rw [heq] at hlt
  exact Nat.lt_irrefl _ hlt

/-- No entry occurs twice. -/
theorem nodup_toList (hsize : t.entries.size < 2 ^ 63) : t.toList.Nodup :=
  (nodup_map_fst_toList hsize).of_map Prod.fst

/-- The handles of the entries are those that have values under them. -/
theorem mem_map_fst_toList_iff (hsize : t.entries.size < 2 ^ 63) {h : Handle} :
    h ∈ t.toList.map Prod.fst ↔ t.contains h = true := by
  rw [contains, Option.isSome_iff_exists]
  simp [mem_toList_iff hsize]

/-- Tables with the same values under all handles have the same entries. -/
theorem perm_toList_of_get?_eq {s : SlotTable α} (hs : s.entries.size < 2 ^ 63)
    (ht : t.entries.size < 2 ^ 63) (hget : ∀ k, s.get? k = t.get? k) :
    s.toList.Perm t.toList := by
  refine (List.perm_ext_iff_of_nodup (nodup_toList hs) (nodup_toList ht)).2 ?_
  rintro ⟨k, b⟩
  rw [mem_toList_iff hs, mem_toList_iff ht, hget]

/-- There are as many entries as occupied slots. -/
theorem WellFormed.length_toList (ht : t.WellFormed) : t.toList.length = t.size := by
  have hoccupied : (fun x : Option α × Nat =>
      (x.1.map fun a => (Handle.ofSlot x.2, a)).isSome) = Option.isSome ∘ Prod.fst := by
    funext x
    exact Option.isSome_map
  calc t.toList.length
      = t.entries.toList.zipIdx.countP (Option.isSome ∘ Prod.fst) := by
        rw [toList, List.length_filterMap_eq_countP]
        exact congrArg (fun p => t.entries.toList.zipIdx.countP p) hoccupied
    _ = t.entries.toList.countP Option.isSome := by rw [← List.countP_map, List.zipIdx_map_fst]
    _ = t.size := by rw [Array.countP_toList, ht.size_eq]

/-! ## What the operations do to the entries -/

/-- An insertion adds an entry under the handle that it gives out. -/
theorem WellFormed.perm_toList_insert (ht : t.WellFormed) (hsize : t.entries.size < 2 ^ 63) {a : α}
    (hnext : (t.insert a).2.entries.size < 2 ^ 63) :
    (t.insert a).2.toList.Perm (((t.insert a).1, a) :: t.toList) := by
  have hvacant := ht.get?_insert_fst hsize a
  have hnew : ((t.insert a).1, a) ∉ t.toList := by
    rw [mem_toList_iff hsize, hvacant]
    exact nofun
  refine (List.perm_ext_iff_of_nodup (nodup_toList hnext)
    (List.nodup_cons.2 ⟨hnew, nodup_toList hsize⟩)).2 ?_
  rintro ⟨h, b⟩
  rw [mem_toList_iff hnext, ht.get?_insert_eq_some_iff hsize, List.mem_cons, mem_toList_iff hsize,
    Prod.mk.injEq]
  constructor
  · rintro (⟨rfl, rfl⟩ | ⟨hb, -⟩)
    · exact Or.inl ⟨rfl, rfl⟩
    · exact Or.inr hb
  · rintro (⟨rfl, rfl⟩ | hb)
    · exact Or.inl ⟨rfl, rfl⟩
    · refine Or.inr ⟨hb, ?_⟩
      rintro rfl
      rw [hvacant] at hb
      cases hb

/-- A removal takes away the entry of its handle. -/
theorem perm_toList_remove (hsize : t.entries.size < 2 ^ 63) {h : Handle} {a : α}
    (ha : t.get? h = some a) : t.toList.Perm ((h, a) :: (t.remove h).2.toList) := by
  have hnext : (t.remove h).2.entries.size < 2 ^ 63 := by
    rwa [entries_size_remove]
  have hgone : (h, a) ∉ (t.remove h).2.toList := by
    rw [mem_toList_iff hnext, get?_remove_eq_some_iff]
    exact fun hkept => hkept.2 rfl
  refine (List.perm_ext_iff_of_nodup (nodup_toList hsize)
    (List.nodup_cons.2 ⟨hgone, nodup_toList hnext⟩)).2 ?_
  rintro ⟨k, b⟩
  rw [mem_toList_iff hsize, List.mem_cons, mem_toList_iff hnext, get?_remove_eq_some_iff,
    Prod.mk.injEq]
  constructor
  · intro hb
    by_cases hk : k = h
    · subst hk
      exact Or.inl ⟨rfl, Option.some.inj (hb.symm.trans ha)⟩
    · exact Or.inr ⟨hb, hk⟩
  · rintro (⟨rfl, rfl⟩ | ⟨hb, -⟩)
    · exact ha
    · exact hb

/-- Overwriting a value trades its entry for that of the new one: but for the entry of the handle
there is what a removal would leave. -/
theorem perm_toList_overwrite (hsize : t.entries.size < 2 ^ 63) {h : Handle} {old : α}
    (hold : t.get? h = some old) (a : α) :
    (t.overwrite h a).2.toList.Perm ((h, a) :: (t.remove h).2.toList) := by
  have hnext : (t.overwrite h a).2.entries.size < 2 ^ 63 := by
    rwa [entries_size_overwrite]
  have hsome : (t.get? h).isSome = true := by
    rw [hold]
    rfl
  have hget : (t.overwrite h a).2.get? h = some a := by
    rw [get?_overwrite, if_pos ⟨rfl, hsome⟩]
  have hleft : ∀ k, ((t.overwrite h a).2.remove h).2.get? k = (t.remove h).2.get? k := by
    intro k
    rw [get?_remove, get?_remove, get?_overwrite]
    by_cases hk : k = h
    · rw [if_pos hk, if_pos hk]
    · rw [if_neg hk, if_neg hk, if_neg fun hboth => hk hboth.1]
  refine (perm_toList_remove hnext hget).trans ?_
  refine (perm_toList_of_get?_eq ?_ ?_ hleft).cons _
  · rwa [entries_size_remove]
  · rwa [entries_size_remove]

end HostBoundary.SlotTable
