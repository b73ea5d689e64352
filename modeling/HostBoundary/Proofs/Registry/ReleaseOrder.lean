import HostBoundary.Proofs.Registry.Drain

/-!
# Releases in a row

Releasing one handle does not interfere with releasing another, and releasing a handle again does
nothing. So the order in which handles are released can be seen in one place alone, the order in
which they are used again: `release_order_changes_recycling_alone`. Every object is handed back by
the first release of its handle, and what is left does not depend on the order but for the stack of
free handles, which is a permutation. Registrations that use up the whole stack are therefore given
the same handles, if in another order.

The proof says what removals in a row leave in terms of which handles are in the list and of the
handles that they free (`freedBy`). A permutation of the list changes the order of the latter and
nothing else.
-/

namespace HostBoundary

universe u v

namespace SlotTable

variable {α : Type u} {t : SlotTable α}

/-! ## Removals in a row -/

/-- The handles that removals in a row free, in the order of the stack: those with a value under
them, each where it is removed first, and the latest on top. -/
def freedBy (t : SlotTable α) (handles : List Handle) : List Handle :=
  (handles.reverse.filter t.contains).dedup

/-- What one more removal frees. -/
theorem freedBy_append_singleton (t : SlotTable α) (handles : List Handle) (h : Handle) :
    t.freedBy (handles ++ [h]) =
      if t.contains h = true ∧ h ∉ handles then h :: t.freedBy handles else t.freedBy handles := by
  rw [freedBy, freedBy, List.reverse_append, List.reverse_singleton, List.singleton_append]
  cases hlive : t.contains h with
  | false => simp [hlive]
  | true =>
      rw [List.filter_cons_of_pos hlive]
      by_cases hmem : h ∈ handles
      · rw [List.dedup_cons_of_mem (by simp [hmem, hlive]), if_neg fun hnew => hnew.2 hmem]
      · rw [List.dedup_cons_of_notMem (by simp [hmem]), if_pos ⟨rfl, hmem⟩]

/-- The order of removals changes the order of what they free and nothing else. -/
theorem freedBy_perm (t : SlotTable α) {handles others : List Handle}
    (horder : handles.Perm others) : (t.freedBy handles).Perm (t.freedBy others) := by
  have hreverse : handles.reverse.Perm others.reverse :=
    (handles.reverse_perm.trans horder).trans others.reverse_perm.symm
  exact (hreverse.filter _).dedup

/-- What one more removal leaves. -/
theorem run_removes_append_singleton (t : SlotTable α) (handles : List Handle) (h : Handle) :
    (t.run ((handles ++ [h]).map .remove)).2 = ((t.run (handles.map .remove)).2.remove h).2 := by
  rw [List.map_append, List.map_singleton, run_append_request]
  rfl

/-- After removals in a row nothing is under their handles, and nothing else changed. -/
theorem get?_run_removes (t : SlotTable α) (handles : List Handle) (k : Handle) :
    (t.run (handles.map .remove)).2.get? k = if k ∈ handles then none else t.get? k := by
  induction handles using List.reverseRecOn with
  | nil => rfl
  | append_singleton handles h ih =>
      rw [run_removes_append_singleton, get?_remove, ih]
      by_cases hk : k = h
      · simp [hk]
      · simp [hk]

/-- A handle has a value after removals in a row if it had one and was not removed. -/
theorem contains_run_removes (t : SlotTable α) (handles : List Handle) (k : Handle) :
    (t.run (handles.map .remove)).2.contains k = true ↔ t.contains k = true ∧ k ∉ handles := by
  rw [contains, get?_run_removes]
  by_cases hk : k ∈ handles
  · simp [hk]
  · simp [hk, contains]

/-- What removals in a row free goes on top of the stack, the size falls by as much, and no slot is
opened or closed. -/
theorem shape_run_removes (t : SlotTable α) (handles : List Handle) :
    (t.run (handles.map .remove)).2.free = t.freedBy handles ++ t.free ∧
      (t.run (handles.map .remove)).2.size = t.size - (t.freedBy handles).length ∧
      (t.run (handles.map .remove)).2.entries.size = t.entries.size := by
  induction handles using List.reverseRecOn with
  | nil => exact ⟨rfl, rfl, rfl⟩
  | append_singleton handles h ih =>
      obtain ⟨hfree, hsize, hslots⟩ := ih
      have hlive := t.contains_run_removes handles h
      rw [run_removes_append_singleton, freedBy_append_singleton, entries_size_remove, hslots]
      cases hget : (t.run (handles.map .remove)).2.get? h with
      | none =>
          have hgone : ¬ (t.contains h = true ∧ h ∉ handles) := by
            rw [← hlive, contains, hget]
            exact nofun
          rw [remove_of_get?_eq_none hget, if_neg hgone]
          exact ⟨hfree, hsize, rfl⟩
      | some a =>
          have hthere : t.contains h = true ∧ h ∉ handles := by
            rw [← hlive, contains, hget]
            rfl
          rw [remove_of_get?_eq_some hget, if_pos hthere, List.length_cons, hfree, hsize]
          exact ⟨rfl, Nat.sub_sub _ _ _, rfl⟩

/-- Insertions that use up the whole stack are given the same handles whatever its order. -/
theorem upcoming_perm {s : SlotTable α} (hfree : s.free.Perm t.free)
    (hslots : s.entries.size = t.entries.size) {k : Nat} (hk : s.freeCount ≤ k) :
    (s.upcoming k).Perm (t.upcoming k) := by
  have hcount : s.freeCount = t.freeCount := hfree.length_eq
  have hk' : t.freeCount ≤ k := by rwa [← hcount]
  rw [upcoming_eq, upcoming_eq, hslots, hcount, List.take_of_length_le hk,
    List.take_of_length_le hk']
  exact hfree.append_right _

end SlotTable

namespace Registry

variable {α : Type u} {κ : Type v}

/-! ## Releases in a row -/

/-- How a registry answers releases of handles in order, and the registry afterwards. -/
def releaseAll (r : Registry α) (handles : List Handle) :
    List (Logged (Option α)) × Registry α :=
  HostBoundary.run release r handles

/-- Releases in a row are removals from the slots. -/
theorem slots_releaseAll (r : Registry α) (handles : List Handle) :
    (r.releaseAll handles).2.slots = (r.slots.run (handles.map .remove)).2 := by
  induction handles generalizing r with
  | nil => rfl
  | cons h handles ih =>
      have hrest := ih (r.release h).2
      rwa [slots_release] at hrest

/-- A release among others hands back the object of its handle if it is the first one of the
handle. -/
theorem result_releaseAll (r : Registry α) {handles : List Handle} {i : Nat} {h : Handle}
    (hi : handles[i]? = some h) :
    (r.releaseAll handles).1[i]?.map Logged.result =
      some (if i = handles.idxOf h then (r.lookup h).result else none) := by
  have hle : handles.idxOf h ≤ i := by
    by_contra hlt
    obtain ⟨hlength, rfl⟩ := List.getElem?_eq_some_iff.1 hi
    simpa using List.not_of_lt_findIdx (Nat.lt_of_not_le hlt)
  have hagain : h ∈ handles.take i ↔ ¬ i = handles.idxOf h := by
    rw [List.mem_take_iff_idxOf_lt (List.mem_of_getElem? hi)]
    omega
  have hslots := slots_releaseAll r (handles.take i)
  rw [releaseAll, getElem?_run, hi]
  show some ((r.releaseAll (handles.take i)).2.release h).1.result = _
  rw [result_release, hslots, SlotTable.get?_run_removes, result_lookup]
  by_cases hfirst : i = handles.idxOf h
  · rw [if_pos hfirst, if_neg fun hmem => hagain.1 hmem hfirst]
  · rw [if_neg hfirst, if_pos (hagain.2 hfirst)]

variable [HasKind α κ] [DecidableEq κ]

/-- The handles that registrations by any routes are given are the upcoming ones. -/
theorem issued_runAccess_of_registrations (r : Registry α) {calls : List (AccessCall α κ)}
    (hregister : ∀ call ∈ calls, call.effect.isRegistration = true) :
    (r.runAccess calls).1.map (fun reply => reply.result.issued?) =
      (r.slots.upcoming calls.length).map some := by
  obtain ⟨objects, hobjects⟩ := exists_objects_of_registrations hregister
  have hlength : objects.length = calls.length := by
    simpa using (congrArg List.length hobjects).symm
  rw [issued_runAccess_of_registers hobjects, hlength]

/-- Handles are released in one order and in another one; any handle may occur more than once, and
the null handle, handles that were never given out and handles that were released before may occur
too. Either way the same objects are left under the same handles, the size and the next fresh handle
are the same, and the stacks of free handles are permutations of each other. In every order the
first release of a handle hands back the object that was there at the start, if there was one, and
no other release hands back any. So if at least as many registrations follow as there are free
handles, whatever they register and by whatever routes, they are given the same handles after either
order, if in another order. -/
theorem release_order_changes_recycling_alone (start : Registry α) {handles others : List Handle}
    (horder : handles.Perm others) :
    ((∀ h, ((start.releaseAll handles).2.lookup h).result =
        ((start.releaseAll others).2.lookup h).result) ∧
      (start.releaseAll handles).2.size = (start.releaseAll others).2.size ∧
      (start.releaseAll handles).2.nextFresh = (start.releaseAll others).2.nextFresh ∧
      (start.releaseAll handles).2.slots.free.Perm (start.releaseAll others).2.slots.free) ∧
    (∀ (order : List Handle) (i : Nat) (h : Handle), order[i]? = some h →
      (start.releaseAll order).1[i]?.map Logged.result =
        some (if i = order.idxOf h then (start.lookup h).result else none)) ∧
    ∀ first second : List (AccessCall α κ),
      (∀ call ∈ first ++ second, call.effect.isRegistration = true) →
      first.length = second.length →
      (start.releaseAll handles).2.slots.freeCount ≤ first.length →
      ∃ issued reissued : List Handle,
        ((start.releaseAll handles).2.runAccess first).1.map (fun reply => reply.result.issued?) =
          issued.map some ∧
        ((start.releaseAll others).2.runAccess second).1.map (fun reply => reply.result.issued?) =
          reissued.map some ∧
        issued.Perm reissued := by
  have hfreed := start.slots.freedBy_perm horder
  obtain ⟨hfree, hsize, hslots⟩ := start.slots.shape_run_removes handles
  obtain ⟨hfree', hsize', hslots'⟩ := start.slots.shape_run_removes others
  rw [← slots_releaseAll] at hfree hsize hslots hfree' hsize' hslots'
  have hstacks : (start.releaseAll handles).2.slots.free.Perm
      (start.releaseAll others).2.slots.free := by
    rw [hfree, hfree']
    exact hfreed.append_right _
  have hopened : (start.releaseAll handles).2.slots.entries.size =
      (start.releaseAll others).2.slots.entries.size := hslots.trans hslots'.symm
  refine ⟨⟨fun h => ?_, ?_, ?_, hstacks⟩, fun order i h => result_releaseAll start, ?_⟩
  · rw [result_lookup, result_lookup, slots_releaseAll, slots_releaseAll,
      SlotTable.get?_run_removes, SlotTable.get?_run_removes]
    simp only [horder.mem_iff]
  · rw [size, size, hsize, hsize', hfreed.length_eq]
  · rw [nextFresh, nextFresh, SlotTable.nextFresh, SlotTable.nextFresh, hopened]
  · intro first second hregister hlength henough
    obtain ⟨hfirst, hsecond⟩ := List.forall_mem_append.1 hregister
    refine ⟨_, _, issued_runAccess_of_registrations _ hfirst,
      issued_runAccess_of_registrations _ hsecond, ?_⟩
    rw [← hlength]
    exact SlotTable.upcoming_perm hstacks hopened henough

/-- A registry with two objects, under the handles one and two, and a free handle three. -/
def twoAndOneFree : Registry HostObject :=
  ⟨⟨#[some .unit, some (.byte 5), none], [⟨3⟩], 2⟩⟩

/-- The two handles, one of them twice, with the null handle and one that was never given out. -/
def twoReleases : List Handle :=
  [⟨2⟩, ⟨0⟩, ⟨2⟩, ⟨1⟩, ⟨9⟩]

/-- Three registrations by two routes. -/
def threeRegistrations : List (AccessCall HostObject ObjectKind) :=
  [.host (.register (.byte 1)), .bridge (.issue (.byte 2)), .host (.issue (.byte 3))]

/-- Released in an order and in the reverse of it, two handles are on the stack in two orders. The
second release of a handle hands nothing back, and the registrations that follow use up the same
handles. -/
theorem release_order_of_two_handles :
    twoReleases.Perm twoReleases.reverse ∧
      (twoAndOneFree.releaseAll twoReleases).2.slots.free = [⟨1⟩, ⟨2⟩, ⟨3⟩] ∧
      (twoAndOneFree.releaseAll twoReleases.reverse).2.slots.free = [⟨2⟩, ⟨1⟩, ⟨3⟩] ∧
      (twoAndOneFree.releaseAll twoReleases).1[0]?.map Logged.result = some (some (.byte 5)) ∧
      (twoAndOneFree.releaseAll twoReleases).1[2]?.map Logged.result = some none ∧
      ∃ issued reissued : List Handle,
        ((twoAndOneFree.releaseAll twoReleases).2.runAccess threeRegistrations).1.map
          (fun reply => reply.result.issued?) = issued.map some ∧
        ((twoAndOneFree.releaseAll twoReleases.reverse).2.runAccess threeRegistrations).1.map
          (fun reply => reply.result.issued?) = reissued.map some ∧
        issued.Perm reissued := by
  have horder : twoReleases.Perm twoReleases.reverse := by decide
  obtain ⟨-, hreplies, hissued⟩ := release_order_changes_recycling_alone twoAndOneFree horder
  refine ⟨horder, by decide, by decide, ?_, ?_, hissued threeRegistrations threeRegistrations
    (by decide) rfl (by decide)⟩
  · exact (hreplies twoReleases 0 ⟨2⟩ rfl).trans (by decide)
  · exact (hreplies twoReleases 2 ⟨2⟩ rfl).trans (by decide)

end Registry

end HostBoundary
