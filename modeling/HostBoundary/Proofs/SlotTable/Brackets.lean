import HostBoundary.Proofs.SlotTable.Reachable

/-!
# Removals and insertions as brackets

A slot table gives its free handles out again in the reverse of the order in which they were freed.
So a removal is an opening bracket and an insertion a closing one: as long as no insertion comes
without a removal to answer, each answers the latest removal that none before it has answered, by
giving out its handle. `insertions_answer_removals` says so of all runs from reachable tables. Such
a run opens no slot, and once every removal has been answered the table is as it was at the start
but for the values under the handles that were removed. Undoing a series of removals from the last
one back restores the very table.

`Nested` are the runs in which every bracket has its partner. The proof follows the stack of free
handles, which is that of the start with the handles of the unanswered removals on top (`Stacked`).
-/

namespace HostBoundary

universe u

variable {α : Type u}

/-! ## Brackets -/

namespace TableRequest

/-- Whether a request inserts a value. -/
def isInsertion : TableRequest α → Bool
  | .insert _ => true
  | _ => false

/-- Whether a request removes the value of a handle. -/
def isRemoval : TableRequest α → Bool
  | .remove _ => true
  | _ => false

end TableRequest

section Brackets

variable {requests earlier : List (TableRequest α)} {h : Handle} {pending : List Handle}

/-- The number of insertions in a run. -/
def insertions (requests : List (TableRequest α)) : Nat :=
  requests.countP TableRequest.isInsertion

/-- The number of removals in a run. -/
def removals (requests : List (TableRequest α)) : Nat :=
  requests.countP TableRequest.isRemoval

/-- At every point of a run there have been at least as many removals as insertions. -/
def Covered (requests : List (TableRequest α)) : Prop :=
  ∀ earlier, earlier <+: requests → insertions earlier ≤ removals earlier

instance (requests : List (TableRequest α)) : Decidable (Covered requests) :=
  decidable_of_iff (∀ earlier ∈ requests.inits, insertions earlier ≤ removals earlier)
    (forall_congr' fun earlier => by rw [List.mem_inits])

/-- The runs in which removals and insertions match as brackets do: no request at all, or such a
run, then a removal, then another such run and the insertion that answers the removal. -/
inductive Nested : List (TableRequest α) → Prop where
  | nil : Nested []
  | append {outer inner : List (TableRequest α)} (houter : Nested outer) (h : Handle)
      (hinner : Nested inner) (a : α) :
      Nested (outer ++ TableRequest.remove h :: (inner ++ [TableRequest.insert a]))

/-- The latest removal of a run that no insertion has answered is that of a handle: what came after
it is matched. -/
def LatestUnanswered (earlier : List (TableRequest α)) (h : Handle) : Prop :=
  ∃ before inner, earlier = before ++ TableRequest.remove h :: inner ∧ Nested inner

/-- What one more request makes of the handles of the unanswered removals. -/
def answerLatest (pending : List Handle) : TableRequest α → List Handle
  | .remove h => h :: pending
  | .insert _ => pending.tail
  | _ => pending

/-- The handles of the removals that no insertion has answered, the latest first. -/
def unanswered (requests : List (TableRequest α)) : List Handle :=
  requests.foldl answerLatest []

/-- What a request at the end makes of the unanswered removals. -/
theorem unanswered_append_singleton (requests : List (TableRequest α)) (request : TableRequest α) :
    unanswered (requests ++ [request]) = answerLatest (unanswered requests) request := by
  rw [unanswered, List.foldl_append]
  rfl

/-- A matched run leaves the removals before it unanswered, and adds none. -/
theorem Nested.foldl_answerLatest (hnested : Nested requests) (pending : List Handle) :
    requests.foldl answerLatest pending = pending := by
  induction hnested generalizing pending with
  | nil => rfl
  | append _ h _ a houter hinner =>
      rw [List.foldl_append, houter, List.foldl_cons, List.foldl_append, hinner]
      rfl

/-- The latest unanswered removal stands first among the unanswered ones. -/
theorem LatestUnanswered.unanswered_eq (hlatest : LatestUnanswered earlier h) :
    ∃ rest, unanswered earlier = h :: rest := by
  obtain ⟨before, inner, rfl, hinner⟩ := hlatest
  refine ⟨unanswered before, ?_⟩
  rw [unanswered, List.foldl_append, List.foldl_cons, hinner.foldl_answerLatest]
  rfl

/-- The handles of unanswered removals were removed. -/
theorem remove_mem_of_mem_unanswered (hmem : h ∈ unanswered requests) :
    .remove h ∈ requests := by
  induction requests using List.reverseRecOn with
  | nil => cases hmem
  | append_singleton requests request ih =>
      rw [unanswered_append_singleton] at hmem
      rw [List.mem_append, List.mem_singleton]
      cases request with
      | remove k =>
          rcases List.mem_cons.1 hmem with rfl | hmem
          · exact Or.inr rfl
          · exact Or.inl (ih hmem)
      | insert a => exact Or.inl (ih (List.mem_of_mem_tail hmem))
      | _ => exact Or.inl (ih hmem)

/-- A run cut at its unanswered removals, whose handles are given with the latest first. Between
them it is matched. -/
inductive CutAt : List Handle → List (TableRequest α) → Prop where
  | nested {inner : List (TableRequest α)} (hinner : Nested inner) : CutAt [] inner
  | cons {pending : List Handle} {before inner : List (TableRequest α)}
      (hbefore : CutAt pending before) (h : Handle) (hinner : Nested inner) :
      CutAt (h :: pending) (before ++ TableRequest.remove h :: inner)

/-- An insertion closes the latest bracket: what came before it, the removal and what came after it
are then one matched piece. -/
theorem CutAt.insert (hcut : CutAt (h :: pending) requests) (a : α) :
    CutAt pending (requests ++ [TableRequest.insert a]) := by
  cases hcut with
  | cons hbefore _ hinner =>
      -- The new piece joins the one before the bracket, which may be the first of all.
      cases hbefore with
      | nested houter =>
          rw [List.append_assoc]
          exact .nested (houter.append h hinner a)
      | cons hbefore k houter =>
          rw [List.append_assoc, List.append_assoc]
          exact .cons hbefore k (houter.append h hinner a)

/-- What came after the latest cut is matched. -/
theorem CutAt.latestUnanswered (hcut : CutAt (h :: pending) requests) :
    LatestUnanswered requests h := by
  cases hcut with
  | cons _ _ hinner => exact ⟨_, _, rfl, hinner⟩

/-- The beginning of a covered run is covered. -/
theorem Covered.of_append {later : List (TableRequest α)} (hcovered : Covered (earlier ++ later)) :
    Covered earlier :=
  fun begin hbegin => hcovered begin (hbegin.trans (List.prefix_append _ _))

/-- A removal counts among the removals alone. -/
theorem counts_append_remove (requests : List (TableRequest α)) (h : Handle) :
    removals (requests ++ [TableRequest.remove h]) = removals requests + 1 ∧
      insertions (requests ++ [TableRequest.remove h]) = insertions requests := by
  simp [removals, insertions, TableRequest.isRemoval, TableRequest.isInsertion]

/-- An insertion counts among the insertions alone. -/
theorem counts_append_insert (requests : List (TableRequest α)) (a : α) :
    removals (requests ++ [TableRequest.insert a]) = removals requests ∧
      insertions (requests ++ [TableRequest.insert a]) = insertions requests + 1 := by
  simp [removals, insertions, TableRequest.isRemoval, TableRequest.isInsertion]

/-- An insertion in a covered run finds an unanswered removal, as the unanswered removals are those
by which the insertions are fewer. -/
theorem Covered.exists_unanswered {a : α} (hcovered : Covered (requests ++ [TableRequest.insert a]))
    (hlength : (unanswered requests).length + insertions requests = removals requests) :
    ∃ h pending, unanswered requests = h :: pending := by
  have hle := hcovered _ List.prefix_rfl
  obtain ⟨hremovals, hinsertions⟩ := counts_append_insert requests a
  rw [hremovals, hinsertions] at hle
  refine List.exists_cons_of_length_pos ?_
  omega

/-- A covered run of removals and insertions is cut at its unanswered removals, and they are as many
as there are more removals than insertions. -/
theorem cutAt_unanswered
    (hkinds : ∀ request ∈ requests, (request.isInsertion || request.isRemoval) = true)
    (hcovered : Covered requests) :
    CutAt (unanswered requests) requests ∧
      (unanswered requests).length + insertions requests = removals requests := by
  induction requests using List.reverseRecOn with
  | nil => exact ⟨.nested .nil, rfl⟩
  | append_singleton requests request ih =>
      obtain ⟨hcut, hlength⟩ := ih
        (fun request' hmem => hkinds request' (List.mem_append_left _ hmem)) hcovered.of_append
      have hkind := hkinds request (by simp)
      rw [unanswered_append_singleton]
      cases request with
      | remove h =>
          obtain ⟨hremovals, hinsertions⟩ := counts_append_remove requests h
          refine ⟨.cons hcut h .nil, ?_⟩
          rw [hremovals, hinsertions, answerLatest, List.length_cons]
          omega
      | insert a =>
          obtain ⟨hremovals, hinsertions⟩ := counts_append_insert requests a
          obtain ⟨h, pending, hpending⟩ := hcovered.exists_unanswered hlength
          rw [hpending] at hcut hlength ⊢
          refine ⟨hcut.insert a, ?_⟩
          rw [hremovals, hinsertions, answerLatest, List.tail_cons]
          rw [List.length_cons] at hlength
          omega
      | _ => cases hkind

end Brackets

namespace SlotTable

variable {t : SlotTable α} {requests : List (TableRequest α)} {h : Handle}

/-! ## Runs of removals and insertions -/

/-- Whether a request inserts a value, or removes one that is there. -/
def isChurn (t : SlotTable α) : TableRequest α → Bool
  | .insert _ => true
  | .remove h => t.contains h
  | _ => false

/-- A run of insertions and of removals that succeed. -/
def Churns (t : SlotTable α) (requests : List (TableRequest α)) : Prop :=
  ∀ moment ∈ moments SlotTable.answer t requests, moment.1.isChurn moment.2 = true

/-- One more request is one more removal that succeeds, or one more insertion. -/
theorem churns_append_singleton {request : TableRequest α} :
    t.Churns (requests ++ [request]) ↔
      t.Churns requests ∧ (t.run requests).2.isChurn request = true := by
  unfold Churns
  rw [moments_append, List.forall_mem_append]
  exact and_congr_right fun _ => List.forall_mem_singleton

/-- The beginning of such a run is such a run. -/
theorem Churns.of_append {earlier later : List (TableRequest α)}
    (hchurns : t.Churns (earlier ++ later)) : t.Churns earlier := by
  unfold Churns at hchurns
  rw [moments_append, List.forall_mem_append] at hchurns
  exact hchurns.1

/-- Such a run has insertions and removals alone. -/
theorem Churns.kinds (hchurns : t.Churns requests) :
    ∀ request ∈ requests, (request.isInsertion || request.isRemoval) = true := by
  induction requests using List.reverseRecOn with
  | nil => simp
  | append_singleton requests last ih =>
      obtain ⟨hchurns, hlast⟩ := churns_append_singleton.1 hchurns
      intro request hmem
      rcases List.mem_append.1 hmem with hmem | hmem
      · exact ih hchurns request hmem
      · rw [List.mem_singleton.1 hmem]
        cases last with
        | insert a => rfl
        | remove h => rfl
        | _ => cases hlast

/-! ## The stack of free handles -/

/-- After a run the handles of the unanswered removals are on top of the stack of the start. No slot
was opened, and only handles that were removed have other values. -/
structure Stacked (t : SlotTable α) (requests : List (TableRequest α)) : Prop where
  /-- The parts of the table agree. -/
  wellFormed : (t.run requests).2.WellFormed
  /-- There are as many slots as before. -/
  entries_size_eq : (t.run requests).2.entries.size = t.entries.size
  /-- The stack is that of the start with the unanswered removals on top. -/
  free_eq : (t.run requests).2.free = unanswered requests ++ t.free
  /-- Handles that were not removed are as they were. -/
  get?_eq : ∀ k, .remove k ∉ requests → (t.run requests).2.get? k = t.get? k

namespace Stacked

/-- Before any request. -/
theorem nil (ht : t.WellFormed) : Stacked t [] where
  wellFormed := ht
  entries_size_eq := rfl
  free_eq := rfl
  get?_eq _ _ := rfl

/-- A removal puts its handle on top. -/
theorem remove (hstacked : Stacked t requests) (hlive : (t.run requests).2.contains h = true) :
    Stacked t (requests ++ [TableRequest.remove h]) := by
  obtain ⟨a, ha⟩ := Option.isSome_iff_exists.1 hlive
  have hnext : (t.run (requests ++ [TableRequest.remove h])).2 = ((t.run requests).2.remove h).2 :=
    run_append_request t requests (.remove h)
  constructor
  · rw [hnext]
    exact hstacked.wellFormed.remove h
  · rw [hnext, entries_size_remove, hstacked.entries_size_eq]
  · rw [hnext, remove_of_get?_eq_some ha, unanswered_append_singleton]
    show h :: (t.run requests).2.free = _
    rw [hstacked.free_eq]
    rfl
  · intro k hk
    obtain ⟨hbefore, hne⟩ : .remove k ∉ requests ∧ k ≠ h := by simpa using hk
    rw [hnext, get?_remove, if_neg hne, hstacked.get?_eq k hbefore]

/-- An insertion takes the handle on top, if a removal is unanswered. -/
theorem insert (hstacked : Stacked t requests) (hsize : t.entries.size < 2 ^ 63)
    {pending : List Handle} (hpending : unanswered requests = h :: pending) (a : α) :
    ((t.run requests).2.insert a).1 = h ∧ Stacked t (requests ++ [TableRequest.insert a]) := by
  have hnext : (t.run (requests ++ [TableRequest.insert a])).2 = ((t.run requests).2.insert a).2 :=
    run_append_request t requests (.insert a)
  have hwithin : (t.run requests).2.entries.size < 2 ^ 63 := by
    rwa [hstacked.entries_size_eq]
  have hfree : (t.run requests).2.free = h :: (pending ++ t.free) := by
    rw [hstacked.free_eq, hpending]
    rfl
  have hinsert := insert_of_free_cons hfree a
  refine ⟨by rw [hinsert], ?_, ?_, ?_, fun k hk => ?_⟩
  · rw [hnext]
    exact hstacked.wellFormed.insert hwithin a
  · rw [hnext, hinsert]
    show ((t.run requests).2.entries.setIfInBounds h.slot (some a)).size = _
    rw [Array.size_setIfInBounds, hstacked.entries_size_eq]
  · rw [hnext, hinsert, unanswered_append_singleton, hpending]
    rfl
  · have hbefore : .remove k ∉ requests := fun hmem => hk (List.mem_append_left _ hmem)
    -- The handle that is given out was removed, so it is another one.
    have hne : k ≠ ((t.run requests).2.insert a).1 := by
      rw [hinsert]
      rintro rfl
      exact hbefore (remove_mem_of_mem_unanswered (by simp [hpending]))
    rw [hnext, get?_insert hstacked.wellFormed hwithin, if_neg hne, hstacked.get?_eq k hbefore]

end Stacked

/-- The stack after every covered run of insertions and successful removals. -/
theorem WellFormed.stacked (ht : t.WellFormed) (hsize : t.entries.size < 2 ^ 63)
    (hchurns : t.Churns requests) (hcovered : Covered requests) : Stacked t requests := by
  induction requests using List.reverseRecOn with
  | nil => exact .nil ht
  | append_singleton requests request ih =>
      obtain ⟨hbefore, hlast⟩ := churns_append_singleton.1 hchurns
      have hstacked := ih hbefore hcovered.of_append
      cases request with
      | remove h => exact hstacked.remove hlast
      | insert a =>
          obtain ⟨-, hlength⟩ := cutAt_unanswered hbefore.kinds hcovered.of_append
          obtain ⟨h, pending, hpending⟩ := hcovered.exists_unanswered hlength
          exact (hstacked.insert hsize hpending a).2
      | _ => cases hlast

/-- An insertion of such a run gives out the handle of the latest unanswered removal. -/
theorem WellFormed.insert_fst_eq_iff (ht : t.WellFormed) (hsize : t.entries.size < 2 ^ 63) {a : α}
    (hchurns : t.Churns (requests ++ [TableRequest.insert a]))
    (hcovered : Covered (requests ++ [TableRequest.insert a])) :
    ((t.run requests).2.insert a).1 = h ↔ LatestUnanswered requests h := by
  have hstacked := ht.stacked hsize hchurns.of_append hcovered.of_append
  obtain ⟨hcut, hlength⟩ := cutAt_unanswered hchurns.of_append.kinds hcovered.of_append
  obtain ⟨k, pending, hpending⟩ := hcovered.exists_unanswered hlength
  rw [hpending] at hcut
  rw [(hstacked.insert hsize hpending a).1]
  constructor
  · rintro rfl
    exact hcut.latestUnanswered
  · intro hlatest
    obtain ⟨rest, hrest⟩ := hlatest.unanswered_eq
    exact (List.cons.inj (hpending.symm.trans hrest)).1

/-! ## Undoing removals -/

/-- On a well-formed table the handles with a value under them are those of the slots, but for the
free ones. -/
theorem WellFormed.contains_iff (ht : t.WellFormed) :
    t.contains h = true ↔
      (1 ≤ h.number.toNat ∧ h.number.toNat ≤ t.entries.size) ∧ h ∉ t.free := by
  rw [ht.mem_free_iff, slot?_eq_some_iff, contains, Option.isSome_iff_exists]
  constructor
  · rintro ⟨a, ha⟩
    obtain ⟨hpos, hle, hentry⟩ := slot?_eq_some_iff.1 (get?_eq_some_iff.1 ha)
    refine ⟨⟨hpos, hle⟩, fun hempty => ?_⟩
    rw [hentry] at hempty
    cases hempty.2.2
  · rintro ⟨⟨hpos, hle⟩, hoccupied⟩
    have hlt : h.number.toNat - 1 < t.entries.size := by omega
    have hentry := Array.getElem?_eq_getElem hlt
    cases hslot : t.entries[h.number.toNat - 1] with
    | none => exact absurd ⟨hpos, hle, hentry.trans (congrArg some hslot)⟩ hoccupied
    | some a =>
        refine ⟨a, get?_eq_some_iff.2 (slot?_eq_some_iff.2 ⟨hpos, hle, ?_⟩)⟩
        rw [hentry, hslot]

/-- A table whose removals have all been answered has the stack, the size and the handles of the
start. -/
theorem Stacked.balanced (hstacked : Stacked t requests) (ht : t.WellFormed)
    (hsize : t.entries.size < 2 ^ 63) (hnone : unanswered requests = []) :
    (t.run requests).2.free = t.free ∧ (t.run requests).2.size = t.size ∧
      ∀ h, (t.run requests).2.contains h = t.contains h := by
  have hfree : (t.run requests).2.free = t.free := by
    rw [hstacked.free_eq, hnone, List.nil_append]
  have hslots := hstacked.entries_size_eq
  refine ⟨hfree, ?_, fun h => ?_⟩
  · have hbefore := ht.size_add_freeCount hsize
    have hafter := hstacked.wellFormed.size_add_freeCount (by rwa [hslots])
    rw [freeCount] at hbefore hafter
    rw [hfree, hslots] at hafter
    omega
  · rw [Bool.eq_iff_iff, hstacked.wellFormed.contains_iff, ht.contains_iff, hfree, hslots]

/-- Inserting the value that was just removed changes the table back. -/
theorem WellFormed.insert_remove (ht : t.WellFormed) {a : α} (ha : t.get? h = some a) :
    (t.remove h).2.insert a = (h, t) := by
  have hpos := ht.size_pos ha
  obtain ⟨-, hlt, hentry⟩ := slot_lt_of_slot? (get?_eq_some_iff.1 ha)
  rw [remove_of_get?_eq_some ha, insert_of_free_cons rfl]
  refine Prod.ext rfl (SlotTable.ext ?_ rfl (Nat.sub_add_cancel hpos))
  show (t.entries.setIfInBounds h.slot none).setIfInBounds h.slot (some a) = t.entries
  rw [Array.setIfInBounds_setIfInBounds, Array.setIfInBounds, dif_pos hlt, ← hentry]
  exact Array.set_getElem_self hlt

/-- Inserting removed values from the last one back restores the table. The induction is on the
handles: what is removed first is inserted last. -/
theorem WellFormed.restore (ht : t.WellFormed) {handles : List Handle} {values : List α}
    (hnodup : handles.Nodup) (hvalues : handles.map t.get? = values.map some) :
    (t.run (handles.map .remove)).1 = values.map (fun a => .value (some a)) ∧
      (t.run (handles.map .remove)).2.run (values.reverse.map .insert) =
        (handles.reverse.map .handle, t) := by
  induction handles generalizing t values with
  | nil =>
      obtain rfl := List.map_eq_nil_iff.1 hvalues.symm
      exact ⟨rfl, rfl⟩
  | cons h handles ih =>
      cases values with
      | nil => cases hvalues
      | cons a values =>
          obtain ⟨ha, hrest⟩ := List.cons.inj hvalues
          obtain ⟨hnotin, hnodup⟩ := List.nodup_cons.1 hnodup
          -- The other handles still have their values when the first one is gone.
          have hkept : handles.map (t.remove h).2.get? = values.map some := by
            rw [← hrest]
            refine List.map_congr_left fun k hk => ?_
            rw [get?_remove, if_neg]
            rintro rfl
            exact hnotin hk
          obtain ⟨hanswers, hback⟩ := ih (ht.remove h) hnodup hkept
          have hfirst : (t.remove h).1 = some a := by rw [remove_of_get?_eq_some ha]
          have hrun : t.run ((h :: handles).map .remove) =
              (.value (some a) :: ((t.remove h).2.run (handles.map .remove)).1,
                ((t.remove h).2.run (handles.map .remove)).2) := by
            rw [← hfirst]
            rfl
          have hlast : (t.remove h).2.run [.insert a] = ([.handle h], t) := by
            show ([TableAnswer.handle ((t.remove h).2.insert a).1],
              ((t.remove h).2.insert a).2) = _
            rw [ht.insert_remove ha]
          refine ⟨by rw [hrun, hanswers, List.map_cons], ?_⟩
          rw [hrun, List.reverse_cons, List.map_append, List.reverse_cons, List.map_append,
            run_append_requests, hback]
          show (_ ++ ((t.remove h).2.run [.insert a]).1, ((t.remove h).2.run [.insert a]).2) = _
          rw [hlast]
          rfl

/-- In a covered run of insertions and successful removals on a reachable table, an insertion gives
out a handle exactly if the latest removal that no insertion before it has answered is that of the
handle; the next fresh handle never changes; and when every removal has been answered, the stack of
free handles, the size and the handles with a value under them are those of the start, and the
values are, but for the handles that were removed. So inserting what was removed from different
handles, the last one first, gives every value its handle again and restores the table. -/
theorem insertions_answer_removals (ht : t.Reachable) (hsize : t.entries.size < 2 ^ 63) :
    (∀ requests, t.Churns requests → Covered requests →
      (∀ earlier a later, requests = earlier ++ .insert a :: later →
        ∀ h, ((t.run earlier).2.insert a).1 = h ↔ LatestUnanswered earlier h) ∧
      (∀ earlier later, requests = earlier ++ later →
        (t.run earlier).2.nextFresh = t.nextFresh) ∧
      (removals requests = insertions requests →
        (t.run requests).2.free = t.free ∧ (t.run requests).2.size = t.size ∧
          (∀ h, (t.run requests).2.contains h = t.contains h) ∧
          ∀ h, .remove h ∉ requests → (t.run requests).2.get? h = t.get? h)) ∧
    ∀ (handles : List Handle) (values : List α), handles.Nodup →
      handles.map t.get? = values.map some →
      (t.run (handles.map .remove)).1 = values.map (fun a => .value (some a)) ∧
        (t.run (handles.map .remove)).2.run (values.reverse.map .insert) =
          (handles.reverse.map .handle, t) := by
  have hwell := ht.wellFormed hsize
  refine ⟨fun requests hchurns hcovered => ⟨?_, ?_, fun hbalance => ?_⟩, fun _ _ => hwell.restore⟩
  · rintro earlier a later rfl h
    rw [List.append_cons] at hchurns hcovered
    exact hwell.insert_fst_eq_iff hsize hchurns.of_append hcovered.of_append
  · rintro earlier later rfl
    have hstacked := hwell.stacked hsize hchurns.of_append hcovered.of_append
    rw [nextFresh, hstacked.entries_size_eq, ← nextFresh]
  · have hstacked := hwell.stacked hsize hchurns hcovered
    obtain ⟨-, hlength⟩ := cutAt_unanswered hchurns.kinds hcovered
    have hnone : unanswered requests = [] := List.length_eq_zero_iff.1 (by omega)
    obtain ⟨hfree, hcount, hlive⟩ := hstacked.balanced hwell hsize hnone
    exact ⟨hfree, hcount, hlive, hstacked.get?_eq⟩

/-- A run that removes what was inserted during it: the first insertion gives out handle two, the
next removal takes it back, and the handles two and three are given out again in that order. -/
def nestedChurn : List (TableRequest Nat) :=
  [.remove ⟨2⟩, .insert 9, .remove ⟨3⟩, .remove ⟨2⟩, .insert 4, .insert 6]

/-- On a table with a free handle below them the brackets of this run leave that handle free, and
restoring two removed values leaves the table as it was. -/
theorem insertions_answer_nested_removals :
    ∃ t : SlotTable Nat, t.Reachable ∧ t.entries.size < 2 ^ 63 ∧ t.free = [⟨1⟩] ∧
      t.Churns nestedChurn ∧ Covered nestedChurn ∧
      removals nestedChurn = insertions nestedChurn ∧
      LatestUnanswered (nestedChurn.take 4) ⟨2⟩ ∧
      (t.run nestedChurn).2.free = [⟨1⟩] ∧
      (t.run [.remove ⟨2⟩, .remove ⟨3⟩]).2.run [.insert 8, .insert 7] =
        ([.handle ⟨3⟩, .handle ⟨2⟩], t) := by
  have hreach : (⟨#[none, some 7, some 8], [⟨1⟩], 2⟩ : SlotTable Nat).Reachable :=
    ⟨[.insert 5, .insert 7, .insert 8, .remove ⟨1⟩], by decide, rfl⟩
  obtain ⟨hruns, hrestore⟩ := insertions_answer_removals hreach (by decide)
  have hchurns : (⟨#[none, some 7, some 8], [⟨1⟩], 2⟩ : SlotTable Nat).Churns nestedChurn := by
    unfold Churns
    decide
  obtain ⟨hanswers, -, hbalanced⟩ := hruns nestedChurn hchurns (by decide)
  refine ⟨_, hreach, by decide, rfl, hchurns, by decide, by decide, ?_, ?_, ?_⟩
  · exact (hanswers (nestedChurn.take 4) 4 [.insert 6] rfl ⟨2⟩).1 rfl
  · exact (hbalanced (by decide)).1
  · exact (hrestore [⟨2⟩, ⟨3⟩] [7, 8] (by decide) (by decide)).2

end SlotTable

end HostBoundary
