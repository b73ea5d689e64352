import HostBoundary.HostObject
import HostBoundary.Proofs.Registry.Routes
import HostBoundary.Proofs.SlotTable.Entries

/-!
# Where stored values end up

Every value that a slot table is given is at any time in one of three places: some removal has
returned it, a later value has replaced it, or it is still in the table.
`stored_values_are_conserved` says so as an account of all requests from the empty table on: the
values stored, counted with repetitions, are those returned, those replaced and those that are left.
To the slots of a registry a call is one such request (`CallEffect.tableRequest`), so that the same
account holds for registered objects: each is handed back by one release or still registered.

One request changes the account on both sides alike (`WellFormed.perm_values_answer`), and the run
lemma adds this up.
-/

namespace HostBoundary

universe u v

variable {α : Type u} {κ : Type v}

/-! ## The account of a slot table -/

/-- The value that a request stored: one that was inserted, or that took the place of another. -/
def stored? : TableRequest α × TableAnswer α → Option α
  | (.insert a, _) => some a
  | (.overwrite _ a, .value (some _)) => some a
  | _ => none

/-- The value that a removal returned. -/
def returned? : TableRequest α × TableAnswer α → Option α
  | (.remove _, .value a) => a
  | _ => none

/-- The value that another one replaced. -/
def replaced? : TableRequest α × TableAnswer α → Option α
  | (.overwrite _ _, .value old) => old
  | _ => none

/-- A list with one more element keeps at most one more value. -/
theorem filterMap_append_singleton {τ : Type v} (keep : τ → Option α) (list : List τ) (last : τ) :
    (list ++ [last]).filterMap keep = list.filterMap keep ++ (keep last).toList := by
  rw [List.filterMap_append, List.filterMap_eq_flatMap_toList keep [last], List.flatMap_singleton]

/-- Accounts add up: what a run that goes on for a request got and had is what it gave away and what
it has in the end. -/
theorem perm_account {had ins outs trades before newIns newOuts newTrades after : List α}
    (hpast : (ins ++ had).Perm (outs ++ trades ++ before))
    (hstep : (newIns ++ before).Perm (newOuts ++ newTrades ++ after)) :
    (ins ++ newIns ++ had).Perm ((outs ++ newOuts) ++ (trades ++ newTrades) ++ after) := by
  rw [← Multiset.coe_eq_coe] at hpast hstep ⊢
  simp only [← Multiset.coe_add] at hpast hstep ⊢
  calc (ins + newIns + had : Multiset α)
      = ins + had + newIns := by abel
    _ = outs + trades + (newIns + before) := by rw [hpast]; abel
    _ = outs + trades + (newOuts + newTrades + after) := by rw [hstep]
    _ = (outs + newOuts) + (trades + newTrades) + after := by abel

namespace SlotTable

variable {t : SlotTable α}

/-- The values in a table, in the order of their handles. -/
def values (t : SlotTable α) : List α :=
  t.toList.map Prod.snd

/-- There is no value in the empty table. -/
theorem values_empty : (empty : SlotTable α).values = [] := rfl

/-- What a request adds to the values, returns, replaces and leaves. -/
theorem WellFormed.perm_values_answer (ht : t.WellFormed) (request : TableRequest α)
    (hnext : (t.answer request).2.entries.size < 2 ^ 63) :
    ((stored? (request, (t.answer request).1)).toList ++ t.values).Perm
      ((returned? (request, (t.answer request).1)).toList ++
        (replaced? (request, (t.answer request).1)).toList ++ (t.answer request).2.values) := by
  have hsize := t.entries_size_lt_of_answer request hnext
  cases request with
  | insert a => exact ((ht.perm_toList_insert hsize hnext).map Prod.snd).symm
  | remove h =>
      show (t.toList.map Prod.snd).Perm
        ((t.remove h).1.toList ++ [] ++ (t.remove h).2.toList.map Prod.snd)
      rw [List.append_nil]
      cases ha : t.get? h with
      | none =>
          rw [remove_of_get?_eq_none ha]
          rfl
      | some a =>
          have htaken := (perm_toList_remove hsize ha).map Prod.snd
          rw [remove_fst, ha]
          exact htaken
  | overwrite h a =>
      show ((stored? (.overwrite h a, .value (t.overwrite h a).1)).toList ++ t.values).Perm
        ((t.overwrite h a).1.toList ++ (t.overwrite h a).2.values)
      cases hold : t.get? h with
      | none =>
          rw [overwrite_of_get?_eq_none hold]
          rfl
      | some old =>
          have hbefore := (perm_toList_remove hsize hold).map Prod.snd
          have hafter := (perm_toList_overwrite hsize hold a).map Prod.snd
          have hreplaced : (t.overwrite h a).1 = some old := by
            rw [overwrite_of_get?_eq_some hold]
          rw [hreplaced]
          -- Without the entry of the handle the values are the same before and after.
          exact ((hbefore.cons a).trans (.swap old a _)).trans (hafter.symm.cons old)
  | get | contains | size | isEmpty | freeCount | nextFresh => exact .refl _

/-- The account of a run: what was stored and what the table had before is what was returned, what
was replaced and what the table has in the end. -/
theorem WellFormed.perm_values_run (ht : t.WellFormed) {requests : List (TableRequest α)}
    (hend : (t.run requests).2.entries.size < 2 ^ 63) :
    ((history SlotTable.answer t requests).filterMap stored? ++ t.values).Perm
      ((history SlotTable.answer t requests).filterMap returned? ++
        (history SlotTable.answer t requests).filterMap replaced? ++
        (t.run requests).2.values) := by
  induction requests using List.reverseRecOn with
  | nil => exact .refl _
  | append_singleton requests request ih =>
      have hnext : ((t.run requests).2.answer request).2.entries.size < 2 ^ 63 := by
        rw [← run_append_request]
        exact hend
      have hbefore := entries_size_lt_of_answer _ request hnext
      rw [run_append_request, history_append_singleton, filterMap_append_singleton,
        filterMap_append_singleton, filterMap_append_singleton]
      exact perm_account (ih hbefore) ((ht.run hbefore).perm_values_answer request hnext)

end SlotTable

/-! ## The account of a registry -/

namespace CallEffect

/-- The object that a call registers. -/
def registered? : CallEffect α → Option α
  | .registers a => some a
  | .releases _ | .nothing => none

/-- The object that a call takes out of a registry: what the release that it makes hands back. -/
def released? (r : Registry α) : CallEffect α → Option α
  | .releases h => (r.release h).1.result
  | .registers _ | .nothing => none

end CallEffect

namespace Registry

variable [HasKind α κ] [DecidableEq κ]

/-- In the run of requests that a run of calls is to the slots, the values stored are the objects
registered, those returned are the objects released, and none is replaced. -/
theorem account_of_requests (r : Registry α) (calls : List (AccessCall α κ)) :
    (history SlotTable.answer r.slots
        (calls.map fun call => call.effect.tableRequest)).filterMap stored? =
      calls.filterMap (fun call => call.effect.registered?) ∧
    (history SlotTable.answer r.slots
        (calls.map fun call => call.effect.tableRequest)).filterMap returned? =
      (moments access r calls).filterMap (fun moment => moment.2.effect.released? moment.1) ∧
    (history SlotTable.answer r.slots
        (calls.map fun call => call.effect.tableRequest)).filterMap replaced? = [] := by
  induction calls generalizing r with
  | nil => exact ⟨rfl, rfl, rfl⟩
  | cons call calls ih =>
      obtain ⟨hstored, hreturned, hreplaced⟩ := ih (r.access call).2
      rw [slots_access] at hstored hreturned hreplaced
      have hfirst : stored? (call.effect.tableRequest,
          (r.slots.answer call.effect.tableRequest).1) = call.effect.registered? := by
        cases call.effect <;> rfl
      have hhanded : returned? (call.effect.tableRequest,
          (r.slots.answer call.effect.tableRequest).1) = call.effect.released? r := by
        cases call.effect with
        | releases h => exact (SlotTable.remove_fst ..).trans (result_release r h).symm
        | registers a => rfl
        | nothing => rfl
      have hnone : replaced? (call.effect.tableRequest,
          (r.slots.answer call.effect.tableRequest).1) = none := by
        cases call.effect <;> rfl
      rw [List.map_cons, history_cons, moments]
      refine ⟨?_, ?_, ?_⟩
      · rw [List.filterMap_cons, List.filterMap_cons, hfirst, hstored]
      · rw [List.filterMap_cons, List.filterMap_cons, hhanded, hreturned]
      · rw [List.filterMap_cons_none hnone, hreplaced]

/-- The account of a run of calls: the objects registered and those that there were before are those
that releases hand back and those that there are in the end. -/
theorem perm_objects_runAccess {r : Registry α} (hr : r.slots.WellFormed)
    {calls : List (AccessCall α κ)}
    (hend : (r.runAccess calls).2.slots.entries.size < 2 ^ 63) :
    ((calls.filterMap fun call => call.effect.registered?) ++ r.slots.values).Perm
      (((moments access r calls).filterMap fun moment => moment.2.effect.released? moment.1) ++
        (r.runAccess calls).2.slots.values) := by
  obtain ⟨hstored, hreturned, hreplaced⟩ := account_of_requests r calls
  rw [slots_runAccess] at hend
  have haccount := hr.perm_values_run hend
  rwa [hstored, hreturned, hreplaced, ← slots_runAccess, List.append_nil] at haccount

/-- In every run from the empty table the values stored, by insertions and by overwriting, are those
returned by removals, those replaced by later values and those that are left, each as often as it
was stored. In every run of calls on the empty registry, by whatever routes, the objects registered
are those handed back by releases and those that are left, each as often as it was registered. So
when all of them are different, each is in one of these places and has come there once. -/
theorem stored_values_are_conserved :
    (∀ requests : List (TableRequest α),
      (SlotTable.empty.run requests).2.entries.size < 2 ^ 63 →
      ((history SlotTable.answer .empty requests).filterMap stored?).Perm
        ((history SlotTable.answer .empty requests).filterMap returned? ++
          (history SlotTable.answer .empty requests).filterMap replaced? ++
          (SlotTable.empty.run requests).2.toList.map Prod.snd) ∧
      (((history SlotTable.answer .empty requests).filterMap stored?).Nodup →
        ((history SlotTable.answer .empty requests).filterMap returned? ++
          (history SlotTable.answer .empty requests).filterMap replaced? ++
          (SlotTable.empty.run requests).2.toList.map Prod.snd).Nodup)) ∧
    ∀ calls : List (AccessCall α κ),
      (empty.runAccess calls).2.slots.entries.size < 2 ^ 63 →
      (calls.filterMap fun call => call.effect.registered?).Perm
        (((moments access empty calls).filterMap fun moment =>
            moment.2.effect.released? moment.1) ++
          (empty.runAccess calls).2.slots.toList.map Prod.snd) ∧
      ((calls.filterMap fun call => call.effect.registered?).Nodup →
        (((moments access empty calls).filterMap fun moment =>
            moment.2.effect.released? moment.1) ++
          (empty.runAccess calls).2.slots.toList.map Prod.snd).Nodup) := by
  refine ⟨fun requests hend => ?_, fun calls hend => ?_⟩
  · have haccount := SlotTable.wellFormed_empty.perm_values_run hend
    rw [SlotTable.values_empty, List.append_nil] at haccount
    exact ⟨haccount, haccount.nodup⟩
  · have hempty : (empty : Registry α).slots.WellFormed := SlotTable.wellFormed_empty
    have hnone : (empty : Registry α).slots.values = [] := SlotTable.values_empty
    have haccount := perm_objects_runAccess hempty hend
    rw [hnone, List.append_nil] at haccount
    exact ⟨haccount, haccount.nodup⟩

/-- One of two equal values is replaced and the other one removed, and the handle is used again. -/
def replacing : List (TableRequest HostObject) :=
  [.insert (.byte 5), .insert (.byte 5), .overwrite ⟨1⟩ .unit, .remove ⟨2⟩,
    .overwrite ⟨2⟩ (.byte 7), .remove ⟨2⟩, .insert (.byte 8), .get ⟨2⟩]

/-- Foreign code releases one of two objects, and the host tries to release it again. -/
def releasedTwice : List (AccessCall HostObject ObjectKind) :=
  [.host (.register (.byte 5)), .bridge (.issue .unit), .foreign (.release ⟨1⟩),
    .host (.release ⟨1⟩)]

/-- The value stored twice was replaced once and returned once, and overwriting and removing nothing
leave no trace in the account. Without the first insertion all values stored are different, and
none is in two places. Of the two objects one was handed back once and one is left. -/
theorem stored_values_are_conserved_when_released_twice :
    ((SlotTable.empty.run replacing).2.entries.size < 2 ^ 63 ∧
      ((history SlotTable.answer .empty replacing).filterMap stored?).Perm
        ((history SlotTable.answer .empty replacing).filterMap returned? ++
          (history SlotTable.answer .empty replacing).filterMap replaced? ++
          (SlotTable.empty.run replacing).2.toList.map Prod.snd) ∧
      (history SlotTable.answer .empty replacing).filterMap stored? =
        [.byte 5, .byte 5, .unit, .byte 8] ∧
      (history SlotTable.answer .empty replacing).filterMap returned? = [.byte 5] ∧
      (history SlotTable.answer .empty replacing).filterMap replaced? = [.byte 5] ∧
      (SlotTable.empty.run replacing).2.toList = [(⟨1⟩, .unit), (⟨2⟩, .byte 8)]) ∧
    ((SlotTable.empty.run replacing.tail).2.entries.size < 2 ^ 63 ∧
      ((history SlotTable.answer .empty replacing.tail).filterMap stored?).Nodup ∧
      ((history SlotTable.answer .empty replacing.tail).filterMap returned? ++
        (history SlotTable.answer .empty replacing.tail).filterMap replaced? ++
        (SlotTable.empty.run replacing.tail).2.toList.map Prod.snd).Nodup) ∧
    (empty.runAccess releasedTwice).2.slots.entries.size < 2 ^ 63 ∧
      (releasedTwice.filterMap fun call => call.effect.registered?).Perm
        (((moments access empty releasedTwice).filterMap fun moment =>
            moment.2.effect.released? moment.1) ++
          (empty.runAccess releasedTwice).2.slots.toList.map Prod.snd) ∧
      (releasedTwice.filterMap fun call => call.effect.registered?).Nodup ∧
      (((moments access empty releasedTwice).filterMap fun moment =>
            moment.2.effect.released? moment.1) ++
          (empty.runAccess releasedTwice).2.slots.toList.map Prod.snd).Nodup ∧
      ((moments access empty releasedTwice).filterMap fun moment =>
        moment.2.effect.released? moment.1) = [.byte 5] ∧
      (empty.runAccess releasedTwice).2.slots.toList = [(⟨2⟩, .unit)] := by
  have hsize : (SlotTable.empty.run replacing).2.entries.size < 2 ^ 63 := by decide
  have hsize' : (SlotTable.empty.run replacing.tail).2.entries.size < 2 ^ 63 := by decide
  have hdifferent : ((history SlotTable.answer .empty replacing.tail).filterMap stored?).Nodup := by
    decide
  have hfits : (empty.runAccess releasedTwice).2.slots.entries.size < 2 ^ 63 := by decide
  have hobjects : (releasedTwice.filterMap fun call => call.effect.registered?).Nodup := by decide
  obtain ⟨htable, hregistry⟩ := stored_values_are_conserved (α := HostObject) (κ := ObjectKind)
  obtain ⟨haccount, honce⟩ := hregistry releasedTwice hfits
  refine ⟨⟨hsize, (htable replacing hsize).1, ?_, ?_, ?_, ?_⟩,
    ⟨hsize', hdifferent, (htable replacing.tail hsize').2 hdifferent⟩,
    hfits, haccount, hobjects, honce hobjects, ?_, ?_⟩
  all_goals decide

end Registry

end HostBoundary
