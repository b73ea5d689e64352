import HostBoundary.HostObject
import HostBoundary.Proofs.Registry.Routes

/-!
# Compact handles

Handles are recycled before new ones are made, so a table never opens more slots than it has had
values at one time. `handles_are_compact` says this of slot tables and of registries, over the whole
of any run from the empty one: the number of slots is the peak of the size over all states of the
run, the handles given out are those from one up to the peak, and a handle is given out for the
first time only when every handle given out before has a value.

What drives the table does not matter. `TableStep` is what one step of anything that keeps its
values in a slot table can do to the table, and the invariant `Saturated` ties the slots, the
handles given out so far and the peak so far together. Requests to a table and calls on a registry
are two instances.
-/

namespace HostBoundary

universe u v w x

/-! ## The peak of a measure -/

section Peak

variable {σ : Type u} {ρ : Type v} {β : Type w} {answer : σ → ρ → β × σ} {measure : σ → Nat}

/-- The largest value that a measure has in the states of a run, the first and the last one
included. -/
def peak (answer : σ → ρ → β × σ) (measure : σ → Nat) (state : σ) : List ρ → Nat
  | [] => measure state
  | request :: requests =>
      max (measure state) (peak answer measure (answer state request).2 requests)

/-- One more request can only raise the peak, to the measure of the state that it leaves. -/
theorem peak_append_singleton (state : σ) (requests : List ρ) (request : ρ) :
    peak answer measure state (requests ++ [request]) =
      max (peak answer measure state requests)
        (measure (run answer state (requests ++ [request])).2) := by
  induction requests generalizing state with
  | nil => rfl
  | cons first requests ih =>
      rw [List.cons_append, peak, ih, ← max_assoc]
      rfl

end Peak

/-! ## One step on a table -/

variable {α : Type u} {κ : Type v}

/-- What one step can do to the table in which it keeps its values, and the handle that it gives
out, if it gives out one. -/
inductive TableStep (t : SlotTable α) : SlotTable α → Option Handle → Prop where
  /-- It inserts a value and gives out its handle. -/
  | insert (a : α) : TableStep t (t.insert a).2 (some (t.insert a).1)
  /-- It removes the value of a handle, if there is one. -/
  | remove (h : Handle) : TableStep t (t.remove h).2 none
  /-- It overwrites the value of a handle, if there is one. -/
  | overwrite (h : Handle) (a : α) : TableStep t (t.overwrite h a).2 none
  /-- It leaves the table as it is. -/
  | keep : TableStep t t none

namespace TableStep

variable {t next : SlotTable α} {issued : Option Handle}

/-- No step closes a slot. -/
theorem entries_size_le (hstep : TableStep t next issued) :
    t.entries.size ≤ next.entries.size := by
  cases hstep with
  | insert a => exact t.entries_size_le_insert a
  | remove h => exact (t.entries_size_remove h).ge
  | overwrite h a => exact (t.entries_size_overwrite h a).ge
  | keep => exact Nat.le_refl _

end TableStep

namespace SlotTable

variable {t next : SlotTable α} {issued : Option Handle} {handles : List Handle} {most : Nat}

/-- The number of the next handle never used. -/
theorem toNat_nextFresh (hsize : t.entries.size < 2 ^ 63) :
    t.nextFresh.number.toNat = t.entries.size + 1 :=
  Handle.toNat_ofSlot hsize

/-- The numbers of the free handles are those of slots. -/
theorem WellFormed.toNat_le_of_mem_free (ht : t.WellFormed) {h : Handle} (hmem : h ∈ t.free) :
    1 ≤ h.number.toNat ∧ h.number.toNat ≤ t.entries.size := by
  obtain ⟨hpos, hle, -⟩ := slot?_eq_some_iff.1 ((ht.mem_free_iff h).1 hmem)
  exact ⟨hpos, hle⟩

/-- Where no handle is free, every handle of a slot has a value. -/
theorem WellFormed.contains_of_free_nil (ht : t.WellFormed) (hfree : t.free = []) {h : Handle}
    (hpos : 1 ≤ h.number.toNat) (hle : h.number.toNat ≤ t.entries.size) :
    t.contains h = true := by
  have hlt : h.number.toNat - 1 < t.entries.size := by omega
  have hslot : t.slot? h = some t.entries[h.number.toNat - 1] :=
    slot?_eq_some_iff.2 ⟨hpos, hle, Array.getElem?_eq_getElem hlt⟩
  have hfull : t.entries[h.number.toNat - 1] ≠ none := by
    intro hempty
    rw [hempty] at hslot
    have hmem := (ht.mem_free_iff h).2 hslot
    rw [hfree] at hmem
    cases hmem
  rw [contains, get?, hslot]
  exact Option.isSome_iff_ne_none.2 hfull

/-- Removing a value makes a table no larger. -/
theorem WellFormed.size_remove_le (ht : t.WellFormed) (h : Handle) :
    (t.remove h).2.size ≤ t.size := by
  cases ha : t.get? h with
  | none => rw [remove_of_get?_eq_none ha]
  | some a =>
      have hsize := ht.size_remove ha
      omega

/-- The slots of a table are as many as it has ever had values at one time, and the handles that
have been given out are exactly those of its slots. -/
structure Saturated (t : SlotTable α) (handles : List Handle) (most : Nat) : Prop where
  /-- The parts of the table agree. -/
  wellFormed : t.WellFormed
  /-- There are as many slots as there have been values at one time. -/
  entries_size_eq : t.entries.size = most
  /-- The handles given out are those of the slots. -/
  mem_handles_iff : ∀ h, h ∈ handles ↔ 1 ≤ h.number.toNat ∧ h.number.toNat ≤ t.entries.size

/-- Nothing has been given out of the empty table. -/
theorem saturated_empty : Saturated (empty : SlotTable α) [] 0 where
  wellFormed := wellFormed_empty
  entries_size_eq := rfl
  mem_handles_iff h := by
    show h ∈ [] ↔ 1 ≤ h.number.toNat ∧ h.number.toNat ≤ 0
    simp only [List.not_mem_nil, false_iff]
    omega

/-- An insertion that finds no free handle opens a slot when all others are occupied, and one that
finds a free handle gives out a handle for another time. -/
theorem Saturated.insert (ht : Saturated t handles most) (hsize : t.entries.size < 2 ^ 63) (a : α) :
    Saturated (t.insert a).2 (handles ++ [(t.insert a).1]) (max most (t.insert a).2.size) := by
  have hcount := ht.wellFormed.size_add_freeCount hsize
  have hmost := ht.entries_size_eq
  refine ⟨ht.wellFormed.insert hsize a, ?_, fun h => ?_⟩
  · rw [size_insert]
    cases hfree : t.free with
    | nil =>
        rw [insert_of_free_nil hfree]
        simp only [freeCount, hfree, List.length_nil] at hcount
        show (t.entries.push (some a)).size = max most (t.size + 1)
        rw [Array.size_push]
        omega
    | cons k rest =>
        rw [insert_of_free_cons hfree]
        simp only [freeCount, hfree, List.length_cons] at hcount
        show (t.entries.setIfInBounds k.slot (some a)).size = max most (t.size + 1)
        rw [Array.size_setIfInBounds]
        omega
  · rw [List.mem_append, List.mem_singleton, ht.mem_handles_iff]
    cases hfree : t.free with
    | nil =>
        have hnumber := toNat_nextFresh hsize
        rw [insert_of_free_nil hfree]
        show _ ∨ h = t.nextFresh ↔
          1 ≤ h.number.toNat ∧ h.number.toNat ≤ (t.entries.push (some a)).size
        rw [Array.size_push, ← Handle.toNat_inj, hnumber]
        omega
    | cons k rest =>
        have hslot := ht.wellFormed.toNat_le_of_mem_free (h := k) (by simp [hfree])
        rw [insert_of_free_cons hfree]
        show _ ∨ h = k ↔ 1 ≤ h.number.toNat ∧
          h.number.toNat ≤ (t.entries.setIfInBounds k.slot (some a)).size
        rw [Array.size_setIfInBounds, ← Handle.toNat_inj]
        omega

/-- Every step keeps the invariant, with the handle that it gives out and the size that it leads
to. -/
theorem Saturated.step (ht : Saturated t handles most) (hsize : t.entries.size < 2 ^ 63)
    (hstep : TableStep t next issued) :
    Saturated next (handles ++ issued.toList) (max most next.size) := by
  have hle : t.size ≤ most := by
    have hcount := ht.wellFormed.size_add_freeCount hsize
    have hmost := ht.entries_size_eq
    omega
  cases hstep with
  | insert a => exact ht.insert hsize a
  | remove h =>
      have hless := ht.wellFormed.size_remove_le h
      rw [Option.toList_none, List.append_nil, max_eq_left (hless.trans hle)]
      refine ⟨ht.wellFormed.remove h, ?_, fun k => ?_⟩
      · rw [entries_size_remove, ht.entries_size_eq]
      · rw [entries_size_remove, ht.mem_handles_iff]
  | overwrite h a =>
      rw [Option.toList_none, List.append_nil, size_overwrite, max_eq_left hle]
      refine ⟨ht.wellFormed.overwrite h a, ?_, fun k => ?_⟩
      · rw [entries_size_overwrite, ht.entries_size_eq]
      · rw [entries_size_overwrite, ht.mem_handles_iff]
  | keep =>
      rw [Option.toList_none, List.append_nil, max_eq_left hle]
      exact ht

/-- A handle that a step gives out for the first time is the next one never used, and all that were
given out before have a value. -/
theorem Saturated.first_issue (ht : Saturated t handles most) {h : Handle}
    (hstep : TableStep t next (some h)) (hnew : h ∉ handles) :
    h = t.nextFresh ∧ ∀ k ∈ handles, t.contains k = true := by
  cases hstep with
  | insert a =>
      cases hfree : t.free with
      | nil =>
          refine ⟨by rw [insert_of_free_nil hfree], fun k hk => ?_⟩
          obtain ⟨hpos, hle⟩ := (ht.mem_handles_iff k).1 hk
          exact ht.wellFormed.contains_of_free_nil hfree hpos hle
      | cons k rest =>
          -- A free handle has a slot, so it has been given out before.
          have hslot := ht.wellFormed.toNat_le_of_mem_free (h := k) (by simp [hfree])
          rw [insert_of_free_cons hfree] at hnew
          exact absurd ((ht.mem_handles_iff k).2 hslot) hnew

end SlotTable

/-! ## Runs -/

section Runs

variable {σ : Type w} {ρ : Type x} {β : Type v} {answer : σ → ρ → β × σ} {slots : σ → SlotTable α}
  {issued? : ρ × β → Option Handle} {state : σ} {requests : List ρ}

/-- The handles that have been given out in a history, the first one first. -/
def issuedHandles (issued? : ρ × β → Option Handle) (past : List (ρ × β)) : List Handle :=
  past.filterMap issued?

/-- One more moment of a history adds the handle that it gives out, if it gives out one. -/
theorem issuedHandles_append_singleton (past : List (ρ × β)) (moment : ρ × β) :
    issuedHandles issued? (past ++ [moment]) =
      issuedHandles issued? past ++ (issued? moment).toList := by
  rw [issuedHandles, List.filterMap_append]
  cases hissued : issued? moment <;> simp [issuedHandles, hissued]

/-- The handles that a run gives out are no more than it needs. -/
structure HandlesCompact (answer : σ → ρ → β × σ) (slots : σ → SlotTable α)
    (issued? : ρ × β → Option Handle) (state : σ) (requests : List ρ) : Prop where
  /-- The number of the next handle never used is one above the largest number of values that there
  have been at one time. -/
  toNat_nextFresh : (slots (run answer state requests).2).nextFresh.number.toNat =
    peak answer (fun s => (slots s).size) state requests + 1
  /-- The handles given out are those from number one up to that largest number. -/
  mem_issuedHandles_iff : ∀ h, h ∈ issuedHandles issued? (history answer state requests) ↔
    1 ≤ h.number.toNat ∧ h.number.toNat ≤ peak answer (fun s => (slots s).size) state requests
  /-- When a handle is given out for the first time, it is the next one never used, and all that
  were given out before have a value. -/
  first_issue : ∀ earlier request later h, requests = earlier ++ request :: later →
    issued? (request, (answer (run answer state earlier).2 request).1) = some h →
    h ∉ issuedHandles issued? (history answer state earlier) →
      h = (slots (run answer state earlier).2).nextFresh ∧
        ∀ k ∈ issuedHandles issued? (history answer state earlier),
          (slots (run answer state earlier).2).contains k = true

variable (hstep : ∀ s request, TableStep (slots s) (slots (answer s request).2)
  (issued? (request, (answer s request).1)))

include hstep

/-- A run that ends below the limit on slots began below it. -/
theorem entries_size_lt_of_steps {limit : Nat}
    (hsize : (slots (run answer state requests).2).entries.size < limit) :
    (slots state).entries.size < limit := by
  refine within_of_run (fun s => (slots s).entries.size < limit) ?_ hsize
  intro s request hnext
  exact Nat.lt_of_le_of_lt (hstep s request).entries_size_le hnext

/-- A run from the empty table keeps the invariant. The induction is along the history, since what
has been given out and the peak are of the past. -/
theorem saturated_run (hstart : slots state = .empty)
    (hsize : (slots (run answer state requests).2).entries.size < 2 ^ 63) :
    (slots (run answer state requests).2).Saturated
      (issuedHandles issued? (history answer state requests))
      (peak answer (fun s => (slots s).size) state requests) := by
  induction requests using List.reverseRecOn with
  | nil =>
      show (slots state).Saturated [] (slots state).size
      rw [hstart]
      exact SlotTable.saturated_empty
  | append_singleton requests request ih =>
      have hlast := hstep (run answer state requests).2 request
      rw [← run_append_singleton] at hlast
      have hbefore := Nat.lt_of_le_of_lt hlast.entries_size_le hsize
      rw [history_append_singleton, issuedHandles_append_singleton, peak_append_singleton]
      exact (ih hbefore).step hbefore hlast

/-- The handles of a run from the empty table are compact. -/
theorem handlesCompact_run (hstart : slots state = .empty)
    (hsize : (slots (run answer state requests).2).entries.size < 2 ^ 63) :
    HandlesCompact answer slots issued? state requests := by
  have hend := saturated_run hstep hstart hsize
  refine ⟨?_, fun h => ?_, ?_⟩
  · rw [SlotTable.toNat_nextFresh hsize, hend.entries_size_eq]
  · rw [hend.mem_handles_iff, hend.entries_size_eq]
  · intro earlier request later h hsplit hissued hnew
    rw [hsplit, run_append] at hsize
    have hbefore := entries_size_lt_of_steps hstep hsize
    have hlast := hstep (run answer state earlier).2 request
    rw [hissued] at hlast
    exact (saturated_run hstep hstart hbefore).first_issue hlast hnew

end Runs

/-! ## Tables and registries -/

/-- The handle that a request to a table is answered with if it inserts a value. -/
def TableRequest.issued? : TableRequest α × TableAnswer α → Option Handle
  | (.insert _, .handle h) => some h
  | _ => none

/-- The handle that a call by any route is answered with if it registers an object. -/
def AccessCall.issued? (exchange : AccessCall α κ × Logged (Reply α)) : Option Handle :=
  match exchange.1.effect with
  | .registers _ => exchange.2.result.issued?
  | .releases _ | .nothing => none

/-- A request to a table is a step on it. -/
theorem SlotTable.tableStep_answer (t : SlotTable α) (request : TableRequest α) :
    TableStep t (t.answer request).2 (TableRequest.issued? (request, (t.answer request).1)) := by
  cases request with
  | insert a => exact .insert a
  | remove h => exact .remove h
  | overwrite h a => exact .overwrite h a
  | get | contains | size | isEmpty | freeCount | nextFresh => exact .keep

variable [HasKind α κ] [DecidableEq κ]

/-- A call on a registry is a step on its slots. -/
theorem Registry.tableStep_access (r : Registry α) (call : AccessCall α κ) :
    TableStep r.slots (r.access call).2.slots
      (AccessCall.issued? (call, (r.access call).1)) := by
  unfold AccessCall.issued?
  cases heffect : call.effect with
  | registers a =>
      have hregisters : Registers (call.toHost, (r.access call).1) (r.slots.insert a).1 a :=
        Registry.registers_access_iff.2 ⟨heffect, rfl⟩
      have hissued : (r.access call).1.result.issued? = some (r.slots.insert a).1 := hregisters.2
      show TableStep r.slots (r.access call).2.slots (r.access call).1.result.issued?
      rw [hissued, Registry.slots_access_of_registers heffect]
      exact .insert a
  | releases h =>
      rw [Registry.slots_access_of_releases heffect]
      exact .remove h
  | nothing =>
      rw [Registry.access_snd_of_nothing heffect]
      exact .keep

/-- The handles that any run gives out of the empty slot table are compact, and so are those that
any run of calls, by whatever routes, gives out of the empty registry: the next handle never used is
one above the peak of the size, the handles given out are those from one up to the peak, and one is
given out for the first time only when all that were given out before have a value. -/
theorem handles_are_compact {γ : Type w} :
    (∀ requests : List (TableRequest γ),
      ((SlotTable.empty : SlotTable γ).run requests).2.entries.size < 2 ^ 63 →
        HandlesCompact SlotTable.answer (fun t => t) TableRequest.issued? .empty requests) ∧
    ∀ calls : List (AccessCall α κ),
      ((Registry.empty : Registry α).runAccess calls).2.slots.entries.size < 2 ^ 63 →
        HandlesCompact Registry.access Registry.slots AccessCall.issued? .empty calls := by
  refine ⟨fun requests hsize => ?_, fun calls hsize => ?_⟩
  · exact handlesCompact_run SlotTable.tableStep_answer rfl hsize
  · exact handlesCompact_run Registry.tableStep_access rfl hsize

/-- Three values are inserted and two of them removed, and one of the two handles is given out
again. -/
def churned : List (TableRequest Nat) :=
  [.insert 5, .insert 6, .insert 7, .remove ⟨1⟩, .remove ⟨2⟩, .remove ⟨2⟩, .insert 8]

/-- Foreign code releases an object, and its handle is given out again by a bridge. -/
def reissued : List (AccessCall HostObject ObjectKind) :=
  [.host (.register .unit), .foreign (.release ⟨1⟩), .bridge (.issue (.byte 5))]

/-- The table has two values in the end, but it had three: the fourth handle is the next one never
used, and the third has been given out. The registry never had more than one object. -/
theorem handles_are_compact_after_churn :
    ((SlotTable.empty : SlotTable Nat).run churned).2.entries.size < 2 ^ 63 ∧
      ((SlotTable.empty : SlotTable Nat).run churned).2.size = 2 ∧
      ((SlotTable.empty : SlotTable Nat).run churned).2.nextFresh.number.toNat = 3 + 1 ∧
      ⟨3⟩ ∈ issuedHandles TableRequest.issued?
        (history SlotTable.answer (SlotTable.empty : SlotTable Nat) churned) ∧
      ((Registry.empty : Registry HostObject).runAccess reissued).2.slots.entries.size < 2 ^ 63 ∧
      ((Registry.empty : Registry HostObject).runAccess reissued).2.nextFresh.number.toNat =
        1 + 1 := by
  have htable : ((SlotTable.empty : SlotTable Nat).run churned).2.entries.size < 2 ^ 63 := by
    decide
  have hregistry : ((Registry.empty : Registry HostObject).runAccess
      reissued).2.slots.entries.size < 2 ^ 63 := by
    decide
  obtain ⟨htables, hregistries⟩ := @handles_are_compact HostObject ObjectKind _ _ Nat
  have hvalues := htables churned htable
  have hobjects := hregistries reissued hregistry
  refine ⟨htable, by decide, hvalues.toNat_nextFresh, ?_, hregistry, hobjects.toNat_nextFresh⟩
  exact (hvalues.mem_issuedHandles_iff ⟨3⟩).2 (by decide)

end HostBoundary
