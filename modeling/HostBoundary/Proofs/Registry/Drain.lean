import HostBoundary.Proofs.Registry.Ownership
import HostBoundary.Proofs.Registry.Routes

/-!
# Registrations in a row

Registrations use up the free handles first, from the top of the stack, and then open new slots one
after the other. `SlotTable.upcoming` lists the handles that the next registrations are given. It
depends on the table and on how many there are, and neither on what is registered nor on who
registers it. `registrations_drain_free_handles` says so for calls of any number of clients in any
order: they get these handles, all of them different, and leave the same stack and size behind in
every order; only which object is under which handle depends on the order.

Insertions are the steps: one insertion gives out the first of the upcoming handles and leaves the
others upcoming (`upcoming_succ`).
-/

namespace HostBoundary

universe u v w

/-- Handles of neighbouring slots have neighbouring numbers. -/
theorem Handle.ofSlot_add (position i : Nat) :
    ofSlot (position + i) = ⟨(ofSlot position).number + UInt64.ofNat i⟩ := by
  rw [ofSlot, ofSlot, ← UInt64.ofNat_add, Nat.add_right_comm]

namespace SlotTable

variable {α : Type u} {t : SlotTable α}

/-! ## Insertions in a row -/

/-- The handles that the next `k` insertions give out: the free handles from the top of the stack,
and when there are no more of them the handles from the next fresh one on. -/
def upcoming (t : SlotTable α) (k : Nat) : List Handle :=
  t.free.take k ++
    (List.range (k - t.freeCount)).map fun i => ⟨t.nextFresh.number + UInt64.ofNat i⟩

/-- The new handles among them are those of neighbouring slots. -/
theorem upcoming_eq (t : SlotTable α) (k : Nat) :
    t.upcoming k =
      t.free.take k ++ (List.range' t.entries.size (k - t.freeCount)).map Handle.ofSlot := by
  rw [upcoming, List.range'_eq_map_range, List.map_map]
  exact congrArg (t.free.take k ++ ·)
    (List.map_congr_left fun i _ => (Handle.ofSlot_add t.entries.size i).symm)

/-- Without an insertion no handle is upcoming. -/
theorem upcoming_zero (t : SlotTable α) : t.upcoming 0 = [] := by
  rw [upcoming, Nat.zero_sub]
  rfl

/-- An insertion gives out the first upcoming handle, and the others are upcoming afterwards. -/
theorem upcoming_succ (t : SlotTable α) (a : α) (k : Nat) :
    t.upcoming (k + 1) = (t.insert a).1 :: (t.insert a).2.upcoming k := by
  rw [upcoming_eq, upcoming_eq]
  cases hfree : t.free with
  | nil =>
      rw [insert_of_free_nil hfree, freeCount, hfree, freeCount, Array.size_push, List.take_nil,
        List.take_nil]
      rfl
  | cons h rest =>
      rw [insert_of_free_cons hfree, freeCount, hfree, freeCount, Array.size_setIfInBounds,
        List.length_cons, Nat.add_sub_add_right, List.take_succ_cons]
      rfl

/-- The number of slots after an insertion and `k` more is that after all of them. -/
theorem entries_size_insert_add (t : SlotTable α) (a : α) (k : Nat) :
    (t.insert a).2.entries.size + (k - (t.insert a).2.freeCount) =
      t.entries.size + (k + 1 - t.freeCount) := by
  cases hfree : t.free with
  | nil =>
      rw [insert_of_free_nil hfree, freeCount, freeCount, hfree, Array.size_push]
      exact Nat.add_right_comm _ _ _
  | cons h rest =>
      rw [insert_of_free_cons hfree, freeCount, freeCount, hfree, Array.size_setIfInBounds,
        List.length_cons, Nat.add_sub_add_right]

/-- An insertion takes the top of the stack away, if there is one. -/
theorem free_insert (t : SlotTable α) (a : α) : (t.insert a).2.free = t.free.tail := by
  cases hfree : t.free with
  | nil => rw [insert_of_free_nil hfree, List.tail_nil]
  | cons h rest => rw [insert_of_free_cons hfree, List.tail_cons]

/-- What insertions in a row answer and leave behind. -/
theorem run_inserts (t : SlotTable α) (values : List α) :
    (t.run (values.map .insert)).1 = (t.upcoming values.length).map .handle ∧
      (t.run (values.map .insert)).2.free = t.free.drop values.length ∧
      (t.run (values.map .insert)).2.size = t.size + values.length ∧
      (t.run (values.map .insert)).2.entries.size =
        t.entries.size + (values.length - t.freeCount) := by
  induction values generalizing t with
  | nil =>
      rw [List.length_nil, upcoming_zero, Nat.zero_sub]
      exact ⟨rfl, rfl, rfl, rfl⟩
  | cons a values ih =>
      obtain ⟨hhandles, hfree, hsize, hslots⟩ := ih (t.insert a).2
      have hrun : t.run ((a :: values).map .insert) =
          (.handle (t.insert a).1 :: ((t.insert a).2.run (values.map .insert)).1,
            ((t.insert a).2.run (values.map .insert)).2) := rfl
      rw [hrun, List.length_cons, upcoming_succ t a, hhandles, hfree, hsize, hslots, size_insert,
        entries_size_insert_add, free_insert, List.drop_tail]
      exact ⟨rfl, rfl, Nat.add_right_comm _ _ _, rfl⟩

/-- A table that insertions leave below the limit on slots was below it. -/
theorem entries_size_lt_of_run_inserts {values : List α} {limit : Nat}
    (hend : (t.run (values.map .insert)).2.entries.size < limit) : t.entries.size < limit := by
  obtain ⟨-, -, -, hslots⟩ := t.run_inserts values
  omega

/-- The upcoming handles are different ones, none is null, and none has a value under it. -/
theorem WellFormed.upcoming_vacant (ht : t.WellFormed) {values : List α}
    (hend : (t.run (values.map .insert)).2.entries.size < 2 ^ 63) :
    (t.upcoming values.length).Nodup ∧
      ∀ h ∈ t.upcoming values.length, h.isNull = false ∧ t.get? h = none := by
  induction values generalizing t with
  | nil =>
      rw [List.length_nil, upcoming_zero]
      exact ⟨List.nodup_nil, nofun⟩
  | cons a values ih =>
      have hsize := entries_size_lt_of_run_inserts hend
      obtain ⟨hnodup, hvacant⟩ := ih (ht.insert hsize a) hend
      rw [List.length_cons, t.upcoming_succ a]
      -- A handle that is still vacant after the first insertion is not the one it gave out.
      have hlater : ∀ h ∈ (t.insert a).2.upcoming values.length,
          h ≠ (t.insert a).1 ∧ t.get? h = none := by
        intro h hmem
        have hnone := (hvacant h hmem).2
        rw [get?_insert ht hsize] at hnone
        split at hnone
        · cases hnone
        · next hne => exact ⟨hne, hnone⟩
      refine ⟨List.nodup_cons.2 ⟨fun hmem => (hlater _ hmem).1 rfl, hnodup⟩, ?_⟩
      rw [List.forall_mem_cons]
      refine ⟨⟨ht.isNull_insert_fst hsize a, ht.get?_insert_fst hsize a⟩, fun h hmem => ?_⟩
      exact ⟨(hvacant h hmem).1, (hlater h hmem).2⟩

/-- Insertions keep what is there. -/
theorem WellFormed.get?_run_inserts (ht : t.WellFormed) {values : List α}
    (hend : (t.run (values.map .insert)).2.entries.size < 2 ^ 63) {h : Handle} {b : α}
    (hb : t.get? h = some b) : (t.run (values.map .insert)).2.get? h = some b := by
  induction values generalizing t with
  | nil => exact hb
  | cons a values ih =>
      have hsize := entries_size_lt_of_run_inserts hend
      refine ih (ht.insert hsize a) hend ?_
      refine (ht.get?_insert_eq_some_iff hsize a).2 (Or.inr ⟨hb, ?_⟩)
      rintro rfl
      rw [ht.get?_insert_fst hsize a] at hb
      cases hb

end SlotTable

/-! ## Registrations in a row -/

namespace Registry

variable {α : Type u} {κ : Type v} {ι : Type w} [HasKind α κ] [DecidableEq κ] {r : Registry α}

/-- Calls that register are insertions into the slots. -/
theorem slots_runAccess_of_registers {calls : List (AccessCall α κ)} {objects : List α}
    (heffects : calls.map AccessCall.effect = objects.map .registers) :
    (r.runAccess calls).2.slots = (r.slots.run (objects.map .insert)).2 := by
  have hrequests : calls.map (fun call => call.effect.tableRequest) = objects.map .insert := by
    calc calls.map (fun call => call.effect.tableRequest)
        = (calls.map AccessCall.effect).map CallEffect.tableRequest := by rw [List.map_map]; rfl
      _ = objects.map .insert := by rw [heffects, List.map_map]; rfl
  rw [slots_runAccess, hrequests]

/-- The replies to calls that register give out the upcoming handles. -/
theorem issued_runAccess_of_registers {calls : List (AccessCall α κ)} {objects : List α}
    (heffects : calls.map AccessCall.effect = objects.map .registers) :
    (r.runAccess calls).1.map (fun reply => reply.result.issued?) =
      (r.slots.upcoming objects.length).map some := by
  induction calls generalizing r objects with
  | nil =>
      obtain rfl := List.map_eq_nil_iff.1 heffects.symm
      rw [List.length_nil, SlotTable.upcoming_zero]
      rfl
  | cons call calls ih =>
      cases objects with
      | nil => cases heffects
      | cons a objects =>
          obtain ⟨heffect, hrest⟩ := List.cons.inj heffects
          have hissued := ih (r := (r.access call).2) hrest
          rw [slots_access_of_registers heffect] at hissued
          have hfirst : (r.access call).1.result.issued? = some (r.slots.insert a).1 :=
            (registers_access_iff.2 ⟨heffect, rfl⟩).2
          rw [List.length_cons, SlotTable.upcoming_succ _ a, List.map_cons, ← hissued, ← hfirst]
          rfl

/-- The size, the stack of free handles and the number of slots that registrations leave. -/
theorem shape_runAccess_of_registers {calls : List (AccessCall α κ)} {objects : List α}
    (heffects : calls.map AccessCall.effect = objects.map .registers) :
    (r.runAccess calls).2.size = r.size + objects.length ∧
      (r.runAccess calls).2.slots.free = r.slots.free.drop objects.length ∧
      (r.runAccess calls).2.slots.entries.size =
        r.slots.entries.size + (objects.length - r.slots.freeCount) := by
  obtain ⟨-, hfree, hgrown, hentries⟩ := r.slots.run_inserts objects
  rw [← slots_runAccess_of_registers heffects] at hfree hgrown hentries
  exact ⟨hgrown, hfree, hentries⟩

omit [HasKind α κ] [DecidableEq κ] in
/-- The objects of calls that all register. -/
theorem exists_objects_of_registrations {calls : List (AccessCall α κ)}
    (hregister : ∀ call ∈ calls, call.effect.isRegistration = true) :
    ∃ objects : List α, calls.map AccessCall.effect = objects.map .registers := by
  induction calls with
  | nil => exact ⟨[], rfl⟩
  | cons call calls ih =>
      rw [List.forall_mem_cons] at hregister
      obtain ⟨hfirst, hrest⟩ := hregister
      obtain ⟨objects, hobjects⟩ := ih hrest
      cases heffect : call.effect with
      | registers a => exact ⟨a :: objects, by rw [List.map_cons, heffect, hobjects, List.map_cons]⟩
      | releases h =>
          rw [heffect] at hfirst
          cases hfirst
      | nothing =>
          rw [heffect] at hfirst
          cases hfirst

/-- What a registration among others registers is there when all of them are done. -/
theorem get?_runAccess_of_registers (hr : r.slots.WellFormed)
    {earlier later : List (AccessCall α κ)} {call : AccessCall α κ} {a : α}
    (heffect : call.effect = .registers a)
    (hlater : ∀ call ∈ later, call.effect.isRegistration = true)
    (hend : (r.runAccess (earlier ++ call :: later)).2.slots.entries.size < 2 ^ 63) :
    (r.runAccess (earlier ++ call :: later)).2.slots.get?
      ((r.runAccess earlier).2.slots.insert a).1 = some a := by
  have hbefore := entries_size_lt_of_runAccess_append hend
  have hwell := wellFormed_runAccess hr hbefore
  obtain ⟨objects, hobjects⟩ := exists_objects_of_registrations hlater
  have hslots : (r.runAccess (earlier ++ call :: later)).2.slots =
      (((r.runAccess earlier).2.slots.insert a).2.run (objects.map .insert)).2 := by
    rw [← slots_access_of_registers heffect, ← slots_runAccess_of_registers hobjects]
    unfold runAccess
    rw [run_append]
    rfl
  rw [hslots] at hend ⊢
  refine (hwell.insert hbefore a).get?_run_inserts hend ?_
  exact (hwell.get?_insert_eq_some_iff hbefore a).2 (Or.inl ⟨rfl, rfl⟩)

/-- Insertions in a row give out the free handles from the top of the stack and then new ones, in
order, whatever the values are. So when clients register `k` objects in any order and by any routes,
the handles that they receive, the size, the stack of free handles and the next fresh handle
afterwards do not depend on the order. The handles are all different and none is null, and each of
them leads to the object of the registration that received it. -/
theorem registrations_drain_free_handles {start : Registry α} {k : Nat} (hstart : start.Reachable)
    (hroom : start.slots.entries.size + (k - start.slots.freeCount) < 2 ^ 63) :
    (∀ (t : SlotTable α) (values : List α), values.length = k →
      (t.run (values.map .insert)).1 = (t.upcoming k).map .handle) ∧
    ∀ schedule : List (ι × AccessCall α κ), schedule.length = k →
      (∀ turn ∈ schedule, turn.2.effect.isRegistration = true) →
      ((start.runAccess (schedule.map Prod.snd)).1.map (fun reply => reply.result.issued?) =
          (start.slots.upcoming k).map some ∧
        (start.runAccess (schedule.map Prod.snd)).2.size = start.size + k ∧
        (start.runAccess (schedule.map Prod.snd)).2.slots.free = start.slots.free.drop k ∧
        (start.runAccess (schedule.map Prod.snd)).2.nextFresh.number.toNat =
          start.nextFresh.number.toNat + (k - start.slots.freeCount)) ∧
      ((start.slots.upcoming k).Nodup ∧ ∀ h ∈ start.slots.upcoming k, h ≠ .null) ∧
      ∀ earlier client call later a, schedule = earlier ++ (client, call) :: later →
        call.effect = .registers a →
        ∃ h, ((start.runAccess (earlier.map Prod.snd)).2.access call).1.result.issued? = some h ∧
          ((start.runAccess (schedule.map Prod.snd)).2.lookup h).result = some a ∧
          ((start.runAccess (schedule.map Prod.snd)).2.resolve (.live h)).result = some a := by
  have hsize : start.slots.entries.size < 2 ^ 63 := by omega
  have hwell := hstart.wellFormed hsize
  refine ⟨fun t values hlength => ?_, fun schedule hlength hregister => ?_⟩
  · rw [← hlength]
    exact (t.run_inserts values).1
  · have hcalls : ∀ call ∈ schedule.map Prod.snd, call.effect.isRegistration = true :=
      List.forall_mem_map.2 hregister
    obtain ⟨objects, hobjects⟩ := exists_objects_of_registrations hcalls
    have hcount : objects.length = k := by
      simpa [hlength] using (congrArg List.length hobjects).symm
    obtain ⟨hgrown, hfree, hentries⟩ := shape_runAccess_of_registers (r := start) hobjects
    rw [hcount] at hgrown hfree hentries
    have hend : (start.runAccess (schedule.map Prod.snd)).2.slots.entries.size < 2 ^ 63 := by
      rwa [hentries]
    refine ⟨⟨?_, hgrown, hfree, ?_⟩, ?_, ?_⟩
    · rw [issued_runAccess_of_registers hobjects, hcount]
    · rw [nextFresh, nextFresh, SlotTable.nextFresh, SlotTable.nextFresh,
        Handle.toNat_ofSlot hend, Handle.toNat_ofSlot hsize, hentries]
      exact Nat.add_right_comm _ _ _
    · rw [slots_runAccess_of_registers hobjects] at hend
      obtain ⟨hnodup, hvacant⟩ := hwell.upcoming_vacant hend
      rw [hcount] at hnodup hvacant
      refine ⟨hnodup, fun h hmem hnull => ?_⟩
      rw [hnull] at hmem
      cases (hvacant _ hmem).1
    · rintro earlier client call later a rfl heffect
      rw [List.map_append, List.map_cons] at hcalls hend ⊢
      have hlater := (List.forall_mem_cons.1 (List.forall_mem_append.1 hcalls).2).2
      have hkept := get?_runAccess_of_registers hwell heffect hlater hend
      refine ⟨_, (registers_access_iff.2 ⟨heffect, rfl⟩).2, ?_,
        result_resolve_eq_some_iff.2 ⟨rfl, hkept⟩⟩
      rw [result_lookup]
      exact hkept

/-- Two clients register in turn, by two routes. -/
def inTurn : List (Bool × AccessCall HostObject ObjectKind) :=
  [(false, .host (.register (.byte 5))), (true, .bridge (.issue (.byte 6))),
    (false, .host (.issue (.byte 7)))]

/-- With two handles free, the third registration is the first one that opens a slot. -/
theorem registrations_drain_two_free_handles :
    (⟨⟨#[none, some .unit, none], [⟨3⟩, ⟨1⟩], 1⟩⟩ : Registry HostObject).Reachable ∧
      ((⟨⟨#[none, some .unit, none], [⟨3⟩, ⟨1⟩], 1⟩⟩ : Registry HostObject).runAccess
        (inTurn.map Prod.snd)).1.map (fun reply => reply.result.issued?) =
          [some ⟨3⟩, some ⟨1⟩, some ⟨4⟩] ∧
      ((⟨⟨#[none, some .unit, none], [⟨3⟩, ⟨1⟩], 1⟩⟩ : Registry HostObject).runAccess
        (inTurn.map Prod.snd)).2.nextFresh.number.toNat = 5 ∧
      (((⟨⟨#[none, some .unit, none], [⟨3⟩, ⟨1⟩], 1⟩⟩ : Registry HostObject).runAccess
        (inTurn.map Prod.snd)).2.lookup ⟨1⟩).result = some (.byte 6) := by
  have hreach : (⟨⟨#[none, some .unit, none], [⟨3⟩, ⟨1⟩], 1⟩⟩ : Registry HostObject).Reachable :=
    ⟨[.register .unit, .register .unit, .register .unit, .release ⟨1⟩, .release ⟨3⟩], rfl⟩
  obtain ⟨⟨hissued, -, -, hfresh⟩, -, hleads⟩ :=
    (registrations_drain_free_handles (k := 3) hreach (by decide)).2 inTurn rfl (by decide)
  obtain ⟨h, hh, hfound, -⟩ := hleads [(false, .host (.register (.byte 5)))] true
    (.bridge (.issue (.byte 6))) [(false, .host (.issue (.byte 7)))] (.byte 6) rfl rfl
  cases Option.some.inj (hh.symm.trans (rfl : _ = some (⟨1⟩ : Handle)))
  exact ⟨hreach, hissued, hfresh, hfound⟩

end Registry

end HostBoundary
