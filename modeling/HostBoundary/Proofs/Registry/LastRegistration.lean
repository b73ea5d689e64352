import HostBoundary.HostObject
import HostBoundary.Proofs.Registry.Steps

/-!
# The last registration of a handle

What a registry answers about a handle is a matter of the history of the registry alone: the object
given to the last registration that returned the handle, unless a release of the handle has
succeeded since. `LastRegistered` states this about the calls so far and their answers, and
`lookup_iff_last_registered` says that looking up a handle gives that object and no other, by the
handle or by a live reference, with and without asking for its kind.
-/

namespace HostBoundary

universe u v

variable {α : Type u} {κ : Type v}

/-- The object was given to the last registration in a history that returned the handle, and no
release of the handle has succeeded after that registration. -/
def LastRegistered (past : List (RegistryCall α κ × Logged (Reply α))) (h : Handle) (a : α) :
    Prop :=
  Since (fun exchange => Registers exchange h a)
    (fun exchange => Releases exchange h ∨ ∃ b, Registers exchange h b) past

namespace Registry

variable [HasKind α κ] [DecidableEq κ] {r : Registry α}

/-- After a call an object is under a handle if the call registered it there, or if it was there and
the call neither released the handle nor registered another object under it. -/
theorem get?_answer_eq_some_iff (hr : r.slots.WellFormed) (hsize : r.slots.entries.size < 2 ^ 63)
    (call : RegistryCall α κ) {h : Handle} {a : α} :
    (r.answer call).2.slots.get? h = some a ↔
      Registers (call, (r.answer call).1) h a ∨
        r.slots.get? h = some a ∧
          ¬ (Releases (call, (r.answer call).1) h ∨
            ∃ b, Registers (call, (r.answer call).1) h b) := by
  simp only [registers_answer_iff, releases_answer_iff]
  cases heffect : call.effect with
  | registers b =>
      rw [slots_answer_of_registers heffect, hr.get?_insert_eq_some_iff hsize]
      have hother : (∃ c, CallEffect.registers b = CallEffect.registers c ∧
          h = (r.slots.insert c).1) ↔ h = (r.slots.insert b).1 := by
        simp
      have hnew : (CallEffect.registers b = CallEffect.registers a ∧
          h = (r.slots.insert a).1) ↔ b = a ∧ h = (r.slots.insert b).1 := by
        rw [CallEffect.registers.injEq]
        exact and_congr_right fun hab => by rw [hab]
      rw [hother, hnew]
      simp
  | releases k =>
      rw [slots_answer_of_releases heffect, SlotTable.get?_remove_eq_some_iff]
      simp only [reduceCtorEq, CallEffect.releases.injEq, false_and, exists_false, false_or,
        or_false]
      -- Where an object was under the handle, its release succeeds.
      refine and_congr_right fun ha => not_congr ?_
      have hcontains : h = k → r.contains h = true := by
        intro hh
        rw [contains_eq, ha]
        rfl
      exact ⟨fun hh => ⟨hh.symm, hcontains hh⟩, fun hrel => hrel.1.symm⟩
  | nothing =>
      rw [answer_snd_of_nothing heffect]
      simp

/-- The slot of a handle holds the object of the last registration of the handle, if that
registration has not been undone. The induction is along the history, whose last moment is the last
call. -/
theorem get?_run_eq_some_iff (calls : List (RegistryCall α κ))
    (hsize : (empty.run calls).2.slots.entries.size < 2 ^ 63) {h : Handle} {a : α} :
    (empty.run calls).2.slots.get? h = some a ↔
      LastRegistered (history Registry.answer empty calls) h a := by
  induction calls using List.reverseRecOn with
  | nil =>
      have hnone : (empty : Registry α).slots.get? h = none := SlotTable.get?_empty h
      simp [LastRegistered, Registry.run, hnone]
  | append_singleton calls call ih =>
      have hlast : (empty.run (calls ++ [call])).2 = ((empty.run calls).2.answer call).2 := by
        exact run_append_singleton _ _ _
      rw [hlast] at hsize ⊢
      have hbefore := entries_size_lt_of_answer _ call hsize
      have hwell : (empty.run calls).2.slots.WellFormed := by
        exact Reachable.wellFormed ⟨calls, rfl⟩ hbefore
      rw [get?_answer_eq_some_iff hwell hbefore, ih hbefore, LastRegistered, LastRegistered,
        history_append_singleton, since_append_singleton]
      rfl

/-- Keeping only objects of a kind keeps exactly those. -/
theorem ofKind_eq_some_iff {k : κ} {found : Option α} {a : α} :
    ofKind k found = some a ↔ found = some a ∧ HasKind.kind a = k := by
  unfold ofKind
  rw [Option.filter_eq_some_iff, decide_eq_true_eq]

/-- After any calls on the empty registry, looking up a handle gives the object of the last
registration that returned it and has not been undone by a release, and nothing if there is none.
Asking for a kind gives the same object if it is of that kind. A live reference answers as its
handle does, and a released one gives nothing. -/
theorem lookup_iff_last_registered (calls : List (RegistryCall α κ))
    (hsize : (empty.run calls).2.slots.entries.size < 2 ^ 63) (h : Handle) :
    (∀ a, ((empty.run calls).2.lookup h).result = some a ↔
      LastRegistered (history Registry.answer empty calls) h a) ∧
    (((empty.run calls).2.lookup h).result = none ↔
      ∀ a, ¬ LastRegistered (history Registry.answer empty calls) h a) ∧
    (∀ k a, ((empty.run calls).2.lookupOfKind h k).result = some a ↔
      LastRegistered (history Registry.answer empty calls) h a ∧ HasKind.kind a = k) ∧
    ((empty.run calls).2.resolve (.live h) = (empty.run calls).2.lookup h ∧
      ∀ k, (empty.run calls).2.resolveOfKind (.live h) k =
        (empty.run calls).2.lookupOfKind h k) ∧
    (((empty.run calls).2.resolve (.released h)).result = none ∧
      ∀ k, ((empty.run calls).2.resolveOfKind (.released h) k).result = none) := by
  have hlast : ∀ a, ((empty.run calls).2.lookup h).result = some a ↔
      LastRegistered (history Registry.answer empty calls) h a := by
    intro a
    rw [result_lookup]
    exact get?_run_eq_some_iff calls hsize
  refine ⟨hlast, ?_, ?_, ⟨rfl, fun _ => rfl⟩, rfl, fun _ => rfl⟩
  · rw [Option.eq_none_iff_forall_ne_some]
    exact forall_congr' fun a => not_congr (hlast a)
  · intro k a
    rw [lookupOfKind, Logged.result_map, ofKind_eq_some_iff, hlast]

/-- A text is registered and released, and a byte is registered under the same handle through a
reference: now the handle stands for the byte, and there is no text under it any more. -/
theorem last_registered_after_recycling :
    ((empty : Registry HostObject).run [.register (.text "a"), .release ⟨1⟩, .release ⟨1⟩,
        .issue (.byte 3)]).2.slots.entries.size < 2 ^ 63 ∧
      LastRegistered (history Registry.answer (empty : Registry HostObject)
        [.register (.text "a"), .release ⟨1⟩, .release ⟨1⟩, .issue (.byte 3)]) ⟨1⟩ (.byte 3) ∧
      ¬ LastRegistered (history Registry.answer (empty : Registry HostObject)
        [.register (.text "a"), .release ⟨1⟩, .release ⟨1⟩, .issue (.byte 3)]) ⟨1⟩ (.text "a") := by
  have hsize : ((empty : Registry HostObject).run [.register (.text "a"), .release ⟨1⟩,
      .release ⟨1⟩, .issue (.byte 3)]).2.slots.entries.size < 2 ^ 63 := by
    decide
  obtain ⟨hlast, -⟩ := lookup_iff_last_registered _ hsize ⟨1⟩
  refine ⟨hsize, (hlast _).1 rfl, fun htext => ?_⟩
  cases (hlast _).2 htext

end Registry

end HostBoundary
