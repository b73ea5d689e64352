import HostBoundary.Proofs.SlotTable.Steps
import HostBoundary.Registry.Call
import HostBoundary.Registry.Lemmas

/-!
# One call of the host on a registry

A call of the host does one of three things to the slots of a registry: it registers an object, it
releases a handle, or it does nothing to them. `RegistryCall.effect` says which, and the lemmas
below say what follows for the slots, the reply and the events. What holds of calls is proved from
these three cases and never from the calls themselves.
-/

namespace HostBoundary

universe u v

variable {α : Type u} {κ : Type v}

/-- What a call does to the slots of a registry. -/
inductive CallEffect (α : Type u) where
  /-- It registers an object. -/
  | registers (object : α)
  /-- It releases a handle. -/
  | releases (handle : Handle)
  /-- It leaves them as they are. -/
  | nothing
  deriving DecidableEq

/-- What a call of the host does to the slots of a registry. Giving up a reference releases its
handle if the reference is live; a released reference is left alone. -/
def RegistryCall.effect : RegistryCall α κ → CallEffect α
  | .register a | .issue a => .registers a
  | .release h | .retire (.live h) => .releases h
  | .lookup _ | .lookupOfKind _ _ | .contains _ | .size | .isEmpty | .nextFresh | .diagnostic
  | .resolve _ | .resolveOfKind _ _ | .retire (.released _) | .encode _ | .encodeChecked _
  | .encodeAll _ | .encodeAllChecked _ | .decode _ _ | .decodeByCode _ _ | .decodeAll _ _ =>
      .nothing

/-- The calls that register. -/
theorem RegistryCall.effect_eq_registers {call : RegistryCall α κ} {a : α}
    (heffect : call.effect = .registers a) : call = .register a ∨ call = .issue a := by
  cases call with
  | register b =>
      cases heffect
      exact Or.inl rfl
  | issue b =>
      cases heffect
      exact Or.inr rfl
  | retire ref => cases ref <;> cases heffect
  | _ => cases heffect

/-- The calls that release. -/
theorem RegistryCall.effect_eq_releases {call : RegistryCall α κ} {h : Handle}
    (heffect : call.effect = .releases h) : call = .release h ∨ call = .retire (.live h) := by
  cases call with
  | release k =>
      cases heffect
      exact Or.inl rfl
  | retire ref =>
      cases ref with
      | live k =>
          cases heffect
          exact Or.inr rfl
      | released k => cases heffect
  | _ => cases heffect

/-- The handle that a reply to a registration gives out, alone or in a live reference. -/
def Reply.issued? : Reply α → Option Handle
  | .handle h | .reference (.live h) => some h
  | _ => none

/-- A call, with its answer, that registered an object under a handle. -/
def Registers (exchange : RegistryCall α κ × Logged (Reply α)) (h : Handle) (a : α) : Prop :=
  exchange.1.effect = .registers a ∧ exchange.2.result.issued? = some h

/-- A call, with its answer, that released a handle with success. A release that finds no object
under its handle does not succeed; its events tell the two apart, also where its reply does not. -/
def Releases (exchange : RegistryCall α κ × Logged (Reply α)) (h : Handle) : Prop :=
  exchange.1.effect = .releases h ∧ Event.released h ∈ exchange.2.events

namespace Registry

variable [HasKind α κ] [DecidableEq κ] {r : Registry α} {call : RegistryCall α κ}

/-! ## Calls that register -/

/-- A call that registers an object fills a slot with it. -/
theorem slots_answer_of_registers {a : α} (heffect : call.effect = .registers a) :
    (r.answer call).2.slots = (r.slots.insert a).2 := by
  rcases RegistryCall.effect_eq_registers heffect with rfl | rfl
  · exact slots_register r a
  · exact slots_register r a

/-- The reply to a call that registers an object gives out the handle of the slot. -/
theorem issued?_answer_of_registers {a : α} (heffect : call.effect = .registers a) :
    (r.answer call).1.result.issued? = some (r.slots.insert a).1 := by
  rcases RegistryCall.effect_eq_registers heffect with rfl | rfl
  · exact congrArg some (result_register r a)
  · exact congrArg some (result_register r a)

/-- A call registers an object under the handle of the slot that it fills. -/
theorem registers_answer_iff {h : Handle} {a : α} :
    Registers (call, (r.answer call).1) h a ↔
      call.effect = .registers a ∧ h = (r.slots.insert a).1 := by
  refine and_congr_right fun heffect => ?_
  show (r.answer call).1.result.issued? = some h ↔ h = (r.slots.insert a).1
  rw [issued?_answer_of_registers heffect, Option.some.injEq]
  exact eq_comm

/-! ## Calls that release -/

/-- A call that releases a handle empties its slot. -/
theorem slots_answer_of_releases {h : Handle} (heffect : call.effect = .releases h) :
    (r.answer call).2.slots = (r.slots.remove h).2 := by
  rcases RegistryCall.effect_eq_releases heffect with rfl | rfl
  · exact slots_release r h
  · exact slots_release r h

/-- A call that releases a handle reports what a release reports. -/
theorem events_answer_of_releases {h : Handle} (heffect : call.effect = .releases h) :
    (r.answer call).1.events =
      if r.contains h then [.released h] else [.releaseIgnored h] := by
  rcases RegistryCall.effect_eq_releases heffect with rfl | rfl
  · exact events_release r h
  · exact events_release r h

/-- A call releases a handle with success when it is one that releases it and there is an object. -/
theorem releases_answer_iff {h : Handle} :
    Releases (call, (r.answer call).1) h ↔
      call.effect = .releases h ∧ r.contains h = true := by
  refine and_congr_right fun heffect => ?_
  show Event.released h ∈ (r.answer call).1.events ↔ r.contains h = true
  rw [events_answer_of_releases heffect]
  by_cases hcontains : r.contains h = true
  · simp [hcontains]
  · simp [hcontains]

/-- A release by handle succeeds exactly when its reply hands the object back. -/
theorem releases_iff_reply_object {h : Handle} :
    Releases ((.release h : RegistryCall α κ), (r.answer (.release h : RegistryCall α κ)).1) h ↔
      ∃ a, (r.answer (.release h : RegistryCall α κ)).1.result = .object (some a) := by
  rw [releases_answer_iff, contains_eq, Option.isSome_iff_exists]
  have hreply : (r.answer (.release h : RegistryCall α κ)).1.result =
      .object (r.slots.get? h) := by
    rw [← result_release]
    rfl
  rw [hreply]
  simp [RegistryCall.effect]

/-! ## All other calls -/

/-- A call that neither registers nor releases leaves the registry as it is. -/
theorem answer_snd_of_nothing (heffect : call.effect = .nothing) : (r.answer call).2 = r := by
  cases call with
  | register b => cases heffect
  | issue b => cases heffect
  | release h => cases heffect
  | retire ref =>
      cases ref with
      | live h => cases heffect
      | released h => rfl
  | _ => rfl

/-! ## What every call keeps -/

/-- No call closes a slot. -/
theorem entries_size_le_answer (r : Registry α) (call : RegistryCall α κ) :
    r.slots.entries.size ≤ (r.answer call).2.slots.entries.size := by
  cases heffect : call.effect with
  | registers a =>
      rw [slots_answer_of_registers heffect]
      exact r.slots.entries_size_le_insert a
  | releases h =>
      rw [slots_answer_of_releases heffect, SlotTable.entries_size_remove]
  | nothing => rw [answer_snd_of_nothing heffect]

/-- A registry that a call leaves below the limit on slots was below it. -/
theorem entries_size_lt_of_answer {limit : Nat} (r : Registry α) (call : RegistryCall α κ)
    (hsize : (r.answer call).2.slots.entries.size < limit) : r.slots.entries.size < limit :=
  Nat.lt_of_le_of_lt (r.entries_size_le_answer call) hsize

/-- Every call keeps the slots well formed. -/
theorem wellFormed_answer (hr : r.slots.WellFormed) (hsize : r.slots.entries.size < 2 ^ 63)
    (call : RegistryCall α κ) : (r.answer call).2.slots.WellFormed := by
  cases heffect : call.effect with
  | registers a =>
      rw [slots_answer_of_registers heffect]
      exact hr.insert hsize a
  | releases h =>
      rw [slots_answer_of_releases heffect]
      exact hr.remove h
  | nothing =>
      rw [answer_snd_of_nothing heffect]
      exact hr

/-- A registration adds one to the size. -/
theorem size_answer_of_registers {a : α} (heffect : call.effect = .registers a) :
    (r.answer call).2.size = r.size + 1 := by
  rw [size, slots_answer_of_registers heffect, SlotTable.size_insert]
  rfl

/-- A release that finds an object takes one from the size. -/
theorem size_answer_of_releases (hr : r.slots.WellFormed) {h : Handle} {a : α}
    (ha : r.slots.get? h = some a) (heffect : call.effect = .releases h) :
    (r.answer call).2.size + 1 = r.size := by
  rw [size, slots_answer_of_releases heffect]
  exact hr.size_remove ha

/-- A registry that calls of the host lead to from the empty registry. -/
def Reachable (r : Registry α) : Prop :=
  ∃ calls : List (RegistryCall α κ), (empty.run calls).2 = r

/-- The slots of a reachable registry are well formed if there are fewer than `2 ^ 63`. -/
theorem Reachable.wellFormed (hr : r.Reachable) (hsize : r.slots.entries.size < 2 ^ 63) :
    r.slots.WellFormed := by
  obtain ⟨calls, rfl⟩ := hr
  refine run_invariant_within (fun r : Registry α => r.slots.entries.size < 2 ^ 63)
    (fun r call => r.entries_size_lt_of_answer call) (fun r => r.slots.WellFormed) ?_
    SlotTable.wellFormed_empty hsize
  intro s call _ hs hgood
  exact wellFormed_answer hgood hs call

end Registry

end HostBoundary
