import HostBoundary.Proofs.Registry.Compactness

/-!
# Calls that might as well not be made

Most calls leave a registry as it is: all that only ask, that encode or decode, with success or not,
and every release that finds no object. Such a call can be erased from a run together with its
answer, and nobody can tell: `ineffective_calls_can_be_erased` says that all other answers, with
every handle given out later, and the registry at the end are the same, whichever of the ineffective
calls are erased.

One use is that releasing a handle many times is releasing it once. A release that follows another
one of the same handle finds no object, until the handle is given out again.
-/

namespace HostBoundary

universe u v w x

/-! ## Erasing requests from a run -/

/-- What is left of a list when the members at chosen positions are erased. -/
def without {τ : Type u} (erased : Nat → Bool) : List τ → List τ
  | [] => []
  | x :: xs =>
      let rest := without (fun i => erased (i + 1)) xs
      if erased 0 then rest else x :: rest

/-- If every erased request leaves the state that it meets, then a run without the erased requests
has the same answers, but for theirs, and the same final state. -/
theorem run_without {σ : Type u} {ρ : Type v} {β : Type w} {answer : σ → ρ → β × σ} {state : σ}
    {requests : List ρ} {erased : Nat → Bool}
    (hsame : ∀ i request, requests[i]? = some request → erased i = true →
      (answer (run answer state (requests.take i)).2 request).2 =
        (run answer state (requests.take i)).2) :
    run answer state (without erased requests) =
      (without erased (run answer state requests).1, (run answer state requests).2) := by
  induction requests generalizing state erased with
  | nil => rfl
  | cons request requests ih =>
      have hrest := @ih (answer state request).2 (fun i => erased (i + 1))
        fun i later hlater herased => hsame (i + 1) later hlater herased
      rw [run_cons, without, without]
      cases hfirst : erased 0 with
      | true =>
          have hkept : (answer state request).2 = state := hsame 0 request rfl hfirst
          rw [hkept] at hrest ⊢
          exact hrest
      | false =>
          show run answer state (request :: without _ requests) = (_ :: without _ _, _)
          rw [run_cons, hrest]

/-! ## Ineffective calls -/

variable {α : Type u} {κ : Type v}

/-- Whether a call leaves a registry as it is: it neither registers nor releases, or it releases a
handle with no object. -/
def Registry.ineffective (r : Registry α) (call : AccessCall α κ) : Bool :=
  match call.effect with
  | .registers _ => false
  | .releases h => !r.contains h
  | .nothing => true

/-- That the calls at chosen positions can be erased: the answers to the others and the registry at
the end are the same. -/
def Registry.Erasable [HasKind α κ] [DecidableEq κ] (r : Registry α)
    (calls : List (AccessCall α κ)) (erased : Nat → Bool) : Prop :=
  r.runAccess (without erased calls) =
    (without erased (r.runAccess calls).1, (r.runAccess calls).2)

/-- A handle that has no value gets none by a step that does not give it out. -/
theorem TableStep.get?_eq_none {t next : SlotTable α} {issued : Option Handle}
    (hstep : TableStep t next issued) (ht : t.WellFormed) (hsize : t.entries.size < 2 ^ 63)
    {h : Handle} (hissued : issued ≠ some h) (hnone : t.get? h = none) : next.get? h = none := by
  cases hstep with
  | insert a =>
      have hne : h ≠ (t.insert a).1 := fun heq => hissued (congrArg some heq.symm)
      rw [SlotTable.get?_insert ht hsize, if_neg hne, hnone]
  | remove k =>
      rw [SlotTable.get?_remove, hnone, ite_self]
  | overwrite k a =>
      rw [SlotTable.get?_overwrite]
      split
      · next hk =>
          rw [← hk.1, hnone] at hk
          cases hk.2
      · exact hnone
  | keep => exact hnone

namespace Registry

variable [HasKind α κ] [DecidableEq κ] {r : Registry α} {h : Handle}

/-- An ineffective call leaves the registry as it is. -/
theorem access_snd_of_ineffective {call : AccessCall α κ} (hcall : r.ineffective call = true) :
    (r.access call).2 = r := by
  rw [ineffective] at hcall
  cases heffect : call.effect with
  | registers a =>
      rw [heffect] at hcall
      cases hcall
  | releases h =>
      rw [heffect] at hcall
      exact access_snd_of_releases_absent heffect (by simpa using hcall)
  | nothing => exact access_snd_of_nothing heffect

/-- A handle that is not registered stays so while it is not given out. -/
theorem contains_runAccess_eq_false (hr : r.slots.WellFormed) {calls : List (AccessCall α κ)}
    (hsize : (r.runAccess calls).2.slots.entries.size < 2 ^ 63) (habsent : r.contains h = false)
    (hissued : ∀ exchange ∈ history Registry.access r calls, AccessCall.issued? exchange ≠ some h) :
    (r.runAccess calls).2.contains h = false := by
  induction calls generalizing r with
  | nil => exact habsent
  | cons call calls ih =>
      have hbefore : r.slots.entries.size < 2 ^ 63 := entries_size_lt_of_runAccess hsize
      have hnext : (r.access call).2.contains h = false := by
        rw [contains_eq_false_iff] at habsent ⊢
        exact (r.tableStep_access call).get?_eq_none hr hbefore
          (hissued _ List.mem_cons_self) habsent
      exact ih (wellFormed_access hr hbefore call) hsize hnext fun exchange hmem =>
        hissued exchange (List.mem_cons_of_mem _ hmem)

/-- A handle that has just been released is not registered. -/
theorem contains_access_of_releases {call : AccessCall α κ} (heffect : call.effect = .releases h) :
    (r.access call).2.contains h = false := by
  rw [contains_eq_false_iff, slots_access_of_releases heffect, SlotTable.get?_remove, if_pos rfl]

/-- A handle that is not registered stays so up to any moment of a run that does not give it out. -/
theorem contains_runAccess_take (hr : r.slots.WellFormed) {calls : List (AccessCall α κ)}
    (hsize : (r.runAccess calls).2.slots.entries.size < 2 ^ 63) (habsent : r.contains h = false)
    (hissued : ∀ exchange ∈ history Registry.access r calls, AccessCall.issued? exchange ≠ some h)
    (i : Nat) : (r.runAccess (calls.take i)).2.contains h = false := by
  rw [← List.take_append_drop i calls] at hsize
  rw [← List.take_append_drop i calls, history_append] at hissued
  exact contains_runAccess_eq_false hr (entries_size_lt_of_runAccess_append hsize) habsent
    fun exchange hmem => hissued exchange (List.mem_append_left _ hmem)

/-- Any of the ineffective calls of a run can be erased. -/
theorem erasable_of_ineffective {calls : List (AccessCall α κ)} {erased : Nat → Bool}
    (hineffective : ∀ i call, calls[i]? = some call → erased i = true →
      (r.runAccess (calls.take i)).2.ineffective call = true) : r.Erasable calls erased :=
  run_without fun i call hcall herased =>
    access_snd_of_ineffective (hineffective i call hcall herased)

/-- From any registry any of the ineffective calls of a run can be erased. In particular, when a
handle has been released in a run from the empty registry, any of the later calls that release it
can be erased, as long as it is not given out again. -/
theorem ineffective_calls_can_be_erased (calls : List (AccessCall α κ)) (erased : Nat → Bool) :
    (∀ r : Registry α,
      (∀ i call, calls[i]? = some call → erased i = true →
        (r.runAccess (calls.take i)).2.ineffective call = true) →
      r.Erasable calls erased) ∧
    ∀ (before : List (AccessCall α κ)) (first : AccessCall α κ) (h : Handle) (r : Registry α),
      first.effect = .releases h → r = (empty.runAccess (before ++ [first])).2 →
      (r.runAccess calls).2.slots.entries.size < 2 ^ 63 →
      (∀ exchange ∈ history Registry.access r calls, AccessCall.issued? exchange ≠ some h) →
      (∀ i call, calls[i]? = some call → erased i = true → call.effect = .releases h) →
      r.Erasable calls erased := by
  refine ⟨fun r => erasable_of_ineffective, ?_⟩
  intro before first h r hfirst hrun hsize hissued hreleases
  have hr : r.slots.WellFormed := by
    have hbefore := entries_size_lt_of_runAccess hsize
    rw [hrun] at hbefore ⊢
    exact wellFormed_runAccess SlotTable.wellFormed_empty hbefore
  have habsent : r.contains h = false := by
    rw [hrun, runAccess, run_append_singleton]
    exact contains_access_of_releases hfirst
  refine erasable_of_ineffective fun i call hcall herased => ?_
  rw [ineffective, hreleases i call hcall herased]
  show (!(r.runAccess (calls.take i)).2.contains h) = true
  rw [contains_runAccess_take hr hsize habsent hissued i]
  rfl

/-- Between two registrations a handle is released three times, and there are a failed look-up, a
refused encoding and a failed decoding. -/
def noisy : List (AccessCall HostObject ObjectKind) :=
  [.host (.register .unit), .foreign (.release ⟨1⟩), .host (.lookup ⟨1⟩), .host (.release ⟨1⟩),
    .bridge (.encode (.externref (.live ⟨1⟩))), .bridge (.retire (.live ⟨1⟩)),
    .bridge (.decodeAll [] [.i32]), .bridge (.issue (.byte 5))]

/-- The five calls after the first release can be erased at once: the second registration gives out
the same handle, and the registry is the same. The two later releases can be erased alone. -/
theorem ineffective_calls_can_be_erased_between_registrations :
    empty.runAccess (noisy.take 2 ++ noisy.drop 7) =
        ((empty.runAccess noisy).1.take 2 ++ (empty.runAccess noisy).1.drop 7,
          (empty.runAccess noisy).2) ∧
      ((empty.runAccess (noisy.take 2)).2.runAccess
        [.host (.lookup ⟨1⟩), .bridge (.encode (.externref (.live ⟨1⟩))),
          (.bridge (.decodeAll [] [.i32]) : AccessCall HostObject ObjectKind)]).2 =
        ((empty.runAccess (noisy.take 2)).2.runAccess ((noisy.drop 2).take 5)).2 := by
  refine ⟨?_, ?_⟩
  · refine (ineffective_calls_can_be_erased noisy fun i => decide (1 < i ∧ i < 7)).1 empty ?_
    intro i call hcall herased
    obtain ⟨hafter, hbefore⟩ := of_decide_eq_true herased
    interval_cases i <;> cases hcall <;> decide
  · have herasable := (ineffective_calls_can_be_erased ((noisy.drop 2).take 5)
      fun i => decide (i = 1 ∨ i = 3)).2 [.host (.register .unit)] (.foreign (.release ⟨1⟩)) ⟨1⟩ _
      rfl rfl (by decide) (by decide) ?_
    · exact (congrArg Prod.snd herasable :)
    · intro i call hcall herased
      rcases of_decide_eq_true herased with rfl | rfl <;> cases hcall <;> rfl

end Registry

end HostBoundary
