import HostBoundary.HostObject
import HostBoundary.Proofs.Boundary.Names
import HostBoundary.Proofs.Registry.Routes

/-!
# Registries do not disturb each other

Any number of registries are behind a boundary, and each may have any number of names: host
references, bridges and pointers. Two facts about one call carry everything: a registry answers a
call that reaches it as if it were alone, and a call that does not reach it leaves it as it is.

`registries_are_isolated` is what follows for runs. A name made from another one stands for the same
registry, a name made with a registry for one of its own, and both do so for good. What comes of the
calls that reach a registry is what would come of them on a registry of its own, so it does not
matter what happens to the others or whether they are there at all. The name through which a
registry is reached does not matter either, but for the form of the reply, and freeing a pointer
takes away that one name and nothing else.
-/

namespace HostBoundary

universe u v

variable {α : Type u} {κ : Type v}

/-! ## Calls on a registry of its own -/

/-- What comes of calls on a registry: the answer to each, and the registry after it. -/
def Registry.outcomes [HasKind α κ] [DecidableEq κ] (r : Registry α) :
    List (AccessCall α κ) → List (Logged (Reply α) × Registry α)
  | [] => []
  | call :: calls => r.access call :: (r.access call).2.outcomes calls

namespace Boundary

/-! ## The calls that reach one registry -/

/-- Whether a call reaches a registry other than the one at a position. -/
def reachesOther (b : Boundary α) (i : Nat) (call : BoundaryCall α κ) : Bool :=
  (b.target? call).any fun target => target.1 != i

variable [HasKind α κ] [DecidableEq κ]

/-- The calls of a run that reach the registry at a position, as what they are to it. -/
def callsTo (b : Boundary α) (i : Nat) : List (BoundaryCall α κ) → List (AccessCall α κ)
  | [] => []
  | call :: calls =>
      let rest := (b.answer call).2.callsTo i calls
      match b.target? call with
      | some (j, access) => if j = i then access :: rest else rest
      | none => rest

/-- What comes of the calls of a run that reach the registry at a position: the answer to each, and
the registry after it. -/
def outcomesAt (b : Boundary α) (i : Nat) :
    List (BoundaryCall α κ) → List (Logged (Reply α) × Registry α)
  | [] => []
  | call :: calls =>
      let (reply, next) := b.answer call
      let rest := next.outcomesAt i calls
      match b.target? call with
      | some (j, _) => if j = i then (reply, next.registryAt i) :: rest else rest
      | none => rest

/-- The calls of a run without those that reach a registry other than the one at a position. -/
def withoutOthers (b : Boundary α) (i : Nat) : List (BoundaryCall α κ) → List (BoundaryCall α κ)
  | [] => []
  | call :: calls =>
      let rest := (b.answer call).2.withoutOthers i calls
      if b.reachesOther i call then rest else call :: rest

variable {b c : Boundary α} {call : BoundaryCall α κ} {i j : Nat} {access : AccessCall α κ}

/-- What a registry answers when a call reaches it is what it answers to the call alone, and it
becomes what it becomes then. -/
theorem reach_some (hi : i < b.registries.size) (access : AccessCall α κ) :
    (b.reach (some i) access).1 = ((b.registryAt i).access access).1 ∧
      (b.reach (some i) access).2.registryAt i = ((b.registryAt i).access access).2 := by
  simp [reach, registryAt, hi]

/-- A call that reaches one registry leaves every other one. -/
theorem registryAt_reach_of_ne (hij : j ≠ i) (access : AccessCall α κ) :
    (b.reach (some j) access).2.registryAt i = b.registryAt i := by
  have hne : some j ≠ some i := fun h => hij (Option.some.inj h)
  rw [registryAt, getElem?_reach_of_ne hne, registryAt]

/-- What comes of the calls of a run that reach a registry is what comes of them on that registry
alone. -/
theorem outcomesAt_eq (hb : b.Named) (i : Nat) (calls : List (BoundaryCall α κ)) :
    b.outcomesAt i calls = (b.registryAt i).outcomes (b.callsTo i calls) := by
  induction calls generalizing b with
  | nil => rfl
  | cons call calls ih =>
      have hrest := ih (hb.answer call)
      cases htarget : b.target? call with
      | none =>
          rw [(hb.renames htarget).registryAt_eq] at hrest
          simpa only [outcomesAt, callsTo, htarget] using hrest
      | some target =>
          obtain ⟨j, access⟩ := target
          by_cases hij : j = i
          · subst hij
            obtain ⟨hreply, hstate⟩ := reach_some (hb.target?_lt htarget) access
            rw [← answer_of_target? htarget] at hreply hstate
            rw [hstate] at hrest
            simp only [outcomesAt, callsTo, htarget, if_true, Registry.outcomes, hrest, hstate,
              hreply]
          · rw [answer_of_target? htarget, registryAt_reach_of_ne hij,
              ← answer_of_target? htarget] at hrest
            simpa only [outcomesAt, callsTo, htarget, hij, if_false] using hrest

/-- Which calls of a run reach a registry depends on the names alone. -/
theorem callsTo_congr (hnames : b.names = c.names) (i : Nat) (calls : List (BoundaryCall α κ)) :
    b.callsTo i calls = c.callsTo i calls := by
  induction calls generalizing b c with
  | nil => rfl
  | cons call calls ih =>
      rw [callsTo, callsTo, ih (names_answer_congr hnames call), target?_congr hnames]

/-- Without the calls that reach other registries, the same calls reach a registry. -/
theorem callsTo_withoutOthers (b : Boundary α) (i : Nat) (calls : List (BoundaryCall α κ)) :
    b.callsTo i (b.withoutOthers i calls) = b.callsTo i calls := by
  induction calls generalizing b with
  | nil => rfl
  | cons call calls ih =>
      by_cases hother : b.reachesOther i call = true
      · obtain ⟨⟨j, access⟩, htarget, hij⟩ := (Option.any_eq_true _ _).1 hother
        have hnames : (b.answer call).2.names = b.names := by
          rw [answer_of_target? htarget, names_reach]
        calc b.callsTo i (b.withoutOthers i (call :: calls))
          _ = b.callsTo i ((b.answer call).2.withoutOthers i calls) := by
                rw [withoutOthers, if_pos hother]
          _ = (b.answer call).2.callsTo i ((b.answer call).2.withoutOthers i calls) :=
                callsTo_congr hnames.symm i _
          _ = (b.answer call).2.callsTo i calls := ih _
          _ = b.callsTo i (call :: calls) := by
                simp only [callsTo, htarget, bne_iff_ne.1 hij, if_false]
      · rw [withoutOthers, if_neg hother, callsTo, callsTo, ih]

/-! ## Freeing a pointer -/

/-- Freeing a pointer and a call on a registry may be done in either order. -/
theorem reach_free (b : Boundary α) (p : Option Nat) (target : Option Nat)
    (access : AccessCall α κ) :
    (b.free p).reach target access =
      ((b.reach target access).1, (b.reach target access).2.free p) := by
  cases p with
  | none => rfl
  | some p =>
      cases target with
      | none => rfl
      | some i => cases hr : b.registries[i]? <;> simp [reach, free, hr]

/-- Freeing a pointer and a call that does not use it may be done in either order. -/
theorem answer_free {p : Nat} (hp : p < b.pointers.size) (hcall : call.usesPointer p = false) :
    (b.free (some p)).answer call =
      ((b.answer call).1, (b.answer call).2.free (some p)) := by
  have halias : ∀ (position : Option Nat) {add : Boundary α → Nat → Logged (Reply α) × Boundary α},
      (∀ i, add (b.free (some p)) i = ((add b i).1, (add b i).2.free (some p))) →
        (b.free (some p)).addAlias position add =
          ((b.addAlias position add).1, (b.addAlias position add).2.free (some p)) := by
    intro position add hadd
    cases position with
    | none => rfl
    | some i => exact hadd i
  have hpointer : ∀ (b : Boundary α) (i : Nat), p < b.pointers.size →
      (b.free (some p)).addPointer i = ((b.addPointer i).1, (b.addPointer i).2.free (some p)) := by
    intro b i hp
    simp [addPointer, free, Array.setIfInBounds, hp, Nat.lt_succ_of_lt hp, Array.set_push]
  cases call with
  | newRegistry => rfl
  | newBridge => rfl
  | newPointer => exact hpointer b.addRegistry.2 _ hp
  | bridgeOver host => exact halias _ fun i => rfl
  | cloneBridge bridge => exact halias _ fun i => rfl
  | registryOf bridge => exact halias _ fun i => rfl
  | pointerTo host => exact halias _ fun i => hpointer b i hp
  | freePointer pointer =>
      cases pointer with
      | none => rfl
      | some q =>
          have hqp : q ≠ p := of_decide_eq_false hcall
          simp only [answer, free, Array.setIfInBounds_comm _ _ hqp]
  | onHost host made => exact reach_free b (some p) b.hosts[host]? (.host made)
  | onBridge bridge made =>
      exact reach_free b (some p) b.bridges[bridge]? (.bridge made : AccessCall α κ)
  | onPointer pointer made =>
      cases pointer with
      | none => rfl
      | some q =>
          have hqp : q ≠ p := of_decide_eq_false hcall
          have hq : (b.free (some p)).pointers[q]? = b.pointers[q]? :=
            Array.getElem?_setIfInBounds_ne hqp.symm
          rcases hi : b.pointers[q]? with _ | _ | i
          · simp only [answer, hq, hi]
          · simp only [answer, hq, hi]
          · simp only [answer, hq, hi]
            exact reach_free b (some p) (some i) (.foreign made : AccessCall α κ)

/-- A run whose calls do not use a pointer is the same when the pointer has been freed before it,
but that the pointer is null at the end. -/
theorem run_free (hb : b.Named) {p : Nat} (hp : p < b.pointers.size)
    {calls : List (BoundaryCall α κ)} (hcalls : ∀ call ∈ calls, call.usesPointer p = false) :
    (b.free (some p)).run calls = ((b.run calls).1, (b.run calls).2.free (some p)) := by
  induction calls generalizing b with
  | nil => rfl
  | cons call calls ih =>
      have hcall := answer_free hp (hcalls call List.mem_cons_self)
      have hrest := ih (hb.answer call) (Nat.lt_of_lt_of_le hp (hb.pointers_size_le_answer call))
        fun other hother => hcalls other (List.mem_cons_of_mem call hother)
      unfold run at hrest ⊢
      rw [run_cons, run_cons, hcall, hrest]

/-! ## The route to a registry -/

/-- Two calls that are one call to one registry are answered alike, but for the form of the reply,
and leave the same boundary. -/
theorem answer_eq_of_toHost_eq (hb : b.Named) {other : BoundaryCall α κ} {access' : AccessCall α κ}
    (hcall : b.target? call = some (i, access)) (hother : b.target? other = some (i, access'))
    (hsame : access.toHost = access'.toHost) :
    ∃ reply next, reply = ((b.registryAt i).answer access.toHost).1 ∧
      b.answer call = (reply.map access.form, next) ∧
        b.answer other = (reply.map access'.form, next) := by
  obtain ⟨r, hr⟩ : ∃ r, b.registries[i]? = some r :=
    ⟨_, Array.getElem?_eq_getElem (hb.target?_lt hcall)⟩
  have hat : b.registryAt i = r := by rw [registryAt, hr, Option.getD_some]
  refine ⟨_, { b with registries := b.registries.setIfInBounds i (r.answer access.toHost).2 },
    rfl, ?_, ?_⟩
  · simp only [answer_of_target? hcall, reach, hr, hat, Registry.access_eq_answer]
  · simp only [answer_of_target? hother, reach, hr, hat, Registry.access_eq_answer, hsame]

/-- That the registry at a position does not notice the others in a run from the empty boundary,
nor by which of its names it is reached. -/
structure Isolated (i : Nat) (calls : List (BoundaryCall α κ)) : Prop where
  /-- What comes of the calls that reach the registry is what comes of them on a registry of its
  own. -/
  alone : empty.outcomesAt i calls = Registry.empty.outcomes (empty.callsTo i calls)
  /-- It is the same in the run without the calls that reach other registries. -/
  without_others : empty.outcomesAt i (empty.withoutOthers i calls) = empty.outcomesAt i calls
  /-- Two calls that are one call to the registry by two routes are interchangeable: all other
  replies and the boundary at the end are the same, and the reply to either is the one that the host
  would get, in the form of its route. -/
  any_route : ∀ before call other later access access', calls = before ++ call :: later →
    (empty.run before).2.target? call = some (i, access) →
    (empty.run before).2.target? other = some (i, access') → access.toHost = access'.toHost →
      ∃ reply rest final,
        reply = (((empty.run before).2.registryAt i).answer access.toHost).1 ∧
        empty.run calls = ((empty.run before).1 ++ reply.map access.form :: rest, final) ∧
        empty.run (before ++ other :: later) =
          ((empty.run before).1 ++ reply.map access'.form :: rest, final)
  /-- Freeing a pointer at any moment changes nothing, but that the pointer is null, if the later
  calls do not use it. -/
  free_one : ∀ before later p, calls = before ++ later → p < (empty.run before).2.pointers.size →
    (∀ call ∈ later, call.usesPointer p = false) →
      ∃ rest final, empty.run calls = ((empty.run before).1 ++ rest, final) ∧
        empty.run (before ++ .freePointer (some p) :: later) =
          ((empty.run before).1 ++ .quiet .done :: rest, final.free (some p))

/-- That the names of a run from the empty boundary stand for the registries that they were made
for. -/
structure NamesShare (calls : List (BoundaryCall α κ)) : Prop where
  /-- A name made from another one stands for the same registry. -/
  copied : ∀ before call later name make i, calls = before ++ call :: later →
    call.copies? = some name → call.makes? = some make →
    (empty.run before).2.standsFor? name = some i →
      ∃ n, ((empty.run before).2.answer call).1 = .quiet (.index n) ∧
        ((empty.run before).2.answer call).2.standsFor? (make n) = some i
  /-- A name made with a registry is the only one that stands for it, and the registry is empty. -/
  made : ∀ before call later make, calls = before ++ call :: later →
    call.copies? = none → call.makes? = some make →
      ∃ n i, ((empty.run before).2.answer call).1 = .quiet (.index n) ∧
        (∀ name, ((empty.run before).2.answer call).2.standsFor? name = some i ↔ name = make n) ∧
        ((empty.run before).2.answer call).2.registryAt i = .empty
  /-- A name stands for its registry for good, or until it is freed. -/
  kept : ∀ before later name i, calls = before ++ later →
    (empty.run before).2.standsFor? name = some i →
    (∀ p, name = .pointer p → .freePointer (some p) ∉ later) →
      (empty.run calls).2.standsFor? name = some i

/-- The names of any run stand for the registries that they were made for. -/
theorem namesShare (calls : List (BoundaryCall α κ)) : NamesShare calls where
  copied before call later name make i _ hcopies hmakes hname := by
    obtain ⟨n, hreply, hadds⟩ := adds_of_copies hmakes hcopies hname
    exact ⟨n, hreply, by rw [hadds.standsFor?_eq, if_pos rfl]⟩
  made before call later make _ hcopies hmakes := by
    obtain ⟨n, hreply, hadds⟩ := adds_of_makes (b := (empty.run before).2) hmakes hcopies
    have hunnamed : ∀ name, (empty.run before).2.standsFor? name ≠
        some (empty.run before).2.registries.size :=
      fun name hname => Nat.lt_irrefl _ (named_run before name _ hname)
    refine ⟨n, (empty.run before).2.registries.size, hreply, fun name => ?_, ?_⟩
    · rw [hadds.standsFor?_eq]
      split
      · next hname => exact iff_of_true rfl hname
      · next hname => exact iff_of_false (hunnamed name) hname
    · rw [registryAt, hadds.registries_eq]
      simp [addRegistry]
  kept before later name i hcalls hname hkept := by
    rw [hcalls, run, run_append]
    exact (named_run before).standsFor?_run hname hkept

/-- Every registry of a run is isolated. -/
theorem isolated (i : Nat) (calls : List (BoundaryCall α κ)) : Isolated i calls where
  alone := outcomesAt_eq named_empty i calls
  without_others := by
    rw [outcomesAt_eq named_empty, callsTo_withoutOthers, ← outcomesAt_eq named_empty]
  any_route before call other later access access' hcalls hcall hother hsame := by
    subst hcalls
    obtain ⟨reply, next, hreply, hcallee, hother'⟩ :=
      answer_eq_of_toHost_eq (named_run before) hcall hother hsame
    refine ⟨reply, (next.run later).1, (next.run later).2, hreply, ?_, ?_⟩
    · unfold run at hcallee ⊢
      rw [run_append, run_cons, hcallee]
    · unfold run at hother' ⊢
      rw [run_append, run_cons, hother']
  free_one before later p hcalls hp hlater := by
    subst hcalls
    have hfree : (empty.run before).2.answer (.freePointer (some p) : BoundaryCall α κ) =
        (.quiet .done, (empty.run before).2.free (some p)) := rfl
    have hrest := run_free (named_run before) hp hlater
    refine ⟨((empty.run before).2.run later).1, ((empty.run before).2.run later).2, ?_, ?_⟩
    · unfold run
      rw [run_append]
    · unfold run at hfree hrest ⊢
      rw [run_append, run_cons, hfree, hrest]

/-- In every run from the empty boundary names stand for the registries that they were made for, and
no registry is disturbed by the others or by the names under which it is reached. -/
theorem registries_are_isolated (calls : List (BoundaryCall α κ)) :
    NamesShare calls ∧ ∀ i, Isolated i calls :=
  ⟨namesShare calls, fun i => isolated i calls⟩

/-- A bridge, a host reference and two pointers stand for one registry, and another host reference
for a second one. The bridge registers an object, the host registers one in the second registry, and
foreign code releases the first object. -/
def shared : List (BoundaryCall HostObject ObjectKind) :=
  [.newBridge, .registryOf 0, .pointerTo 0, .pointerTo 0, .newRegistry,
    .onBridge 0 (.issue (.byte 5)), .onHost 1 (.register .unit), .onPointer (some 1) (.release ⟨1⟩)]

/-- What comes of the registration and the release is the same without the call on the second
registry. The host could have released the object as well as foreign code, and the other pointer
could have been freed before, which leaves the bridge standing for the registry. -/
theorem registries_are_isolated_when_shared :
    empty.outcomesAt 0 (shared.eraseIdx 6) = empty.outcomesAt 0 shared ∧
      (empty.run (shared.take 7 ++ [.onHost 0 (.release ⟨1⟩)])).2 = (empty.run shared).2 ∧
      (empty.run (shared.take 7 ++ .freePointer (some 0) :: shared.drop 7)).2 =
        (empty.run shared).2.free (some 0) ∧
      (empty.run shared).2.standsFor? (.bridge 0) = some 0 := by
  obtain ⟨hnames, hall⟩ := registries_are_isolated shared
  have hisolated := hall 0
  have hwithout : empty.withoutOthers 0 shared = shared.eraseIdx 6 := by decide
  obtain ⟨reply, rest, final, -, hrun, hother⟩ := hisolated.any_route (shared.take 7)
    (.onPointer (some 1) (.release ⟨1⟩)) (.onHost 0 (.release ⟨1⟩)) []
    (.foreign (.release ⟨1⟩)) (.host (.release ⟨1⟩)) rfl (by decide) (by decide) rfl
  obtain ⟨rest', final', hrun', hfreed⟩ := hisolated.free_one (shared.take 7) (shared.drop 7) 0 rfl
    (by decide) (by decide)
  refine ⟨?_, ?_, ?_, ?_⟩
  · rw [← hwithout]
    exact hisolated.without_others
  · rw [hrun, hother]
  · rw [hrun', hfreed]
  · refine hnames.kept (shared.take 1) (shared.drop 1) (.bridge 0) 0 rfl rfl ?_
    intro p hp
    cases hp

end Boundary

end HostBoundary
