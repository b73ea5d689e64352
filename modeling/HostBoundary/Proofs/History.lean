import HostBoundary.Run
import Mathlib

/-!
# Histories

The history of a run is its requests, each with the answer that it got. Laws that relate what holds
now to the whole past are stated with `Since start stop`: at some moment of the history something
started, and nothing has stopped it later. `since_append_singleton` says how one more moment changes
that, which is the step of every induction along a history.

The second half is about runs that stay within a limit that no request ever moves a state back
under: an invariant or a simulation that is kept below the limit holds for every run that ends
below it.
-/

namespace HostBoundary

universe u v w x

section Past

variable {τ : Type u} {start stop : τ → Prop}

/-- Some moment of a history satisfies `start`, and no later moment satisfies `stop`. -/
def Since (start stop : τ → Prop) (history : List τ) : Prop :=
  ∃ earlier moment later,
    history = earlier ++ moment :: later ∧ start moment ∧ ∀ moment' ∈ later, ¬ stop moment'

/-- Nothing has started in a history with no moment. -/
@[simp]
theorem not_since_nil : ¬ Since start stop [] := by
  intro hsince
  obtain ⟨earlier, moment, later, hhistory, -, -⟩ := hsince
  simp at hhistory

/-- A moment of a history with one more moment at its end is that last one or a moment of the
history before it. -/
theorem append_singleton_eq_append_cons {history earlier later : List τ} {last moment : τ}
    (h : history ++ [last] = earlier ++ moment :: later) :
    (history = earlier ∧ last = moment ∧ later = []) ∨
      ∃ between, later = between ++ [last] ∧ history = earlier ++ moment :: between := by
  rcases List.eq_nil_or_concat' later with rfl | ⟨between, final, rfl⟩
  · obtain ⟨hhistory, hlast⟩ := List.append_inj' h rfl
    exact Or.inl ⟨hhistory, List.singleton_inj.1 hlast, rfl⟩
  · have hsplit : history ++ [last] = (earlier ++ moment :: between) ++ [final] := by
      simpa using h
    obtain ⟨hhistory, hlast⟩ := List.append_inj' hsplit rfl
    rw [List.singleton_inj.1 hlast]
    exact Or.inr ⟨between, rfl, hhistory⟩

/-- The last moment of a history either starts it or leaves it as it was, unless it stops it. -/
theorem since_append_singleton {history : List τ} {last : τ} :
    Since start stop (history ++ [last]) ↔
      start last ∨ Since start stop history ∧ ¬ stop last := by
  refine ⟨fun hsince => ?_, fun hsince => ?_⟩
  · obtain ⟨earlier, moment, later, hhistory, hstart, hlater⟩ := hsince
    rcases append_singleton_eq_append_cons hhistory with
      ⟨-, rfl, -⟩ | ⟨between, rfl, hbefore⟩
    · exact Or.inl hstart
    · refine Or.inr ⟨⟨earlier, moment, between, hbefore, hstart, ?_⟩, ?_⟩
      · intro moment' hmem
        exact hlater moment' (by simp [hmem])
      · exact hlater last (by simp)
  · rcases hsince with hstart | ⟨⟨earlier, moment, later, rfl, hstart, hlater⟩, hstop⟩
    · exact ⟨history, last, [], rfl, hstart, by simp⟩
    · refine ⟨earlier, moment, later ++ [last], by simp, hstart, ?_⟩
      intro moment' hmem
      rcases List.mem_append.1 hmem with hmem | hmem
      · exact hlater moment' hmem
      · rw [List.mem_singleton.1 hmem]
        exact hstop

end Past

variable {σ : Type u} {ρ : Type v} {β : Type w} {answer : σ → ρ → β × σ}

/-- The requests of a run in order, each with the answer that it got. -/
def history (answer : σ → ρ → β × σ) (state : σ) (requests : List ρ) : List (ρ × β) :=
  requests.zip (run answer state requests).1

/-- A run with no request has no history. -/
@[simp]
theorem history_nil (state : σ) : history answer state [] = [] := rfl

/-- The history of a run begins with its first request. -/
theorem history_cons (state : σ) (request : ρ) (requests : List ρ) :
    history answer state (request :: requests) =
      (request, (answer state request).1) :: history answer (answer state request).2 requests := rfl

/-- The history of two lists of requests is that of the first and then, from its final state, that
of the second. -/
theorem history_append (state : σ) (first second : List ρ) :
    history answer state (first ++ second) =
      history answer state first ++ history answer (run answer state first).2 second := by
  have hlength : first.length = (run answer state first).1.length := by
    rw [length_run]
  unfold history
  rw [run_append, List.zip_append hlength]

/-- One more request adds itself and its answer to the history. -/
theorem history_append_singleton (state : σ) (requests : List ρ) (request : ρ) :
    history answer state (requests ++ [request]) =
      history answer state requests ++
        [(request, (answer (run answer state requests).2 request).1)] :=
  history_append state requests [request]

/-- The state after one more request is the state that this request leaves. -/
theorem run_append_singleton (state : σ) (requests : List ρ) (request : ρ) :
    (run answer state (requests ++ [request])).2 =
      (answer (run answer state requests).2 request).2 := by
  rw [run_append]
  rfl

/-- The answer to a request is the one that it gets in the state that the requests before it
leave. -/
theorem getElem?_run (state : σ) (requests : List ρ) (i : Nat) :
    (run answer state requests).1[i]? = requests[i]?.map fun request =>
      (answer (run answer state (requests.take i)).2 request).1 := by
  induction requests generalizing state i with
  | nil => rfl
  | cons request requests ih =>
      cases i with
      | zero => rfl
      | succ i => exact ih (answer state request).2 i

/-- The requests of a run in order, each with the state that it met. -/
def moments (answer : σ → ρ → β × σ) (state : σ) : List ρ → List (σ × ρ)
  | [] => []
  | request :: requests => (state, request) :: moments answer (answer state request).2 requests

/-- The moments of two lists of requests are those of the first and then, from its final state,
those of the second. -/
theorem moments_append (state : σ) (first second : List ρ) :
    moments answer state (first ++ second) =
      moments answer state first ++ moments answer (run answer state first).2 second := by
  induction first generalizing state with
  | nil => rfl
  | cons request first ih =>
      rw [List.cons_append, moments, ih]
      rfl

section Within

variable (within : σ → Prop) (hback : ∀ s request, within (answer s request).2 → within s)

include hback

/-- A run that ends within the limit began within it. -/
theorem within_of_run {state : σ} {requests : List ρ}
    (hend : within (run answer state requests).2) : within state := by
  induction requests generalizing state with
  | nil => exact hend
  | cons request requests ih => exact hback state request (ih hend)

/-- What holds at the start and is kept by every request within the limit holds at the end of a run
that ends within it. -/
theorem run_invariant_within (good : σ → Prop) {state : σ} {requests : List ρ}
    (hstep : ∀ s, ∀ request ∈ requests, within s → good s → good (answer s request).2)
    (hstart : good state) (hend : within (run answer state requests).2) :
    good (run answer state requests).2 := by
  induction requests generalizing state with
  | nil => exact hstart
  | cons request requests ih =>
      have hwithin : within state := by
        exact hback state request (within_of_run within hback hend)
      refine ih (fun s r hr => hstep s r (List.mem_cons_of_mem request hr)) ?_ hend
      exact hstep state request List.mem_cons_self hwithin hstart

/-- If related states, the first of them within the limit, give equal answers to every request and
are left related, then so are the runs from related states whose first one ends within the limit. -/
theorem run_simulation_within {σ' : Type x} {answer' : σ' → ρ → β × σ'} {related : σ → σ' → Prop}
    {state : σ} {state' : σ'} {requests : List ρ}
    (hstep : ∀ s s' request, within s → related s s' →
      (answer s request).1 = (answer' s' request).1 ∧
        related (answer s request).2 (answer' s' request).2)
    (hstart : related state state') (hend : within (run answer state requests).2) :
    (run answer state requests).1 = (run answer' state' requests).1 ∧
      related (run answer state requests).2 (run answer' state' requests).2 := by
  induction requests generalizing state state' with
  | nil => exact ⟨rfl, hstart⟩
  | cons request requests ih =>
      have hwithin : within state := by
        exact hback state request (within_of_run within hback hend)
      obtain ⟨hanswer, hrelated⟩ := hstep state state' request hwithin hstart
      obtain ⟨hanswers, hfinal⟩ := ih hrelated hend
      refine ⟨?_, hfinal⟩
      rw [run_cons, run_cons, hanswer, hanswers]

end Within

end HostBoundary
