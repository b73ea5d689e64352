/-!
# Runs

Everything in this library that has a state is a function that answers one request and gives the
state afterwards. `run` answers a list of requests in order; `run_append` says that a run can be cut
anywhere.
-/

namespace HostBoundary

universe u v w

variable {σ : Type u} {ρ : Type v} {β : Type w}

/-- Answer requests one after the other, each in the state that the one before left. The result is
the answers, in order, and the final state. -/
def run (answer : σ → ρ → β × σ) (state : σ) : List ρ → List β × σ
  | [] => ([], state)
  | request :: requests =>
      let (reply, following) := answer state request
      let (replies, final) := run answer following requests
      (reply :: replies, final)

variable {answer : σ → ρ → β × σ}

/-- No request, no answer. -/
@[simp]
theorem run_nil (state : σ) : run answer state [] = ([], state) := rfl

/-- A run answers its first request and goes on in the state after it. -/
theorem run_cons (state : σ) (request : ρ) (requests : List ρ) :
    run answer state (request :: requests) =
      ((answer state request).1 :: (run answer (answer state request).2 requests).1,
        (run answer (answer state request).2 requests).2) := rfl

/-- Running two lists of requests is running the first and then, in its final state, the second. -/
theorem run_append (state : σ) (first second : List ρ) :
    run answer state (first ++ second) =
      ((run answer state first).1 ++ (run answer (run answer state first).2 second).1,
        (run answer (run answer state first).2 second).2) := by
  induction first generalizing state with
  | nil => rfl
  | cons request first ih => simp [run_cons, ih]

/-- Every request is answered once. -/
@[simp]
theorem length_run (state : σ) (requests : List ρ) :
    (run answer state requests).1.length = requests.length := by
  induction requests generalizing state with
  | nil => rfl
  | cons request requests ih => simp [run_cons, ih]

/-- What holds at the start and is kept by every request holds at the end. -/
theorem run_invariant (good : σ → Prop) {state : σ} (requests : List ρ) (hstart : good state)
    (hstep : ∀ s, good s → ∀ request ∈ requests, good (answer s request).2) :
    good (run answer state requests).2 := by
  induction requests generalizing state with
  | nil => exact hstart
  | cons request requests ih =>
      exact ih (hstep state hstart request List.mem_cons_self)
        fun s hs r hr => hstep s hs r (List.mem_cons_of_mem request hr)

end HostBoundary
