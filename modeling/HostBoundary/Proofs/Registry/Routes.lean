import HostBoundary.Proofs.Registry.Steps
import HostBoundary.Registry.Access

/-!
# Routes to a registry

The host, a bridge and a foreign pointer are three routes to one registry. To the registry a call
that comes by a bridge or a pointer is a call of the host: `AccessCall.toHost` says which one, and
`access_eq_answer` says that the registry answers that call, reports what it reports and changes as
it does. The route decides only the form in which the reply is handed out (`AccessCall.form`). So
the three cases of a call of the host, that it registers, releases or does neither, are the three
cases of a call by any route. To the slots of the registry it is then one request to a slot table
(`CallEffect.tableRequest`), and calls are a run of requests (`slots_runAccess`).
-/

namespace HostBoundary

universe u v

variable {α : Type u} {κ : Type v}

namespace AccessCall

/-- The call of the host that a call by any route is to the registry. A bridge encodes with the
references checked, and a foreign question about a cell reads the cell as the type that its byte
names. -/
def toHost : AccessCall α κ → RegistryCall α κ
  | .host call => call
  | .bridge (.issue a) => .issue a
  | .bridge (.retire ref) => .retire ref
  | .bridge (.encode v) => .encodeChecked v
  | .bridge (.encodeAll vs) => .encodeAllChecked vs
  | .bridge (.decode c t) => .decode c t
  | .bridge (.decodeAll cells types) => .decodeAll cells types
  | .bridge .diagnostic => .diagnostic
  | .foreign .size => .size
  | .foreign (.contains h) => .contains h
  | .foreign (.release h) => .release h
  | .foreign (.isLive c code _) => .decodeByCode c code

/-- The form in which a route hands out the reply that the host would get. Foreign code is told that
a release was done and not what was released, and of a cell that it asks about the status and
whether the value is a live reference, unless its pointer for the answer is null. A bridge puts the
diagnostic form in a frame. All other replies are handed out as they are. -/
def form : AccessCall α κ → Reply α → Reply α
  | .bridge .diagnostic, .text registry =>
      .text ("Bridge \x7b registry: " ++ registry ++ " \x7d")
  | .foreign (.release _), .object _ => .status .ok
  | .foreign (.isLive _ _ none), .decoded _ => .liveness .nullPointer none
  | .foreign (.isLive _ _ (some _)), .decoded (.ok v) =>
      .liveness .ok (some (v.externref?.any ExternRef.isLive))
  | .foreign (.isLive _ _ (some out)), .decoded (.error e) =>
      .liveness (.ofError e) (some out)
  | _, reply => reply

/-- What a call by any route does to the slots of the registry. -/
def effect (call : AccessCall α κ) : CallEffect α :=
  call.toHost.effect

/-- The reply to a registration is handed out as it is. -/
theorem form_of_registers {call : AccessCall α κ} {a : α} (heffect : call.effect = .registers a)
    (reply : Reply α) : call.form reply = reply := by
  cases call with
  | host call => rfl
  | bridge call => cases call <;> first | rfl | cases heffect
  | foreign call => cases call <;> cases heffect

end AccessCall

/-- The request that a call is to the slots of a registry. One that leaves them as they are is
counted as a question. -/
def CallEffect.tableRequest : CallEffect α → TableRequest α
  | .registers a => .insert a
  | .releases h => .remove h
  | .nothing => .size

namespace Registry

variable [HasKind α κ] [DecidableEq κ] {r : Registry α} {call : AccessCall α κ}

/-- By whatever route a call comes, the registry answers it as the call of the host that it is, and
the reply is handed out in the form of the route. -/
theorem access_eq_answer (r : Registry α) (call : AccessCall α κ) :
    r.access call = ((r.answer call.toHost).1.map call.form, (r.answer call.toHost).2) := by
  cases call with
  | host call => rfl
  | bridge call => cases call <;> rfl
  | foreign call =>
      cases call with
      | size => rfl
      | contains h => rfl
      | release h => rfl
      | isLive c code out =>
          cases out with
          | none => rfl
          | some out =>
              show r.answerForeign (.isLive c code (some out)) =
                (.quiet ((AccessCall.foreign (.isLive c code (some out)) : AccessCall α κ).form
                  (.decoded (r.decodeByCode c code))), r)
              rw [answerForeign, Foreign.isLive]
              cases r.decodeByCode c code <;> rfl

/-- A call by any route changes a registry as the call of the host does. -/
theorem access_snd (r : Registry α) (call : AccessCall α κ) :
    (r.access call).2 = (r.answer call.toHost).2 := by
  rw [access_eq_answer]

/-- A call by any route is reported as the call of the host is. -/
theorem events_access (r : Registry α) (call : AccessCall α κ) :
    (r.access call).1.events = (r.answer call.toHost).1.events := by
  rw [access_eq_answer]
  rfl

/-! ## The three cases of a call -/

/-- A call that registers an object fills a slot with it. -/
theorem slots_access_of_registers {a : α} (heffect : call.effect = .registers a) :
    (r.access call).2.slots = (r.slots.insert a).2 := by
  rw [access_snd]
  exact slots_answer_of_registers heffect

/-- A call registers an object under the handle of the slot that it fills. -/
theorem registers_access_iff {h : Handle} {a : α} :
    Registers (call.toHost, (r.access call).1) h a ↔
      call.effect = .registers a ∧ h = (r.slots.insert a).1 := by
  refine Iff.trans ?_ registers_answer_iff
  refine and_congr_right fun heffect => ?_
  show (r.access call).1.result.issued? = some h ↔ (r.answer call.toHost).1.result.issued? = some h
  rw [access_eq_answer, Logged.result_map, AccessCall.form_of_registers heffect]

/-- A call that releases a handle empties its slot. -/
theorem slots_access_of_releases {h : Handle} (heffect : call.effect = .releases h) :
    (r.access call).2.slots = (r.slots.remove h).2 := by
  rw [access_snd]
  exact slots_answer_of_releases heffect

/-- A call that neither registers nor releases leaves the registry as it is. -/
theorem access_snd_of_nothing (heffect : call.effect = .nothing) : (r.access call).2 = r := by
  rw [access_snd]
  exact answer_snd_of_nothing heffect

/-- A release of a handle that is not registered leaves the registry as it is. -/
theorem access_snd_of_releases_absent {h : Handle} (heffect : call.effect = .releases h)
    (habsent : r.contains h = false) : (r.access call).2 = r := by
  apply Registry.ext
  rw [slots_access_of_releases heffect,
    SlotTable.remove_of_get?_eq_none (contains_eq_false_iff.1 habsent)]

/-- A call by any route changes the slots as its request does. -/
theorem slots_access (r : Registry α) (call : AccessCall α κ) :
    (r.access call).2.slots = (r.slots.answer call.effect.tableRequest).2 := by
  cases heffect : call.effect with
  | registers a => exact slots_access_of_registers heffect
  | releases h => exact slots_access_of_releases heffect
  | nothing =>
      rw [access_snd_of_nothing heffect]
      rfl

/-- Calls by any routes change the slots as a run of their requests does. -/
theorem slots_runAccess (r : Registry α) (calls : List (AccessCall α κ)) :
    (r.runAccess calls).2.slots =
      (r.slots.run (calls.map fun call => call.effect.tableRequest)).2 := by
  induction calls generalizing r with
  | nil => rfl
  | cons call calls ih =>
      have hrest := ih (r.access call).2
      rwa [slots_access] at hrest

/-! ## What every call keeps -/

/-- A registry that a call leaves below the limit on slots was below it. -/
theorem entries_size_lt_of_access {limit : Nat} (r : Registry α) (call : AccessCall α κ)
    (hsize : (r.access call).2.slots.entries.size < limit) : r.slots.entries.size < limit := by
  rw [access_snd] at hsize
  exact r.entries_size_lt_of_answer call.toHost hsize

/-- Every call keeps the slots well formed. -/
theorem wellFormed_access (hr : r.slots.WellFormed) (hsize : r.slots.entries.size < 2 ^ 63)
    (call : AccessCall α κ) : (r.access call).2.slots.WellFormed := by
  rw [access_snd]
  exact wellFormed_answer hr hsize call.toHost

/-- A registry that calls leave below the limit on slots was below it. -/
theorem entries_size_lt_of_runAccess {limit : Nat} {calls : List (AccessCall α κ)}
    (hsize : (r.runAccess calls).2.slots.entries.size < limit) : r.slots.entries.size < limit :=
  within_of_run (fun r : Registry α => r.slots.entries.size < limit)
    (fun r call => r.entries_size_lt_of_access call) hsize

/-- Calls that leave a registry below the limit on slots left it below after the first of them. -/
theorem entries_size_lt_of_runAccess_append {limit : Nat} {first second : List (AccessCall α κ)}
    (hsize : (r.runAccess (first ++ second)).2.slots.entries.size < limit) :
    (r.runAccess first).2.slots.entries.size < limit := by
  rw [runAccess, run_append] at hsize
  exact entries_size_lt_of_runAccess hsize

/-- Calls keep the slots well formed. -/
theorem wellFormed_runAccess (hr : r.slots.WellFormed) {calls : List (AccessCall α κ)}
    (hsize : (r.runAccess calls).2.slots.entries.size < 2 ^ 63) :
    (r.runAccess calls).2.slots.WellFormed := by
  refine run_invariant_within (fun r : Registry α => r.slots.entries.size < 2 ^ 63)
    (fun r call => r.entries_size_lt_of_access call) (fun r => r.slots.WellFormed) ?_ hr hsize
  intro s call _ hfits hgood
  exact wellFormed_access hgood hfits call

end Registry

end HostBoundary
