import HostBoundary.HostObject
import HostBoundary.Proofs.Registry.Routes

/-!
# The log as an audit trail

The events that a registry emits tell what has happened to it. `log_is_audit_trail` says what can be
read off them after any calls, by whatever routes. The registrations and the releases of each handle
take turns, and the last of them tells whether the handle has an object now. The failed look-ups and
the ignored releases in the log are as many as were made. All other calls leave no trace.

`filter_events_access` is the law of one call: it says exactly which events about the registry the
call emits. Events of the encoders are about references that were kept from crossing the boundary;
they stand in the same log and are passed over here.
-/

namespace HostBoundary

universe u v

variable {α : Type u} {κ : Type v}

/-! ## Events and calls -/

namespace Event

/-- Whether an event is about a registry, and not about a reference kept from crossing the
boundary. -/
def ofRegistry : Event → Bool
  | .registered _ | .lookupMissed _ | .released _ | .releaseIgnored _ => true
  | .releasedRefused _ | .absentRefused _ => false

/-- Whether an event says that a handle was registered or released. -/
def isTurnOf (h : Handle) (e : Event) : Bool :=
  e = .registered h ∨ e = .released h

/-- Such an event is about a registry. -/
theorem ofRegistry_of_isTurnOf {h : Handle} {e : Event} (hturn : e.isTurnOf h = true) :
    e.ofRegistry = true := by
  rcases of_decide_eq_true hturn with rfl | rfl <;> rfl

end Event

/-- The handle whose object a call of the host reads, by itself or in a live reference. -/
def RegistryCall.lookedUp? : RegistryCall α κ → Option Handle
  | .lookup h | .lookupOfKind h _ | .resolve (.live h) | .resolveOfKind (.live h) _ => some h
  | _ => none

/-- The handle whose object a call by any route reads. -/
def AccessCall.lookedUp? (call : AccessCall α κ) : Option Handle :=
  call.toHost.lookedUp?

/-- A call that reads the object of a handle does nothing to the slots. -/
theorem AccessCall.effect_of_lookedUp? {call : AccessCall α κ} {h : Handle}
    (hlookedUp : call.lookedUp? = some h) : call.effect = .nothing := by
  rw [AccessCall.lookedUp?] at hlookedUp
  rw [AccessCall.effect]
  cases hcall : call.toHost with
  | lookup k => rfl
  | lookupOfKind k kind => rfl
  | resolve ref => rfl
  | resolveOfKind ref kind => rfl
  | _ =>
      rw [hcall] at hlookedUp
      cases hlookedUp

namespace Registry

/-- What a call reports about the registry: the handle of the object that it registers, the handle
that it releases, with or without success, or the handle that it looks up in vain. -/
def reports (r : Registry α) (call : AccessCall α κ) : List Event :=
  match call.effect with
  | .registers a => [.registered (r.slots.insert a).1]
  | .releases h => if r.contains h then [.released h] else [.releaseIgnored h]
  | .nothing =>
      match call.lookedUp? with
      | some h => if r.contains h then [] else [.lookupMissed h]
      | none => []

/-! ## One call -/

/-- An encoder that emits no event about a registry for one value emits none for several. -/
theorem filter_events_encodeEach {encode : Value → Logged (Except BoundaryError Cell)}
    (hencode : ∀ v, (encode v).events.filter Event.ofRegistry = []) (vs : List Value) :
    (encodeEach encode vs).events.filter Event.ofRegistry = [] := by
  induction vs with
  | nil => rfl
  | cons v vs ih =>
      have hevents := hencode v
      rw [encodeEach]
      rcases hv : encode v with ⟨e | c, events⟩
      · rwa [hv] at hevents
      · rw [hv] at hevents
        rw [List.filter_append, hevents, ih]
        rfl

/-- Encoding emits no event about a registry. -/
theorem filter_events_encode (v : Value) : v.encode.events.filter Event.ofRegistry = [] := by
  cases v with
  | externref ref => cases ref <;> rfl
  | _ => rfl

/-- Encoding with the reference checked emits no event about a registry either. -/
theorem filter_events_encodeChecked (r : Registry α) (v : Value) :
    (r.encodeChecked v).events.filter Event.ofRegistry = [] := by
  cases v with
  | externref ref =>
      cases ref with
      | live h =>
          rw [encodeChecked]
          split <;> rfl
      | released h => rfl
  | _ => rfl

variable [HasKind α κ] [DecidableEq κ]

/-- The events about the registry that a call emits. -/
theorem filter_events_access (r : Registry α) (call : AccessCall α κ) :
    (r.access call).1.events.filter Event.ofRegistry = r.reports call := by
  rw [events_access, reports, AccessCall.effect, AccessCall.lookedUp?]
  generalize call.toHost = made
  have hlookup : ∀ h, (r.lookup h).events.filter Event.ofRegistry =
      if r.contains h then [] else [.lookupMissed h] := by
    intro h
    rw [events_lookup]
    split <;> rfl
  cases heffect : made.effect with
  | registers a => rcases RegistryCall.effect_eq_registers heffect with rfl | rfl <;> rfl
  | releases h =>
      rw [events_answer_of_releases heffect]
      by_cases hlive : r.contains h = true
      · simp [hlive, Event.ofRegistry]
      · simp [hlive, Event.ofRegistry]
  | nothing =>
      cases made with
      | register a => cases heffect
      | issue a => cases heffect
      | release h => cases heffect
      | lookup h => exact hlookup h
      | lookupOfKind h k => exact hlookup h
      | resolve ref =>
          cases ref with
          | live h => exact hlookup h
          | released h => rfl
      | resolveOfKind ref k =>
          cases ref with
          | live h => exact hlookup h
          | released h => rfl
      | retire ref =>
          cases ref with
          | live h => cases heffect
          | released h => rfl
      | encode v => exact filter_events_encode v
      | encodeChecked v => exact r.filter_events_encodeChecked v
      | encodeAll vs => exact filter_events_encodeEach filter_events_encode vs
      | encodeAllChecked vs => exact filter_events_encodeEach r.filter_events_encodeChecked vs
      | _ => rfl

end Registry

/-! ## The turns of a handle -/

/-- Registrations and releases of a handle take turns, a registration comes first, and the last turn
tells whether the handle is live. -/
structure Alternates (h : Handle) (live : Bool) (turns : List Event) : Prop where
  isChain : turns.IsChain (· ≠ ·)
  head_eq : ∀ e ∈ turns.head?, e = .registered h
  live_iff : live = true ↔ turns.getLast? = some (.registered h)

namespace Alternates

variable {h : Handle} {events : List Event}

/-- No turn has been taken yet. -/
theorem nil : Alternates h false [] :=
  ⟨List.isChain_nil, by simp, by simp⟩

/-- A handle that is not live may be registered next. -/
theorem register (hevents : Alternates h false events) :
    Alternates h true (events ++ [.registered h]) where
  isChain := by
    refine List.isChain_append.2 ⟨hevents.isChain, List.isChain_singleton _, ?_⟩
    intro last hlast next hnext hsame
    cases hnext
    subst hsame
    exact absurd (hevents.live_iff.2 hlast) Bool.false_ne_true
  head_eq e he := by
    cases events with
    | nil => simpa using he.symm
    | cons first rest => exact hevents.head_eq e he
  live_iff := by simp

/-- A handle that is live may be released next. -/
theorem release (hevents : Alternates h true events) :
    Alternates h false (events ++ [.released h]) := by
  have hlast : events.getLast? = some (.registered h) := hevents.live_iff.1 rfl
  refine ⟨List.isChain_append.2 ⟨hevents.isChain, List.isChain_singleton _, ?_⟩, ?_, by simp⟩
  · intro last hlast' next hnext hsame
    cases hnext
    rw [hlast] at hlast'
    cases hlast'
    cases hsame
  · intro e he
    cases events with
    | nil => cases hlast
    | cons first rest => exact hevents.head_eq e he

end Alternates

/-! ## What is counted in a log -/

/-- The registrations and the releases of a handle in a log, in order. -/
def turns (h : Handle) (log : List Event) : List Event :=
  log.filter (Event.isTurnOf h)

/-- The number of registrations in a log. -/
def registrationCount (log : List Event) : Nat :=
  log.countP fun e => e = .registered e.handle

/-- The number of releases in a log that found an object. -/
def releaseCount (log : List Event) : Nat :=
  log.countP fun e => e = .released e.handle

section Counts

variable (h : Handle) (log events : List Event)

/-- The turns in a log are those in its parts. -/
@[simp]
theorem turns_append : turns h (log ++ events) = turns h log ++ turns h events :=
  List.filter_append ..

/-- The registrations in a log are those in its parts. -/
@[simp]
theorem registrationCount_append :
    registrationCount (log ++ events) = registrationCount log + registrationCount events :=
  List.countP_append ..

/-- The releases in a log are those in its parts. -/
@[simp]
theorem releaseCount_append :
    releaseCount (log ++ events) = releaseCount log + releaseCount events :=
  List.countP_append ..

/-- Leaving the events of the encoders out of a log leaves the turns. -/
@[simp]
theorem turns_filter_ofRegistry : turns h (log.filter Event.ofRegistry) = turns h log := by
  rw [turns, List.filter_filter]
  refine List.filter_congr fun e _ => ?_
  cases hturn : e.isTurnOf h with
  | false => rfl
  | true => rw [Event.ofRegistry_of_isTurnOf hturn, Bool.and_true]

/-- Leaving the events of the encoders out of a log leaves the registrations. -/
@[simp]
theorem registrationCount_filter_ofRegistry :
    registrationCount (log.filter Event.ofRegistry) = registrationCount log := by
  rw [registrationCount, List.countP_filter]
  refine List.countP_congr fun e _ => ?_
  cases e <;> simp [Event.ofRegistry]

/-- Leaving the events of the encoders out of a log leaves the releases. -/
@[simp]
theorem releaseCount_filter_ofRegistry :
    releaseCount (log.filter Event.ofRegistry) = releaseCount log := by
  rw [releaseCount, List.countP_filter]
  refine List.countP_congr fun e _ => ?_
  cases e <;> simp [Event.ofRegistry]

end Counts

/-! ## One call and the log before it -/

/-- What a log says of a registry now: the turns of every handle, and that as many objects are left
as were registered and not released. -/
structure Trail (r : Registry α) (log : List Event) : Prop where
  alternates : ∀ h, Alternates h (r.contains h) (turns h log)
  registrationCount_eq : registrationCount log = releaseCount log + r.size

namespace Trail

variable {r next : Registry α} {log events : List Event} {h : Handle}

/-- Before any call the log and the registry are empty. -/
theorem empty : Trail (Registry.empty : Registry α) [] where
  alternates h := by
    rw [Registry.contains_empty]
    exact .nil
  registrationCount_eq := rfl

/-- Events of the encoders may be left out of what is added to a log. -/
theorem of_filter (hlog : Trail r (log ++ events.filter Event.ofRegistry)) :
    Trail r (log ++ events) where
  alternates h := by simpa using hlog.alternates h
  registrationCount_eq := by simpa using hlog.registrationCount_eq

/-- The registration of a handle that is not registered is a turn of it. -/
theorem register (hlog : Trail r log) (hvacant : r.contains h = false)
    (hcontains : ∀ k, next.contains k = (decide (k = h) || r.contains k))
    (hsize : next.size = r.size + 1) : Trail next (log ++ [.registered h]) where
  alternates k := by
    have hk := hlog.alternates k
    rw [turns_append, hcontains k]
    by_cases hkh : k = h
    · subst hkh
      rw [hvacant] at hk
      simpa [turns, Event.isTurnOf] using hk.register
    · simpa [turns, Event.isTurnOf, hkh, Ne.symm hkh] using hk
  registrationCount_eq := by
    have hcount := hlog.registrationCount_eq
    simp [registrationCount, releaseCount, Event.handle] at hcount ⊢
    omega

/-- The release of a handle that is registered is a turn of it. -/
theorem release (hlog : Trail r log) (hlive : r.contains h = true)
    (hcontains : ∀ k, next.contains k = (decide (k ≠ h) && r.contains k))
    (hsize : next.size + 1 = r.size) : Trail next (log ++ [.released h]) where
  alternates k := by
    have hk := hlog.alternates k
    rw [turns_append, hcontains k]
    by_cases hkh : k = h
    · subst hkh
      rw [hlive] at hk
      simpa [turns, Event.isTurnOf] using hk.release
    · simpa [turns, Event.isTurnOf, hkh, Ne.symm hkh] using hk
  registrationCount_eq := by
    have hcount := hlog.registrationCount_eq
    simp [registrationCount, releaseCount, Event.handle] at hcount ⊢
    omega

/-- Events that are no turn leave a log as good as it was. -/
theorem append (hlog : Trail r log) (hturns : ∀ h, turns h events = [])
    (hcount : registrationCount events = releaseCount events) : Trail r (log ++ events) where
  alternates h := by
    rw [turns_append, hturns h, List.append_nil]
    exact hlog.alternates h
  registrationCount_eq := by
    have hbefore := hlog.registrationCount_eq
    rw [registrationCount_append, releaseCount_append, hcount]
    omega

variable [HasKind α κ] [DecidableEq κ]

/-- The events of a call continue the log. -/
theorem access (hlog : Trail r log) (hr : r.slots.WellFormed)
    (hsize : r.slots.entries.size < 2 ^ 63) (call : AccessCall α κ) :
    Trail (r.access call).2 (log ++ (r.access call).1.events) := by
  apply of_filter
  rw [Registry.filter_events_access, Registry.reports]
  cases heffect : call.effect with
  | registers a =>
      have hslots := Registry.slots_access_of_registers (r := r) heffect
      refine hlog.register ?_ ?_ ?_
      · exact Registry.contains_eq_false_iff.2 (hr.get?_insert_fst hsize a)
      · intro k
        rw [Registry.contains_eq, hslots, SlotTable.get?_insert hr hsize]
        split
        · next hk => simp [hk]
        · next hk => simp [hk, Registry.contains_eq]
      · rw [Registry.size, hslots, SlotTable.size_insert]
        rfl
  | releases h =>
      have hslots := Registry.slots_access_of_releases (r := r) heffect
      show Trail _ (log ++ if r.contains h then [.released h] else [.releaseIgnored h])
      cases hlive : r.contains h with
      | false =>
          rw [Registry.access_snd_of_releases_absent heffect hlive]
          exact hlog.append (fun k => rfl) rfl
      | true =>
          obtain ⟨a, ha⟩ := Option.isSome_iff_exists.1 hlive
          refine hlog.release hlive ?_ ?_
          · intro k
            rw [Registry.contains_eq, hslots, SlotTable.get?_remove]
            split
            · next hk => simp [hk]
            · next hk => simp [hk, Registry.contains_eq]
          · rw [Registry.size, hslots]
            exact hr.size_remove ha
  | nothing =>
      rw [Registry.access_snd_of_nothing heffect]
      cases hlookedUp : call.lookedUp? with
      | none => exact hlog.append (fun k => rfl) rfl
      | some h =>
          show Trail r (log ++ if r.contains h then [] else [.lookupMissed h])
          split
          · exact hlog.append (fun k => rfl) rfl
          · exact hlog.append (fun k => rfl) rfl

end Trail

/-! ## Runs -/

namespace Registry

variable [HasKind α κ] [DecidableEq κ]

/-- All events that calls emit, in order. -/
def log (r : Registry α) (calls : List (AccessCall α κ)) : List Event :=
  (r.runAccess calls).1.flatMap Logged.events

/-- One more call adds its events to the log. -/
theorem log_append_singleton (r : Registry α) (calls : List (AccessCall α κ))
    (call : AccessCall α κ) :
    r.log (calls ++ [call]) = r.log calls ++ ((r.runAccess calls).2.access call).1.events := by
  simp [log, runAccess, run_append, run_cons]

/-- The log of a run from the empty registry tells what has become of it. -/
theorem trail_log {calls : List (AccessCall α κ)}
    (hsize : (empty.runAccess calls).2.slots.entries.size < 2 ^ 63) :
    Trail (empty.runAccess calls).2 (empty.log calls) := by
  induction calls using List.reverseRecOn with
  | nil => exact Trail.empty
  | append_singleton calls call ih =>
      have hlast : (empty.runAccess (calls ++ [call])).2 =
          ((empty.runAccess calls).2.access call).2 :=
        run_append_singleton ..
      rw [hlast] at hsize ⊢
      have hbefore := entries_size_lt_of_access _ call hsize
      rw [log_append_singleton]
      exact (ih hbefore).access (wellFormed_runAccess SlotTable.wellFormed_empty hbefore) hbefore
        call

/-- A look-up of a handle in a registry where nothing is registered under it. -/
def missesLookup (h : Handle) (moment : Registry α × AccessCall α κ) : Bool :=
  decide (moment.2.lookedUp? = some h) && !moment.1.contains h

/-- A release of a handle in a registry where nothing is registered under it. -/
def missesRelease (h : Handle) (moment : Registry α × AccessCall α κ) : Bool :=
  match moment.2.effect with
  | .releases k => decide (k = h) && !moment.1.contains h
  | .registers _ | .nothing => false

/-- If a call emits an event once at the moments of one kind and never at others, then the event is
in the log of calls as often as there are moments of the kind. -/
theorem count_log {e : Event} {kind : Registry α × AccessCall α κ → Bool}
    (hstep : ∀ (r : Registry α) (call : AccessCall α κ),
      (r.access call).1.events.count e = if kind (r, call) then 1 else 0)
    (r : Registry α) (calls : List (AccessCall α κ)) :
    (r.log calls).count e = (moments Registry.access r calls).countP kind := by
  induction calls generalizing r with
  | nil => rfl
  | cons call calls ih =>
      have hlog : r.log (call :: calls) =
          (r.access call).1.events ++ (r.access call).2.log calls := rfl
      rw [hlog, List.count_append, hstep, ih, moments, List.countP_cons, Nat.add_comm]

/-- A call emits a failed look-up of a handle if it looks it up and nothing is there. -/
theorem count_lookupMissed_access (h : Handle) (r : Registry α) (call : AccessCall α κ) :
    (r.access call).1.events.count (.lookupMissed h) =
      if missesLookup h (r, call) then 1 else 0 := by
  have hevent : Event.ofRegistry (.lookupMissed h) = true := rfl
  rw [← List.count_filter hevent, filter_events_access, reports, missesLookup]
  cases hlookedUp : call.lookedUp? with
  | none =>
      cases call.effect with
      | registers a => rfl
      | releases k => by_cases hlive : r.contains k = true <;> simp [hlive]
      | nothing => rfl
  | some k =>
      rw [AccessCall.effect_of_lookedUp? hlookedUp]
      by_cases hkh : k = h
      · subst hkh
        by_cases hlive : r.contains k = true <;> simp [hlive]
      · by_cases hlive : r.contains k = true <;> simp [hlive, hkh]

/-- A call emits an ignored release of a handle if it releases it and nothing is there. -/
theorem count_releaseIgnored_access (h : Handle) (r : Registry α) (call : AccessCall α κ) :
    (r.access call).1.events.count (.releaseIgnored h) =
      if missesRelease h (r, call) then 1 else 0 := by
  have hevent : Event.ofRegistry (.releaseIgnored h) = true := rfl
  rw [← List.count_filter hevent, filter_events_access, reports, missesRelease]
  cases call.effect with
  | registers a => rfl
  | releases k =>
      by_cases hkh : k = h
      · subst hkh
        by_cases hlive : r.contains k = true <;> simp [hlive]
      · by_cases hlive : r.contains k = true <;> simp [hlive, hkh]
  | nothing =>
      cases call.lookedUp? with
      | none => rfl
      | some k => by_cases hlive : r.contains k = true <;> simp [hlive]

/-- What can be read off the log of calls from the empty registry. -/
structure AuditTrail (calls : List (AccessCall α κ)) : Prop where
  /-- At every point the registrations and the releases of each handle have taken turns, and the
  last of them tells whether it is registered; and as many objects are there as were registered and
  not released. -/
  trail : ∀ earlier later, calls = earlier ++ later →
    Trail (empty.runAccess earlier).2 (empty.log earlier)
  /-- A failed look-up of a handle is in the log once for each look-up of it, by handle or by live
  reference, of any kind or of one, that was made when nothing was registered under it. -/
  count_lookupMissed : ∀ h, (empty.log calls).count (.lookupMissed h) =
    (moments Registry.access empty calls).countP (missesLookup h)
  /-- An ignored release of a handle is in the log once for each release of it, by handle or by live
  reference, that was made when nothing was registered under it. -/
  count_releaseIgnored : ∀ h, (empty.log calls).count (.releaseIgnored h) =
    (moments Registry.access empty calls).countP (missesRelease h)
  /-- A call that does not register, release or look up emits no event about the registry. -/
  silent : ∀ r call, (r, call) ∈ moments Registry.access empty calls →
    call.effect = .nothing → call.lookedUp? = none →
      ∀ e ∈ (r.access call).1.events, e.ofRegistry = false

/-- The log of calls from the empty registry, by whatever routes, is an audit trail. -/
theorem log_is_audit_trail {calls : List (AccessCall α κ)}
    (hsize : (empty.runAccess calls).2.slots.entries.size < 2 ^ 63) : AuditTrail calls where
  trail earlier later hcalls := by
    subst hcalls
    exact trail_log (entries_size_lt_of_runAccess_append hsize)
  count_lookupMissed h := count_log (count_lookupMissed_access h) empty calls
  count_releaseIgnored h := count_log (count_releaseIgnored_access h) empty calls
  silent r call _ heffect hlookedUp e he := by
    have hevents := filter_events_access r call
    rw [reports, heffect, hlookedUp] at hevents
    have hnone := List.filter_eq_nil_iff.1 hevents e he
    exact Bool.eq_false_iff.2 hnone

/-- A handle is looked up in vain, given out by a bridge, looked up as the wrong kind, released by
foreign code, given up once more, refused by the encoder, and given out again. -/
def traced : List (AccessCall HostObject ObjectKind) :=
  [.host (.lookupOfKind ⟨1⟩ .byte), .bridge (.issue (.byte 5)), .host (.lookupOfKind ⟨1⟩ .text),
    .foreign (.release ⟨1⟩), .bridge (.retire (.live ⟨1⟩)),
    .bridge (.encode (.externref (.live ⟨1⟩))), .host (.register .unit)]

/-- The log of these calls has three turns of the handle, of which the last is a registration, one
failed look-up and one ignored release, and no event for the object of another kind. -/
theorem log_is_audit_trail_recycling :
    (empty.runAccess traced).2.slots.entries.size < 2 ^ 63 ∧
      empty.log traced = [.lookupMissed ⟨1⟩, .registered ⟨1⟩, .released ⟨1⟩, .releaseIgnored ⟨1⟩,
        .absentRefused ⟨1⟩, .registered ⟨1⟩] ∧
      (empty.runAccess traced).2.contains ⟨1⟩ = true ∧
      (moments Registry.access empty traced).countP (missesLookup ⟨1⟩) = 1 ∧
      (moments Registry.access empty traced).countP (missesRelease ⟨1⟩) = 1 := by
  have hsize : (empty.runAccess traced).2.slots.entries.size < 2 ^ 63 := by decide
  have hlog : empty.log traced = [.lookupMissed ⟨1⟩, .registered ⟨1⟩, .released ⟨1⟩,
      .releaseIgnored ⟨1⟩, .absentRefused ⟨1⟩, .registered ⟨1⟩] := by
    decide
  have haudit := log_is_audit_trail hsize
  have htrail := haudit.trail traced [] (List.append_nil _).symm
  refine ⟨hsize, hlog, ?_, ?_, ?_⟩
  · rw [(htrail.alternates ⟨1⟩).live_iff, hlog]
    decide
  · rw [← haudit.count_lookupMissed, hlog]
    decide
  · rw [← haudit.count_releaseIgnored, hlog]
    decide

end Registry

end HostBoundary
