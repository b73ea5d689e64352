import HostBoundary.HostObject
import HostBoundary.Proofs.Registry.Steps

/-!
# Ownership of handles among clients

Any number of clients share one registry. Each of their calls is one atomic step, so what they do is
a schedule: a list of calls, each with the client that makes it, in any order. A client holds a
handle from the moment a registration of its own returns it until it releases the handle itself, and
a schedule is `Disciplined` when clients release only what they hold.

The registry recycles handles, so that what one client releases is given to another one later.
`clients_own_exclusively` says that a disciplined schedule nevertheless never gives out a handle
that somebody holds or that was in use at the start, and that every client finds its own object
under each handle that it holds. The invariant is `Exclusive`: clients hold disjoint sets of
occupied slots, none of which was occupied at the start. It is a matter of slot tables and of who
holds what, and it is kept by insertions and by removals of what is held, whatever the calls behind
them are.
-/

namespace HostBoundary

universe u v w

variable {α : Type u} {κ : Type v} {ι : Type w}

/-! ## Slots held apart -/

/-- Clients hold disjoint sets of occupied slots of a table, apart from the slots that were occupied
at the start, which are as they were. -/
structure Exclusive (start now : SlotTable α) (holds : ι → Handle → α → Prop) : Prop where
  /-- What was there at the start still is. -/
  start_kept : ∀ h a, start.get? h = some a → now.get? h = some a
  /-- Under a handle that a client holds is the object that the client holds. -/
  held : ∀ client h a, holds client h a → now.get? h = some a
  /-- No client holds a handle that was in use at the start. -/
  held_fresh : ∀ client h a, holds client h a → start.get? h = none
  /-- No two clients hold one handle. -/
  disjoint : ∀ client other h a b, holds client h a → holds other h b → client = other

namespace Exclusive

variable {start now : SlotTable α} {holds held : ι → Handle → α → Prop}

/-- Before anybody holds anything. -/
theorem refl (start : SlotTable α) (hnobody : ∀ client h a, ¬ holds client h a) :
    Exclusive start start holds where
  start_kept _ _ ha := ha
  held client h a hholds := absurd hholds (hnobody client h a)
  held_fresh client h a hholds := absurd hholds (hnobody client h a)
  disjoint client _ h a _ hholds := absurd hholds (hnobody client h a)

/-- Holding less does no harm. -/
theorem mono (hexcl : Exclusive start now holds)
    (hless : ∀ client h a, held client h a → holds client h a) : Exclusive start now held where
  start_kept := hexcl.start_kept
  held client h a hheld := hexcl.held client h a (hless client h a hheld)
  held_fresh client h a hheld := hexcl.held_fresh client h a (hless client h a hheld)
  disjoint client other h a b hheld hother :=
    hexcl.disjoint client other h a b (hless client h a hheld) (hless other h b hother)

/-- A vacant slot is held by nobody and was vacant at the start. -/
theorem vacant (hexcl : Exclusive start now holds) {h : Handle} (hvacant : now.get? h = none) :
    start.get? h = none ∧ ∀ client a, ¬ holds client h a := by
  refine ⟨?_, ?_⟩
  · by_contra hused
    obtain ⟨a, ha⟩ := Option.ne_none_iff_exists'.1 hused
    have hkept := hexcl.start_kept h a ha
    rw [hvacant] at hkept
    cases hkept
  · intro client a hholds
    have hheld := hexcl.held client h a hholds
    rw [hvacant] at hheld
    cases hheld

/-- An insertion gives its client a slot that nobody held. -/
theorem insert (hexcl : Exclusive start now holds) (hnow : now.WellFormed)
    (hsize : now.entries.size < 2 ^ 63) (client : ι) (a : α) :
    Exclusive start (now.insert a).2 fun other k b =>
      (client = other ∧ b = a ∧ k = (now.insert a).1) ∨ holds other k b := by
  have hvacant := hnow.get?_insert_fst hsize a
  obtain ⟨hunused, hunheld⟩ := hexcl.vacant hvacant
  have hkept : ∀ k b, now.get? k = some b → (now.insert a).2.get? k = some b := by
    intro k b hb
    refine (hnow.get?_insert_eq_some_iff hsize a).2 (Or.inr ⟨hb, ?_⟩)
    intro hk
    rw [hk, hvacant] at hb
    cases hb
  refine ⟨?_, ?_, ?_, ?_⟩
  · intro k b hb
    exact hkept k b (hexcl.start_kept k b hb)
  · intro other k b hheld
    rcases hheld with ⟨-, hb, hk⟩ | hheld
    · exact (hnow.get?_insert_eq_some_iff hsize a).2 (Or.inl ⟨hb.symm, hk⟩)
    · exact hkept k b (hexcl.held other k b hheld)
  · intro other k b hheld
    rcases hheld with ⟨-, -, hk⟩ | hheld
    · rw [hk]
      exact hunused
    · exact hexcl.held_fresh other k b hheld
  · intro one two k b c hone htwo
    -- Both hold the new slot or both held an old one, as the new slot was vacant before.
    rcases hone with ⟨hone, -, hk⟩ | hone
    · rcases htwo with ⟨htwo, -, -⟩ | htwo
      · exact hone.symm.trans htwo
      · rw [hk] at htwo
        exact absurd htwo (hunheld two c)
    · rcases htwo with ⟨-, -, hk⟩ | htwo
      · rw [hk] at hone
        exact absurd hone (hunheld one b)
      · exact hexcl.disjoint one two k b c hone htwo

/-- A removal of what a client holds takes it from that client and from nobody else. -/
theorem remove (hexcl : Exclusive start now holds) {client : ι} {h : Handle} {a : α}
    (hholds : holds client h a) :
    Exclusive start (now.remove h).2 fun other k b => holds other k b ∧ ¬ (client = other ∧ k = h)
    where
  start_kept k b hb := by
    refine SlotTable.get?_remove_eq_some_iff.2 ⟨hexcl.start_kept k b hb, ?_⟩
    intro hk
    rw [hk, hexcl.held_fresh client h a hholds] at hb
    cases hb
  held other k b hheld := by
    obtain ⟨hb, hother⟩ := hheld
    refine SlotTable.get?_remove_eq_some_iff.2 ⟨hexcl.held other k b hb, ?_⟩
    intro hk
    rw [hk] at hb
    exact hother ⟨hexcl.disjoint client other h a b hholds hb, hk⟩
  held_fresh other k b hheld := hexcl.held_fresh other k b hheld.1
  disjoint one two k b c hb hc := hexcl.disjoint one two k b c hb.1 hc.1

end Exclusive

/-! ## Clients and schedules -/

/-- Whether a call registers an object. -/
def CallEffect.isRegistration : CallEffect α → Bool
  | .registers _ => true
  | .releases _ | .nothing => false

/-- Whether a call releases a handle. -/
def CallEffect.isRelease : CallEffect α → Bool
  | .releases _ => true
  | .registers _ | .nothing => false

/-- The number of registrations in a schedule. -/
def registrations (schedule : List (ι × RegistryCall α κ)) : Nat :=
  schedule.countP fun turn => turn.2.effect.isRegistration

/-- The number of releases in a schedule. -/
def releases (schedule : List (ι × RegistryCall α κ)) : Nat :=
  schedule.countP fun turn => turn.2.effect.isRelease

/-- The number of registrations after one more call. -/
theorem registrations_append_singleton (schedule : List (ι × RegistryCall α κ))
    (turn : ι × RegistryCall α κ) :
    registrations (schedule ++ [turn]) =
      registrations schedule + if turn.2.effect.isRegistration then 1 else 0 := by
  unfold registrations
  rw [List.countP_append, List.countP_singleton]

/-- The number of releases after one more call. -/
theorem releases_append_singleton (schedule : List (ι × RegistryCall α κ))
    (turn : ι × RegistryCall α κ) :
    releases (schedule ++ [turn]) =
      releases schedule + if turn.2.effect.isRelease then 1 else 0 := by
  unfold releases
  rw [List.countP_append, List.countP_singleton]

/-- A client registered an object under a handle, and it has not released the handle since. -/
def Holds (past : List ((ι × RegistryCall α κ) × Logged (Reply α))) (client : ι) (h : Handle)
    (a : α) : Prop :=
  Since (fun moment => moment.1.1 = client ∧ Registers (moment.1.2, moment.2) h a)
    (fun moment => moment.1.1 = client ∧ moment.1.2.effect = .releases h) past

namespace Registry

variable [HasKind α κ] [DecidableEq κ]

/-- How a registry answers the call of a client, and the registry afterwards. The answer does not
depend on who is calling. -/
def serve (r : Registry α) (turn : ι × RegistryCall α κ) : Logged (Reply α) × Registry α :=
  r.answer turn.2

/-- How a registry answers the calls of a schedule, and the registry afterwards. -/
def serveAll (r : Registry α) (schedule : List (ι × RegistryCall α κ)) :
    List (Logged (Reply α)) × Registry α :=
  HostBoundary.run serve r schedule

/-- Every client releases only what it holds at that moment. -/
def Disciplined (start : Registry α) (schedule : List (ι × RegistryCall α κ)) : Prop :=
  ∀ earlier client call later h, schedule = earlier ++ (client, call) :: later →
    call.effect = .releases h → ∃ a, Holds (history serve start earlier) client h a

variable {start : Registry α} {schedule : List (ι × RegistryCall α κ)} {client : ι}
  {call : RegistryCall α κ}

/-- The registry after one more call. -/
theorem serveAll_append_singleton (start : Registry α) (schedule : List (ι × RegistryCall α κ))
    (client : ι) (call : RegistryCall α κ) :
    (start.serveAll (schedule ++ [(client, call)])).2 =
      ((start.serveAll schedule).2.answer call).2 :=
  run_append_singleton _ _ _

/-- A registry that a schedule leaves below the limit on slots was below it at every point. -/
theorem entries_size_lt_of_serveAll_append {later : List (ι × RegistryCall α κ)} {limit : Nat}
    (hsize : (start.serveAll (schedule ++ later)).2.slots.entries.size < limit) :
    (start.serveAll schedule).2.slots.entries.size < limit := by
  have hback : ∀ (r : Registry α) (turn : ι × RegistryCall α κ),
      (r.serve turn).2.slots.entries.size < limit → r.slots.entries.size < limit := by
    intro r turn hturn
    exact r.entries_size_lt_of_answer turn.2 hturn
  unfold serveAll at hsize
  rw [run_append] at hsize
  exact within_of_run (fun r : Registry α => r.slots.entries.size < limit) hback hsize

/-- What a client holds after one more call, of its own or of another client. -/
theorem holds_append_singleton {other : ι} {h : Handle} {a : α} :
    Holds (history serve start (schedule ++ [(client, call)])) other h a ↔
      (client = other ∧ call.effect = .registers a ∧
        h = ((start.serveAll schedule).2.slots.insert a).1) ∨
      Holds (history serve start schedule) other h a ∧
        ¬ (client = other ∧ call.effect = .releases h) := by
  rw [← registers_answer_iff]
  unfold Holds
  rw [history_append_singleton, since_append_singleton]
  rfl

/-- One more call of a schedule is disciplined when the client holds what it releases. -/
theorem disciplined_append_singleton :
    Disciplined start (schedule ++ [(client, call)]) ↔
      Disciplined start schedule ∧ ∀ h, call.effect = .releases h →
        ∃ a, Holds (history serve start schedule) client h a := by
  refine ⟨fun hdisc => ?_, fun hboth => ?_⟩
  · refine ⟨?_, fun h heffect => hdisc schedule client call [] h rfl heffect⟩
    intro earlier client' call' later h hsplit heffect
    exact hdisc earlier client' call' (later ++ [(client, call)]) h (by simp [hsplit]) heffect
  · obtain ⟨hdisc, hlast⟩ := hboth
    intro earlier client' call' later h hsplit heffect
    rcases append_singleton_eq_append_cons hsplit with ⟨rfl, hturn, -⟩ | ⟨between, -, hbefore⟩
    · cases hturn
      exact hlast h heffect
    · exact hdisc earlier client' call' between h hbefore heffect

/-- The beginning of a disciplined schedule is disciplined. -/
theorem Disciplined.of_append {later : List (ι × RegistryCall α κ)}
    (hdisc : Disciplined start (schedule ++ later)) : Disciplined start schedule := by
  intro earlier client call between h hsplit heffect
  exact hdisc earlier client call (between ++ later) h (by simp [hsplit]) heffect

/-! ## The invariant of disciplined schedules -/

/-- What holds of a registry after a disciplined schedule. -/
structure Shared (start : Registry α) (schedule : List (ι × RegistryCall α κ)) : Prop where
  /-- The parts of the slot table agree. -/
  wellFormed : (start.serveAll schedule).2.slots.WellFormed
  /-- Clients hold disjoint sets of occupied slots. -/
  exclusive : Exclusive start.slots (start.serveAll schedule).2.slots
    (Holds (history serve start schedule))
  /-- The size has changed by the registrations and the releases. -/
  size_eq : (start.serveAll schedule).2.size + releases schedule =
    start.size + registrations schedule

/-- A registry that no client has called yet. -/
theorem shared_nil (hstart : start.slots.WellFormed) :
    Shared start ([] : List (ι × RegistryCall α κ)) where
  wellFormed := hstart
  exclusive := Exclusive.refl start.slots fun _ _ _ => not_since_nil
  size_eq := rfl

/-- After a call of a client that holds what the call releases, clients still hold disjoint sets of
occupied slots. -/
theorem Shared.exclusive_append_singleton (hshared : Shared start schedule)
    (hsize : (start.serveAll schedule).2.slots.entries.size < 2 ^ 63)
    (hholds : ∀ h, call.effect = .releases h →
      ∃ a, Holds (history serve start schedule) client h a) :
    Exclusive start.slots (start.serveAll (schedule ++ [(client, call)])).2.slots
      (Holds (history serve start (schedule ++ [(client, call)]))) := by
  obtain ⟨hwell, hexcl, -⟩ := hshared
  rw [serveAll_append_singleton]
  cases heffect : call.effect with
  | registers a =>
      rw [slots_answer_of_registers heffect]
      refine (hexcl.insert hwell hsize client a).mono ?_
      intro other k b hb
      rcases holds_append_singleton.1 hb with ⟨hclient, hb, hk⟩ | ⟨hb, -⟩
      · rw [heffect] at hb
        cases hb
        exact Or.inl ⟨hclient, rfl, hk⟩
      · exact Or.inr hb
  | releases h =>
      obtain ⟨a, hheld⟩ := hholds h heffect
      rw [slots_answer_of_releases heffect]
      refine (hexcl.remove hheld).mono ?_
      intro other k b hb
      rcases holds_append_singleton.1 hb with ⟨-, hb, -⟩ | ⟨hb, hkept⟩
      · rw [heffect] at hb
        cases hb
      · refine ⟨hb, ?_⟩
        intro hreleased
        obtain ⟨hclient, hk⟩ := hreleased
        rw [hk] at hkept
        exact hkept ⟨hclient, heffect⟩
  | nothing =>
      rw [answer_snd_of_nothing heffect]
      refine hexcl.mono ?_
      intro other k b hb
      rcases holds_append_singleton.1 hb with ⟨-, hb, -⟩ | ⟨hb, -⟩
      · rw [heffect] at hb
        cases hb
      · exact hb

/-- A call of a client that holds what the call releases changes the size by what it counts for. -/
theorem Shared.size_append_singleton (hshared : Shared start schedule)
    (hholds : ∀ h, call.effect = .releases h →
      ∃ a, Holds (history serve start schedule) client h a) :
    (start.serveAll (schedule ++ [(client, call)])).2.size +
        releases (schedule ++ [(client, call)]) =
      start.size + registrations (schedule ++ [(client, call)]) := by
  obtain ⟨hwell, hexcl, hcount⟩ := hshared
  rw [registrations_append_singleton, releases_append_singleton, serveAll_append_singleton]
  cases heffect : call.effect with
  | registers a =>
      have hgrown := size_answer_of_registers (r := (start.serveAll schedule).2) heffect
      simp only [CallEffect.isRegistration, CallEffect.isRelease, if_true, Bool.false_eq_true,
        if_false]
      omega
  | releases h =>
      -- There is an object under the handle, so that the release is one that counts.
      obtain ⟨a, hheld⟩ := hholds h heffect
      have hshrunk := size_answer_of_releases hwell (hexcl.held client h a hheld) heffect
      simp only [CallEffect.isRegistration, CallEffect.isRelease, if_true, Bool.false_eq_true,
        if_false]
      omega
  | nothing =>
      rw [answer_snd_of_nothing heffect]
      exact hcount

/-- A call of a client that holds what the call releases keeps the invariant. -/
theorem Shared.append_singleton (hshared : Shared start schedule)
    (hsize : (start.serveAll schedule).2.slots.entries.size < 2 ^ 63)
    (hholds : ∀ h, call.effect = .releases h →
      ∃ a, Holds (history serve start schedule) client h a) :
    Shared start (schedule ++ [(client, call)]) where
  wellFormed := by
    rw [serveAll_append_singleton]
    exact wellFormed_answer hshared.wellFormed hsize call
  exclusive := hshared.exclusive_append_singleton hsize hholds
  size_eq := hshared.size_append_singleton hholds

/-- The invariant holds after every disciplined schedule. -/
theorem shared_of_disciplined (hstart : start.slots.WellFormed)
    (hsize : (start.serveAll schedule).2.slots.entries.size < 2 ^ 63)
    (hdisc : Disciplined start schedule) : Shared start schedule := by
  -- What a client may release depends on the calls before it, so the last call is taken off.
  induction schedule using List.reverseRecOn with
  | nil => exact shared_nil hstart
  | append_singleton schedule turn ih =>
      obtain ⟨client, call⟩ := turn
      obtain ⟨hdisc, hlast⟩ := disciplined_append_singleton.1 hdisc
      rw [serveAll_append_singleton] at hsize
      have hbefore := entries_size_lt_of_answer _ call hsize
      exact (ih hbefore hdisc).append_singleton hbefore hlast

/-- A registration gives out a handle that nobody holds and that is and was not in use. -/
theorem Shared.issues_vacant (hshared : Shared start schedule)
    (hsize : (start.serveAll schedule).2.slots.entries.size < 2 ^ 63) {a : α}
    (heffect : call.effect = .registers a) :
    ∃ h, ((start.serveAll schedule).2.answer call).1.result.issued? = some h ∧
      h.isNull = false ∧ (start.serveAll schedule).2.contains h = false ∧
      start.contains h = false ∧ ∀ other b, ¬ Holds (history serve start schedule) other h b := by
  obtain ⟨hwell, hexcl, -⟩ := hshared
  have hvacant := hwell.get?_insert_fst hsize a
  obtain ⟨hunused, hunheld⟩ := hexcl.vacant hvacant
  refine ⟨_, issued?_answer_of_registers heffect, hwell.isNull_insert_fst hsize a, ?_, ?_, hunheld⟩
  · rw [contains_eq, hvacant]
    rfl
  · rw [contains_eq, hunused]
    rfl

/-- Who looks up or releases what it holds is given the object that it registered. -/
theorem Shared.result_of_holds (hshared : Shared start schedule) {h : Handle} {a : α}
    (hholds : Holds (history serve start schedule) client h a)
    (hcall : call = .lookup h ∨ call = .release h) :
    ((start.serveAll schedule).2.answer call).1.result = .object (some a) := by
  have hheld := hshared.exclusive.held client h a hholds
  rcases hcall with rfl | rfl
  · show Reply.object ((start.serveAll schedule).2.lookup h).result = _
    rw [result_lookup, hheld]
  · show Reply.object ((start.serveAll schedule).2.release h).1.result = _
    rw [result_release, hheld]

/-- In every disciplined schedule of any number of clients on a reachable registry: at every point
what was registered at the start still is, the size is that at the start plus the registrations and
minus the releases so far, and no two clients hold one handle. Every registration returns a handle
that is not null, is not in use, was not in use at the start and is held by nobody. And looking up
or releasing a handle that the client holds gives the object that it registered. -/
theorem clients_own_exclusively (hstart : start.Reachable)
    (hsize : (start.serveAll schedule).2.slots.entries.size < 2 ^ 63)
    (hdisc : Disciplined start schedule) :
    (∀ earlier later, schedule = earlier ++ later →
      (∀ h a, (start.lookup h).result = some a →
        ((start.serveAll earlier).2.lookup h).result = some a) ∧
      (start.serveAll earlier).2.size + releases earlier = start.size + registrations earlier ∧
      ∀ client other h a b, Holds (history serve start earlier) client h a →
        Holds (history serve start earlier) other h b → client = other ∧ a = b) ∧
    (∀ earlier client call later, schedule = earlier ++ (client, call) :: later →
      (∀ a, call.effect = .registers a →
        ∃ h, ((start.serveAll earlier).2.answer call).1.result.issued? = some h ∧
          h.isNull = false ∧ (start.serveAll earlier).2.contains h = false ∧
          start.contains h = false ∧
          ∀ other b, ¬ Holds (history serve start earlier) other h b) ∧
      (∀ h a, Holds (history serve start earlier) client h a →
        call = .lookup h ∨ call = .release h →
          ((start.serveAll earlier).2.answer call).1.result = .object (some a))) := by
  have hfits : ∀ earlier later, schedule = earlier ++ later →
      (start.serveAll earlier).2.slots.entries.size < 2 ^ 63 := by
    intro earlier later hsplit
    rw [hsplit] at hsize
    exact entries_size_lt_of_serveAll_append hsize
  have hshared : ∀ earlier later, schedule = earlier ++ later → Shared start earlier := by
    intro earlier later hsplit
    have hbegin : start.slots.entries.size < 2 ^ 63 := hfits [] schedule rfl
    have hprefix : Disciplined start earlier := by
      rw [hsplit] at hdisc
      exact hdisc.of_append
    exact shared_of_disciplined (hstart.wellFormed hbegin) (hfits earlier later hsplit) hprefix
  refine ⟨fun earlier later hsplit => ?_, fun earlier client call later hsplit => ?_⟩
  · obtain ⟨-, hexcl, hcount⟩ := hshared earlier later hsplit
    refine ⟨?_, hcount, ?_⟩
    · intro h a ha
      rw [result_lookup] at ha ⊢
      exact hexcl.start_kept h a ha
    · intro client other h a b ha hb
      have hab : some a = some b := (hexcl.held client h a ha).symm.trans (hexcl.held other h b hb)
      exact ⟨hexcl.disjoint client other h a b ha hb, Option.some.inj hab⟩
  · have hbefore := hshared earlier _ hsplit
    refine ⟨?_, ?_⟩
    · intro a heffect
      exact hbefore.issues_vacant (hfits earlier _ hsplit) heffect
    · intro h a hholds hcall
      exact hbefore.result_of_holds hholds hcall

/-- One client gives a handle up and another one is given it next. -/
def handover : List (Bool × RegistryCall HostObject ObjectKind) :=
  [(false, .register (.byte 5)), (false, .release ⟨2⟩), (true, .register (.byte 7)),
    (true, .lookup ⟨2⟩)]

/-- On a registry with one object, the client that is given the handle finds its own object under
it. -/
theorem clients_own_exclusively_handover :
    (⟨⟨#[some .unit], [], 1⟩⟩ : Registry HostObject).Reachable ∧
      ((⟨⟨#[some .unit], [], 1⟩⟩ : Registry HostObject).serveAll handover).2.slots.entries.size <
        2 ^ 63 ∧
      Disciplined (⟨⟨#[some .unit], [], 1⟩⟩ : Registry HostObject) handover ∧
      (((⟨⟨#[some .unit], [], 1⟩⟩ : Registry HostObject).serveAll (handover.take 3)).2.answer
        (.lookup ⟨2⟩)).1.result = .object (some (.byte 7)) := by
  have hreach : (⟨⟨#[some .unit], [], 1⟩⟩ : Registry HostObject).Reachable :=
    ⟨[.register .unit], rfl⟩
  have hsize : ((⟨⟨#[some .unit], [], 1⟩⟩ : Registry HostObject).serveAll
      handover).2.slots.entries.size < 2 ^ 63 := by
    decide
  have hdisc : Disciplined (⟨⟨#[some .unit], [], 1⟩⟩ : Registry HostObject) handover := by
    intro earlier client call later h hsplit heffect
    unfold handover at hsplit
    rcases earlier with _ | ⟨_, _ | ⟨_, _ | ⟨_, _ | ⟨_, earlier⟩⟩⟩⟩
    · cases hsplit
      cases heffect
    · cases hsplit
      cases heffect
      exact ⟨.byte 5, [], ((false, .register (.byte 5)), ⟨.handle ⟨2⟩, [.registered ⟨2⟩]⟩), [], rfl,
        ⟨rfl, rfl, rfl⟩, by simp⟩
    · cases hsplit
      cases heffect
    · cases hsplit
      cases heffect
    · simp at hsplit
  refine ⟨hreach, hsize, hdisc, ?_⟩
  have hanswers := (clients_own_exclusively hreach hsize hdisc).2 (handover.take 3) true
    (.lookup ⟨2⟩) [] rfl
  exact hanswers.2 ⟨2⟩ (.byte 7)
    ⟨[((false, .register (.byte 5)), ⟨.handle ⟨2⟩, [.registered ⟨2⟩]⟩),
        ((false, .release ⟨2⟩), ⟨.object (some (.byte 5)), [.released ⟨2⟩]⟩)],
      ((true, .register (.byte 7)), ⟨.handle ⟨2⟩, [.registered ⟨2⟩]⟩), [], rfl, ⟨rfl, rfl, rfl⟩,
      by simp⟩
    (Or.inl rfl)

end Registry

end HostBoundary
