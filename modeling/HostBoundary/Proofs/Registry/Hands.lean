import HostBoundary.HostObject
import HostBoundary.Proofs.Registry.Steps
import HostBoundary.Proofs.Transfer.Steps

/-!
# References in hand

A reference can be passed on, given up or let go, but it cannot be duplicated: giving it up takes it
out of the hand, and what comes back is its released form. `Hands` is a registry together with the
references that its users have in hand, and `Move` is what users do. The only way to a second
reference to one object is to decode a cell that holds its handle.

`held_references_name_their_objects` says what this buys the users who never decode and who release
nothing but references in hand: the live references in hand have different handles, and each finds
the object that it was made for, however often handles are recycled. The invariant is `Names`. It
relates the slots of the registry to what is in hand, and it has one lemma for each thing that can
happen to either.
-/

namespace HostBoundary

universe u v

variable {α : Type u} {κ : Type v}

/-- The handle of a live reference; a released one has none. -/
def ExternRef.live? : ExternRef → Option Handle
  | .live h => some h
  | .released _ => none

/-- A live reference has the handle that it is made of. -/
theorem ExternRef.live?_eq_some_iff {ref : ExternRef} {h : Handle} :
    ref.live? = some h ↔ ref = .live h := by
  cases ref <;> simp [live?]

/-- The reference that a reply hands out, if it hands out one. -/
def Reply.reference? (reply : Reply α) : Option ExternRef :=
  reply.value?.bind Value.externref?

/-- A reference in hand, with the object that its handle named when the reference was obtained. The
released form of a reference keeps the object of the reference that was given up for it. -/
structure Held (α : Type u) where
  ref : ExternRef
  object : Option α
  deriving DecidableEq

/-- A registry and the references that its users have in hand, the latest first. -/
structure Hands (α : Type u) where
  registry : Registry α
  held : List (Held α)
  deriving DecidableEq

/-- What users of a registry do. -/
inductive Move (α : Type u) (κ : Type v) where
  /-- Make a reference to an object that is registered for it. -/
  | issue (object : α)
  /-- Read a cell. If it is read as a reference, that is one more in hand. -/
  | decode (cell : Cell) (type : ValueType)
  /-- Give up the reference at a position in hand, which is released for it. -/
  | retire (position : Nat)
  /-- Let the reference at a position in hand go. The registry is not told. -/
  | drop (position : Nat)
  /-- Make any other call. A reference that the reply hands out is let go at once. -/
  | call (call : RegistryCall α κ)
  deriving DecidableEq

/-- Whether a move releases no handle but that of a reference in hand. -/
def Move.ByReference : Move α κ → Prop
  | .issue _ | .decode _ _ | .retire _ | .drop _ => True
  | .call made => ∀ h, made.effect ≠ .releases h

/-- Whether a move, besides, puts no reference in hand but those made for their objects. -/
def Move.MoveOnly : Move α κ → Prop
  | .decode _ _ => False
  | move => move.ByReference

namespace Hands

/-- The empty registry, and nothing in hand. -/
def empty : Hands α :=
  ⟨.empty, []⟩

/-- The handles of the live references in hand. -/
def liveHandles (s : Hands α) : List Handle :=
  s.held.filterMap fun x => x.ref.live?

variable [HasKind α κ] [DecidableEq κ]

/-- Make a call and take the reference that the reply hands out, if any, into hand as one that names
the given object. The result is the call with its answer. -/
def take (s : Hands α) (call : RegistryCall α κ) (object : Option α) :
    Option (RegistryCall α κ × Logged (Reply α)) × Hands α :=
  let (reply, next) := s.registry.answer call
  (some (call, reply),
    ⟨next, (reply.result.reference?.toList.map fun ref => ⟨ref, object⟩) ++ s.held⟩)

/-- Make a move. The result is the call that the move makes of the registry, with its answer; there
is none if a reference is let go, and none if there is no reference at the position to give up. -/
def make (s : Hands α) :
    Move α κ → Option (RegistryCall α κ × Logged (Reply α)) × Hands α
  | .issue a => s.take (.issue a) (some a)
  | .decode c t => s.take (.decode c t) (s.registry.lookup c.handle).result
  | .retire i =>
      match s.held[i]? with
      | some x => (⟨s.registry, s.held.eraseIdx i⟩ : Hands α).take (.retire x.ref) x.object
      | none => (none, s)
  | .drop i => (none, ⟨s.registry, s.held.eraseIdx i⟩)
  | .call call =>
      let (reply, next) := s.registry.answer call
      (some (call, reply), ⟨next, s.held⟩)

/-- Make moves in order. -/
def play (s : Hands α) (moves : List (Move α κ)) :
    List (Option (RegistryCall α κ × Logged (Reply α))) × Hands α :=
  HostBoundary.run make s moves

/-- The calls that moves make of the registry, each with its answer. -/
def exchanges (s : Hands α) (moves : List (Move α κ)) :
    List (RegistryCall α κ × Logged (Reply α)) :=
  (s.play moves).1.reduceOption

variable {s : Hands α} {moves : List (Move α κ)} {move : Move α κ}

/-! ## One move -/

/-- What a move does to the registry is what its call does, if it makes one. -/
theorem make_cases (s : Hands α) (move : Move α κ) :
    (∃ call, (s.make move).1 = some (call, (s.registry.answer call).1) ∧
      (s.make move).2.registry = (s.registry.answer call).2) ∨
    (s.make move).1 = none ∧ (s.make move).2.registry = s.registry := by
  cases move with
  | issue a => exact Or.inl ⟨.issue a, rfl, rfl⟩
  | decode c t => exact Or.inl ⟨.decode c t, rfl, rfl⟩
  | retire i =>
      cases hx : s.held[i]? with
      | none => exact Or.inr (by simp [make, hx])
      | some x => exact Or.inl ⟨.retire x.ref, by simp [make, hx, take]⟩
  | drop i => exact Or.inr ⟨rfl, rfl⟩
  | call call => exact Or.inl ⟨call, rfl, rfl⟩

/-- No move closes a slot. -/
theorem entries_size_lt_of_make {limit : Nat} (s : Hands α) (move : Move α κ)
    (hsize : (s.make move).2.registry.slots.entries.size < limit) :
    s.registry.slots.entries.size < limit := by
  rcases s.make_cases move with ⟨call, -, hnext⟩ | ⟨-, hnext⟩
  · rw [hnext] at hsize
    exact s.registry.entries_size_lt_of_answer call hsize
  · rw [hnext] at hsize
    exact hsize

/-- Every move keeps the slots well formed. -/
theorem wellFormed_make (hs : s.registry.slots.WellFormed)
    (hsize : s.registry.slots.entries.size < 2 ^ 63) (move : Move α κ) :
    (s.make move).2.registry.slots.WellFormed := by
  rcases s.make_cases move with ⟨call, -, hnext⟩ | ⟨-, hnext⟩
  · rw [hnext]
    exact Registry.wellFormed_answer hs hsize call
  · rw [hnext]
    exact hs

/-- Giving up a live reference empties the slot of its handle. -/
theorem slots_make_retire {i : Nat} {x : Held α} {h : Handle} (hx : s.held[i]? = some x)
    (href : x.ref = .live h) :
    (s.make (.retire i : Move α κ)).2.registry.slots = (s.registry.slots.remove h).2 := by
  have hslots : (s.registry.answer (.retire (.live h) : RegistryCall α κ)).2.slots =
      (s.registry.slots.remove h).2 :=
    Registry.slots_answer_of_releases rfl
  rw [← hslots, ← href]
  simp only [make, hx]
  rfl

/-! ## What references in hand name -/

/-- The live references in hand have different handles, and under each handle a table has the object
of the reference. -/
structure Names (slots : SlotTable α) (held : List (Held α)) : Prop where
  /-- No handle is in hand twice. -/
  nodup : (held.filterMap fun x => x.ref.live?).Nodup
  /-- Every live reference in hand finds its object. -/
  found : ∀ x ∈ held, ∀ h, x.ref = .live h → ∃ a, x.object = some a ∧ slots.get? h = some a

namespace Names

variable {slots : SlotTable α} {held : List (Held α)} {x : Held α}

/-- Nothing in hand. -/
theorem nil (slots : SlotTable α) : Names slots [] where
  nodup := List.nodup_nil
  found := by simp

/-- The order in hand does not matter. -/
theorem perm {other : List (Held α)} (hnames : Names slots held) (hperm : held.Perm other) :
    Names slots other where
  nodup := (hperm.filterMap _).nodup_iff.1 hnames.nodup
  found y hy := hnames.found y (hperm.mem_iff.2 hy)

/-- What is let go does no harm. -/
theorem tail (hnames : Names slots (x :: held)) : Names slots held where
  nodup := hnames.nodup.sublist ((List.sublist_cons_self x held).filterMap _)
  found y hy := hnames.found y (List.mem_cons_of_mem x hy)

/-- A released reference names nothing. -/
theorem cons_released (hnames : Names slots held) (h : Handle) (object : Option α) :
    Names slots (⟨.released h, object⟩ :: held) where
  nodup := hnames.nodup
  found y hy k hk := by
    rcases List.mem_cons.1 hy with rfl | hy
    · cases hk
    · exact hnames.found y hy k hk

/-- A registration takes a vacant slot, which no reference in hand names. -/
theorem insert (hnames : Names slots held) (hslots : slots.WellFormed)
    (hsize : slots.entries.size < 2 ^ 63) (a : α) : Names (slots.insert a).2 held where
  nodup := hnames.nodup
  found y hy h hh := by
    obtain ⟨b, hb, hget⟩ := hnames.found y hy h hh
    refine ⟨b, hb, (hslots.get?_insert_eq_some_iff hsize a).2 (Or.inr ⟨hget, ?_⟩)⟩
    rintro rfl
    rw [hslots.get?_insert_fst hsize a] at hget
    cases hget

/-- A new reference names the object that was registered for it. -/
theorem cons_insert (hnames : Names slots held) (hslots : slots.WellFormed)
    (hsize : slots.entries.size < 2 ^ 63) (a : α) :
    Names (slots.insert a).2 (⟨.live (slots.insert a).1, some a⟩ :: held) := by
  refine ⟨?_, ?_⟩
  · show ((slots.insert a).1 :: held.filterMap fun x => x.ref.live?).Nodup
    -- A reference in hand with the new handle would find an object in a vacant slot.
    refine List.nodup_cons.2 ⟨fun hmem => ?_, hnames.nodup⟩
    obtain ⟨y, hy, hlive⟩ := List.mem_filterMap.1 hmem
    obtain ⟨b, -, hget⟩ := hnames.found y hy _ (ExternRef.live?_eq_some_iff.1 hlive)
    rw [hslots.get?_insert_fst hsize a] at hget
    cases hget
  · intro y hy h hh
    rcases List.mem_cons.1 hy with rfl | hy
    · cases hh
      exact ⟨a, rfl, (hslots.get?_insert_eq_some_iff hsize a).2 (Or.inl ⟨rfl, rfl⟩)⟩
    · exact (hnames.insert hslots hsize a).found y hy h hh

/-- Releasing the handle of one reference in hand leaves those of the others alone. -/
theorem remove (hnames : Names slots (x :: held)) {h : Handle} (hx : x.ref = .live h) :
    Names (slots.remove h).2 held := by
  have hnodup := hnames.nodup
  rw [List.filterMap_cons_some (b := h) (by rw [hx]; rfl)] at hnodup
  obtain ⟨hother, hrest⟩ := List.nodup_cons.1 hnodup
  refine ⟨hrest, fun y hy k hk => ?_⟩
  obtain ⟨b, hb, hget⟩ := hnames.tail.found y hy k hk
  refine ⟨b, hb, SlotTable.get?_remove_eq_some_iff.2 ⟨hget, ?_⟩⟩
  rintro rfl
  exact hother (List.mem_filterMap.2 ⟨y, hy, ExternRef.live?_eq_some_iff.2 hk⟩)

end Names

/-- Taking the reference at a position out of the hand and putting it in front only changes the
order. -/
theorem perm_cons_eraseIdx {held : List (Held α)} {i : Nat} {x : Held α} (hx : held[i]? = some x) :
    held.Perm (x :: held.eraseIdx i) := by
  obtain ⟨hi, rfl⟩ := List.getElem?_eq_some_iff.1 hx
  exact (List.getElem_cons_eraseIdx_perm hi).symm

/-- Every move that makes no copies keeps the references in hand naming their objects. -/
theorem names_make (hslots : s.registry.slots.WellFormed)
    (hsize : s.registry.slots.entries.size < 2 ^ 63) (hnames : Names s.registry.slots s.held)
    (hmove : move.MoveOnly) : Names (s.make move).2.registry.slots (s.make move).2.held := by
  cases move with
  | issue a => exact hnames.cons_insert hslots hsize a
  | decode c t => exact hmove.elim
  | retire i =>
      cases hx : s.held[i]? with
      | none =>
          simp only [make, hx]
          exact hnames
      | some x =>
          have hsplit := hnames.perm (perm_cons_eraseIdx hx)
          cases href : x.ref with
          | released h =>
              simp only [make, hx, href]
              exact hsplit.tail.cons_released h x.object
          | live h =>
              -- The slot is emptied, and no other reference in hand has its handle.
              have hheld : (s.make (.retire i : Move α κ)).2.held =
                  ⟨.released h, x.object⟩ :: s.held.eraseIdx i := by
                simp only [make, hx, href]
                rfl
              rw [slots_make_retire hx href, hheld]
              exact (hsplit.remove href).cons_released h x.object
  | drop i =>
      show Names s.registry.slots (s.held.eraseIdx i)
      cases hx : s.held[i]? with
      | none => rwa [List.eraseIdx_of_length_le (List.getElem?_eq_none_iff.1 hx)]
      | some x => exact (hnames.perm (perm_cons_eraseIdx hx)).tail
  | call call =>
      show Names (s.registry.answer call).2.slots s.held
      cases heffect : call.effect with
      | registers a =>
          rw [Registry.slots_answer_of_registers heffect]
          exact hnames.insert hslots hsize a
      | releases h => exact absurd heffect (hmove h)
      | nothing =>
          rw [Registry.answer_snd_of_nothing heffect]
          exact hnames

/-! ## Runs of moves -/

/-- What every move keeps within the limit on slots holds after moves that end within it. -/
theorem play_invariant (good : Hands α → Prop) {moves : List (Move α κ)}
    (hstep : ∀ s : Hands α, ∀ move ∈ moves, s.registry.slots.entries.size < 2 ^ 63 → good s →
      good (s.make move).2)
    (hstart : good s) (hsize : (s.play moves).2.registry.slots.entries.size < 2 ^ 63) :
    good (s.play moves).2 :=
  run_invariant_within (fun s : Hands α => s.registry.slots.entries.size < 2 ^ 63)
    (fun s move => s.entries_size_lt_of_make move) good hstep hstart hsize

/-- No moves close a slot. -/
theorem entries_size_lt_of_play {limit : Nat} {s : Hands α} (moves : List (Move α κ))
    (hsize : (s.play moves).2.registry.slots.entries.size < limit) :
    s.registry.slots.entries.size < limit :=
  within_of_run (fun s : Hands α => s.registry.slots.entries.size < limit)
    (fun s move => s.entries_size_lt_of_make move) hsize

/-- Moves keep the slots well formed. -/
theorem wellFormed_play (hs : s.registry.slots.WellFormed) (moves : List (Move α κ))
    (hsize : (s.play moves).2.registry.slots.entries.size < 2 ^ 63) :
    (s.play moves).2.registry.slots.WellFormed := by
  refine play_invariant (fun s => s.registry.slots.WellFormed) ?_ hs hsize
  intro s move _ hfits hgood
  exact wellFormed_make hgood hfits move

/-- One more move makes its own call after those before it. -/
theorem exchanges_append_singleton (s : Hands α) (moves : List (Move α κ)) (move : Move α κ) :
    s.exchanges (moves ++ [move]) =
      s.exchanges moves ++ ((s.play moves).2.make move).1.toList := by
  unfold exchanges play
  rw [run_append, List.reduceOption_append, run_cons, run_nil, List.reduceOption_singleton]

/-- Every call that moves make is answered by the registry of that moment. -/
theorem answered_of_mem_exchanges {exchange : RegistryCall α κ × Logged (Reply α)}
    (hmem : exchange ∈ s.exchanges moves) :
    ∃ r : Registry α, exchange.2 = (r.answer exchange.1).1 := by
  induction moves using List.reverseRecOn with
  | nil => simp [exchanges, play] at hmem
  | append_singleton moves move ih =>
      rw [exchanges_append_singleton, List.mem_append, Option.mem_toList] at hmem
      rcases hmem with hmem | hlast
      · exact ih hmem
      · rcases (s.play moves).2.make_cases move with ⟨call, hcall, -⟩ | ⟨hnone, -⟩
        · rw [hcall, Option.some.injEq] at hlast
          rw [← hlast]
          exact ⟨_, rfl⟩
        · rw [hnone] at hlast
          cases hlast

/-- Giving up a reference hands back its released form. -/
theorem result_of_mem_exchanges_retire {ref : ExternRef} {reply : Logged (Reply α)}
    (hmem : ((.retire ref : RegistryCall α κ), reply) ∈ s.exchanges moves) :
    reply.result = .reference (.released ref.handle) := by
  obtain ⟨r, hreply⟩ := answered_of_mem_exchanges hmem
  have hresult : (r.answer (.retire ref : RegistryCall α κ)).1.result =
      .reference (.released ref.handle) := by
    cases ref <;> rfl
  exact (congrArg Logged.result hreply).trans hresult

/-- After moves that make no copies the slots are well formed and every live reference in hand names
its object. -/
theorem names_play (hmoves : ∀ move ∈ moves, move.MoveOnly)
    (hsize : ((empty : Hands α).play moves).2.registry.slots.entries.size < 2 ^ 63) :
    ((empty : Hands α).play moves).2.registry.slots.WellFormed ∧
      Names ((empty : Hands α).play moves).2.registry.slots
        ((empty : Hands α).play moves).2.held := by
  refine play_invariant (fun s => s.registry.slots.WellFormed ∧ Names s.registry.slots s.held)
    ?_ ⟨SlotTable.wellFormed_empty, Names.nil _⟩ hsize
  intro s move hmem hfits hgood
  obtain ⟨hslots, hnames⟩ := hgood
  exact ⟨wellFormed_make hslots hfits move,
    names_make hslots hfits hnames (hmoves move hmem)⟩

/-- Whoever makes references for objects, gives them up or lets them go, never decodes a cell and
never releases a handle otherwise, has this after any moves, other calls among them: the live
references in hand have different handles, none of them null. Each handle is registered, the
reference finds the object that it was made for, and it is encoded as a cell that holds its handle.
The live references in hand are no more than the registered objects. And whatever references were
ever given up, all that came back for them is their released form, which finds nothing and is not
encoded, whoever has the handle by now. -/
theorem held_references_name_their_objects (moves : List (Move α κ))
    (hmoves : ∀ move ∈ moves, move.MoveOnly)
    (hsize : ((empty : Hands α).play moves).2.registry.slots.entries.size < 2 ^ 63) :
    ((empty : Hands α).play moves).2.liveHandles.Nodup ∧
    (∀ x ∈ ((empty : Hands α).play moves).2.held, ∀ h, x.ref = .live h →
      h.isNull = false ∧
      ((empty : Hands α).play moves).2.registry.contains h = true ∧
      (∃ a, x.object = some a ∧
        (((empty : Hands α).play moves).2.registry.resolve x.ref).result = some a) ∧
      ∃ c : Cell, (((empty : Hands α).play moves).2.registry.encodeChecked
        (.externref x.ref)).result = .ok c ∧ c.handle = h) ∧
    ((empty : Hands α).play moves).2.liveHandles.length ≤
      ((empty : Hands α).play moves).2.registry.size ∧
    ∀ ref reply, ((.retire ref : RegistryCall α κ), reply) ∈ (empty : Hands α).exchanges moves →
      ∃ h, reply.result = .reference (.released h) ∧ h = ref.handle ∧
        (((empty : Hands α).play moves).2.registry.resolve (.released h)).result = none ∧
        (((empty : Hands α).play moves).2.registry.encodeChecked
          (.externref (.released h))).result = .error (.releasedReference h) ∧
        (Value.externref (.released h)).encode.result = .error (.releasedReference h) := by
  obtain ⟨hslots, hnames⟩ := names_play hmoves hsize
  generalize ((empty : Hands α).play moves).2 = s at hslots hnames ⊢
  refine ⟨hnames.nodup, fun x hx h href => ?_, ?_, fun ref reply hmem => ?_⟩
  · obtain ⟨a, hobject, hget⟩ := hnames.found x hx h href
    have hcontains : s.registry.contains h = true := by
      rw [Registry.contains_eq, hget]
      rfl
    have hnull : h.isNull = false :=
      (SlotTable.slot_lt_of_slot? (SlotTable.get?_eq_some_iff.1 hget)).1
    rw [href]
    have hresolve : (s.registry.resolve (.live h)).result = some a :=
      Registry.result_resolve_eq_some_iff.2 ⟨rfl, hget⟩
    refine ⟨hnull, hcontains, ⟨a, hobject, hresolve⟩, .ofHandle h, ?_, Cell.handle_ofHandle h⟩
    exact Registry.result_encodeChecked_of_admits (v := .externref (.live h)) hcontains
  · refine hslots.length_le_size hnames.nodup ?_
    intro h hmem
    obtain ⟨x, hx, hlive⟩ := List.mem_filterMap.1 hmem
    obtain ⟨a, -, hget⟩ := hnames.found x hx h (ExternRef.live?_eq_some_iff.1 hlive)
    rw [hget]
    rfl
  · exact ⟨ref.handle, result_of_mem_exchanges_retire hmem, rfl, rfl, rfl, rfl⟩

/-- One of two references is given up and its handle recycled for a third. -/
def recycled : List (Move HostObject ObjectKind) :=
  [.issue (.byte 5), .issue (.byte 7), .retire 1, .issue .unit]

/-- The third reference has the handle of the first one. It finds its own object, and the released
form of the first one finds nothing. -/
theorem held_references_after_recycling :
    (∀ move ∈ recycled, move.MoveOnly) ∧
      ((empty : Hands HostObject).play recycled).2.registry.slots.entries.size < 2 ^ 63 ∧
      ⟨.live ⟨1⟩, some .unit⟩ ∈ ((empty : Hands HostObject).play recycled).2.held ∧
      ⟨.released ⟨1⟩, some (.byte 5)⟩ ∈ ((empty : Hands HostObject).play recycled).2.held ∧
      (((empty : Hands HostObject).play recycled).2.registry.resolve (.live ⟨1⟩)).result =
        some .unit ∧
      (((empty : Hands HostObject).play recycled).2.registry.encodeChecked
        (.externref (.released ⟨1⟩))).result = .error (.releasedReference ⟨1⟩) := by
  have hmoves : ∀ move ∈ recycled, move.MoveOnly := by
    simp [recycled, Move.MoveOnly, Move.ByReference]
  have hsize : ((empty : Hands HostObject).play recycled).2.registry.slots.entries.size <
      2 ^ 63 := by
    decide
  have hheld : (⟨.live ⟨1⟩, some .unit⟩ : Held HostObject) ∈
      ((empty : Hands HostObject).play recycled).2.held := by
    decide
  obtain ⟨-, hlive, -, hreleased⟩ := held_references_name_their_objects recycled hmoves hsize
  obtain ⟨-, -, ⟨a, hobject, hfound⟩, -⟩ := hlive _ hheld ⟨1⟩ rfl
  cases hobject
  obtain ⟨h, -, rfl, -, hrefused, -⟩ := hreleased (.live ⟨1⟩)
    ⟨.reference (.released ⟨1⟩), [.released ⟨1⟩]⟩ (by decide)
  exact ⟨hmoves, hsize, hheld, by decide, hfound, hrefused⟩

end Hands

end HostBoundary
