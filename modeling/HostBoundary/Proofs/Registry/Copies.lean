import HostBoundary.Proofs.Registry.Hands
import HostBoundary.Proofs.Registry.LastRegistration

/-!
# Copies in hand

Reading a cell that holds a handle puts a second live reference with that handle in hand. Giving up
one of the two does not make the other a released one: it goes dead with the handle, and it comes to
life again with the next registration that the handle is recycled for, now as a reference to another
object. `NoStaleCopy` says that this never happens, and `stale_copy_finds_another_object` shows a
run in which it does.

`copy_finds_what_is_registered_again` says what does hold of a reference whose handle has been given
up. Released, it stays useless. Live, it finds what the handle was registered for since then, and it
is encoded exactly when it finds something. Those who never decode have no such reference.
-/

namespace HostBoundary

universe u v

variable {α : Type u} {κ : Type v}

namespace Hands

variable [HasKind α κ] [DecidableEq κ] {s : Hands α} {moves : List (Move α κ)} {i : Nat}
  {x : Held α} {h : Handle}

/-- What there is after moves and giving up the reference at a position in hand. -/
def givenUp (before : List (Move α κ)) (i : Nat) : Hands α :=
  (((empty : Hands α).play before).2.make (.retire i : Move α κ)).2

/-! ## What is in hand when a reference is given up -/

/-- When a live reference to the object of its handle is given up, the references that are in hand
then and were obtained while the handle had that object find nothing and are not encoded after the
moves that follow, if they are still in hand. -/
def NoStaleCopy (before : List (Move α κ)) (i : Nat) (later : List (Move α κ)) : Prop :=
  ∀ h a, ((empty : Hands α).play before).2.held[i]? = some ⟨.live h, some a⟩ →
    (((empty : Hands α).play before).2.registry.lookup h).result = some a →
    ∀ y ∈ (givenUp before i).held, y.ref.handle = h → y.object = some a →
      y ∈ ((givenUp before i).play later).2.held →
        (((givenUp before i).play later).2.registry.resolve y.ref).result = none ∧
        ∀ c, (((givenUp before i).play later).2.registry.encodeChecked
          (.externref y.ref)).result ≠ .ok c

/-- A reference to a byte is made and its cell is decoded. -/
def copied : List (Move HostObject ObjectKind) :=
  [.issue (.byte 5), .decode (.ofHandle ⟨1⟩) .externref]

/-- The reference to one byte is given up while its copy is in hand, and another byte gets the
handle. The copy finds that byte. -/
theorem stale_copy_finds_another_object :
    ¬ ∀ (before : List (Move HostObject ObjectKind)) (i : Nat)
        (later : List (Move HostObject ObjectKind)),
      (∀ move ∈ before ++ later, move.ByReference) → NoStaleCopy before i later := by
  intro hclaim
  have hmoves : ∀ move ∈ copied ++ [.issue (.byte 7)], move.ByReference := by
    simp [copied, Move.ByReference]
  have hstale := hclaim copied 1 [.issue (.byte 7)] hmoves ⟨1⟩ (.byte 5) (by decide) (by decide)
  obtain ⟨hnothing, -⟩ := hstale ⟨.live ⟨1⟩, some (.byte 5)⟩ (by decide) rfl rfl (by decide)
  exact absurd hnothing (by decide)

/-- Whoever makes no copies has no live reference with the handle left after giving one up. -/
theorem ref_ne_of_mem_held_givenUp (hmoves : ∀ move ∈ moves, move.MoveOnly)
    (hsize : ((empty : Hands α).play moves).2.registry.slots.entries.size < 2 ^ 63)
    (hx : ((empty : Hands α).play moves).2.held[i]? = some x) (href : x.ref = .live h) {y : Held α}
    (hy : y ∈ (givenUp moves i).held) : y.ref ≠ .live h := by
  intro hlive
  obtain ⟨hslots, hnames⟩ := names_play hmoves hsize
  have hmove : (.retire i : Move α κ).MoveOnly := trivial
  have hgiven := names_make hslots hsize hnames hmove
  obtain ⟨b, -, hget⟩ := hgiven.found y hy h hlive
  rw [slots_make_retire hx href, SlotTable.get?_remove_eq_some_iff] at hget
  exact hget.2 rfl

/-! ## What the handle names afterwards -/

/-- A slot that is empty before some moves holds afterwards the object of the last registration of
its handle among them, if that registration has not been undone. The induction is along the moves,
of which those that let a reference go make no call. -/
theorem get?_play_eq_some_iff (hslots : s.registry.slots.WellFormed)
    (hvacant : s.registry.slots.get? h = none) (moves : List (Move α κ))
    (hsize : (s.play moves).2.registry.slots.entries.size < 2 ^ 63) {a : α} :
    (s.play moves).2.registry.slots.get? h = some a ↔ LastRegistered (s.exchanges moves) h a := by
  induction moves using List.reverseRecOn with
  | nil => simp [LastRegistered, exchanges, play, hvacant]
  | append_singleton moves move ih =>
      have hlast : (s.play (moves ++ [move])).2 = ((s.play moves).2.make move).2 := by
        exact run_append_singleton _ _ _
      rw [hlast] at hsize ⊢
      have hbefore := entries_size_lt_of_make _ move hsize
      have hwell := wellFormed_play hslots moves hbefore
      rw [exchanges_append_singleton]
      rcases (s.play moves).2.make_cases move with ⟨call, hcall, hnext⟩ | ⟨hnone, hnext⟩
      · rw [hnext, Registry.get?_answer_eq_some_iff hwell hbefore call, ih hbefore, hcall,
          LastRegistered, LastRegistered, Option.toList_some, since_append_singleton]
      · rw [hnext, hnone, ih hbefore, Option.toList_none, List.append_nil]

/-- A live reference is given up after some moves, and other moves follow. Then a reference with the
same handle, whenever it was obtained, finds an object exactly when it is live and the object is the
one of the last registration of the handle since it was given up, not undone by a release. It is
encoded exactly when there is such an object, as the cell of the handle, and refused by its handle
otherwise. And if the moves before made no copies, no live reference with the handle was left in
hand when it was given up. -/
theorem copy_finds_what_is_registered_again (before later : List (Move α κ))
    (hx : ((empty : Hands α).play before).2.held[i]? = some x) (href : x.ref = .live h)
    (hsize : ((givenUp before i).play later).2.registry.slots.entries.size < 2 ^ 63) :
    (∀ y : ExternRef, y.handle = h →
      (∀ b, (((givenUp before i).play later).2.registry.resolve y).result = some b ↔
        y = .live h ∧ LastRegistered ((givenUp before i).exchanges later) h b) ∧
      (∀ c, (((givenUp before i).play later).2.registry.encodeChecked
          (.externref y)).result = .ok c ↔
        (y = .live h ∧ ∃ b, LastRegistered ((givenUp before i).exchanges later) h b) ∧
          .ofHandle h = c) ∧
      ((((givenUp before i).play later).2.registry.encodeChecked
          (.externref y)).result = .error (.releasedReference h) ↔
        ¬ (y = .live h ∧ ∃ b, LastRegistered ((givenUp before i).exchanges later) h b))) ∧
    ((∀ move ∈ before, move.MoveOnly) → ∀ y ∈ (givenUp before i).held, y.ref ≠ .live h) := by
  have hgiven : (givenUp before i).registry.slots.entries.size < 2 ^ 63 :=
    entries_size_lt_of_play later hsize
  have hbefore := entries_size_lt_of_make _ (.retire i : Move α κ) hgiven
  refine ⟨?_, fun hmoves y hy => ref_ne_of_mem_held_givenUp hmoves hbefore hx href hy⟩
  have hwell : (givenUp before i).registry.slots.WellFormed :=
    wellFormed_make (wellFormed_play SlotTable.wellFormed_empty before hbefore) hbefore _
  -- The later moves begin with nothing under the handle, so what is there in the end is theirs.
  have hvacant : (givenUp before i).registry.slots.get? h = none := by
    rw [givenUp, slots_make_retire hx href, SlotTable.get?_remove, if_pos rfl]
  have hnow := fun b => get?_play_eq_some_iff (a := b) hwell hvacant later hsize
  rintro y rfl
  have hadmits : ((givenUp before i).play later).2.registry.admits (.externref y) = true ↔
      y = .live y.handle ∧
        ∃ b, LastRegistered ((givenUp before i).exchanges later) y.handle b := by
    rw [Registry.admits_externref_iff]
    exact and_congr_right fun _ => exists_congr hnow
  refine ⟨fun b => ?_, fun c => ?_, ?_⟩
  · rw [Registry.result_resolve_eq_some_iff, hnow]
  · rw [Registry.result_encodeChecked_eq_ok_iff, hadmits]
    rfl
  · rw [Registry.result_encodeChecked_externref_eq_error_iff, hadmits]

/-- In the run with the copy, the other byte is the last registration of the handle, and the byte
that the copy was decoded for is not. The released form of the reference is refused. -/
theorem copy_finds_other_byte :
    ((empty : Hands HostObject).play copied).2.held[1]? =
        some ⟨.live ⟨1⟩, some (.byte 5)⟩ ∧
      ((givenUp copied 1).play [.issue (.byte 7)]).2.registry.slots.entries.size < 2 ^ 63 ∧
      LastRegistered ((givenUp copied 1).exchanges [.issue (.byte 7)]) ⟨1⟩ (.byte 7) ∧
      ¬ LastRegistered ((givenUp copied 1).exchanges [.issue (.byte 7)]) ⟨1⟩ (.byte 5) ∧
      (((givenUp copied 1).play [.issue (.byte 7)]).2.registry.encodeChecked
        (.externref (.released ⟨1⟩))).result = .error (.releasedReference ⟨1⟩) := by
  have hx : ((empty : Hands HostObject).play copied).2.held[1]? =
      some ⟨.live ⟨1⟩, some (.byte 5)⟩ := by
    decide
  have hsize :
      ((givenUp copied 1).play [.issue (.byte 7)]).2.registry.slots.entries.size < 2 ^ 63 := by
    decide
  obtain ⟨hafter, -⟩ := copy_finds_what_is_registered_again copied [.issue (.byte 7)] hx rfl hsize
  obtain ⟨hlive, -, -⟩ := hafter (.live ⟨1⟩) rfl
  obtain ⟨-, -, hreleased⟩ := hafter (.released ⟨1⟩) rfl
  refine ⟨hx, hsize, ((hlive _).1 (by decide)).2, fun hlast => ?_, hreleased.2 (by simp)⟩
  exact absurd ((hlive _).2 ⟨rfl, hlast⟩) (by decide)

end Hands

end HostBoundary
