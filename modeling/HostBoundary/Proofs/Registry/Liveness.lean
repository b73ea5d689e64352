import HostBoundary.HostObject
import HostBoundary.Proofs.Registry.Routes
import HostBoundary.Proofs.SlotTable.Entries
import HostBoundary.Proofs.Transfer.Steps

/-!
# Ways to ask whether a handle is live

A registry can be asked about a handle in many ways: outright, by looking the handle up, by
resolving a live reference, by releasing, by decoding a cell that holds the handle, by encoding a
live reference, and by foreign code. `liveness_observers_agree` says that all of them give one
verdict. It is the verdict of `Registry.contains`, with which every other one is compared below; it
is no for the null handle and for every handle that has not been given out yet; and the handles for
which it is yes are as many as the registry has objects.
-/

namespace HostBoundary

universe u v

/-- The handle lane reads the handle whose number the first eight bytes spell, whatever stands
behind them. -/
theorem Cell.handle_eq_of_take {c : Cell} {h : Handle}
    (hbytes : c.block.bytes.take 8 = LittleEndian.ofNat 8 h.number.toNat) : c.handle = h := by
  have hlength : 8 ≤ c.block.bytes.length := by
    rw [c.block.length_bytes]
    decide
  have hlt : h.number.toNat < 256 ^ 8 := h.number.toNat_lt
  rw [← Handle.toNat_inj, Cell.toNat_handle]
  calc c.toNat % 2 ^ 64
      = LittleEndian.toNat (c.block.bytes.take 8) := (LittleEndian.toNat_take hlength).symm
    _ = h.number.toNat % 256 ^ 8 := by rw [hbytes, LittleEndian.toNat_ofNat]
    _ = h.number.toNat := Nat.mod_eq_of_lt hlt

namespace Registry

variable {α : Type u} {κ : Type v} {r : Registry α} {h : Handle}

/-! ## Each way against the outright question -/

/-- A look-up finds an object exactly when the handle is registered. -/
theorem isSome_result_lookup : (r.lookup h).result.isSome = r.contains h := by
  rw [result_lookup]
  rfl

/-- A release hands an object back exactly when the handle is registered. -/
theorem isSome_result_release : (r.release h).1.result.isSome = r.contains h := by
  rw [result_release]
  rfl

/-- A cell is read as a live reference exactly when the handle in it is registered. -/
theorem decode_eq_live_iff {c : Cell} :
    r.decode c .externref = .externref (.live c.handle) ↔ r.contains c.handle = true := by
  show Value.externref (r.refOf c.handle) = _ ↔ _
  cases hcontains : r.contains c.handle with
  | true => simp [refOf_of_contains hcontains]
  | false => simp [refOf_of_not_contains hcontains]

/-- A live reference is encoded exactly when its handle is registered. -/
theorem exists_result_encodeChecked_live_iff :
    (∃ c, (r.encodeChecked (.externref (.live h))).result = .ok c) ↔ r.contains h = true := by
  simp only [result_encodeChecked_eq_ok_iff, admits]
  simp

/-- Foreign code that asks about a cell under the code of extern references is told whether the
handle in it is registered. -/
theorem result_answerForeign_isLive (r : Registry α) (c : Cell) (out : Bool) :
    (r.answerForeign (.isLive c 0x6F (some out))).1.result =
      .liveness .ok (some (r.contains c.handle)) := by
  show Reply.liveness .ok (some (r.refOf c.handle).isLive) = _
  rw [isLive_refOf]

/-! ## Where the verdict is no, and how often it is yes -/

/-- The null handle is not registered. -/
theorem contains_null (r : Registry α) : r.contains .null = false := by
  rw [contains_eq, SlotTable.get?, SlotTable.slot?_null]
  rfl

/-- A handle that has not been given out yet is not registered. -/
theorem contains_of_nextFresh_le (hsize : r.slots.entries.size < 2 ^ 63)
    (hle : r.nextFresh.number.toNat ≤ h.number.toNat) : r.contains h = false := by
  rw [contains_eq_false_iff, Option.eq_none_iff_forall_ne_some]
  intro a ha
  obtain ⟨-, hwithin, -⟩ := SlotTable.slot?_eq_some_iff.1 (SlotTable.get?_eq_some_iff.1 ha)
  rw [nextFresh, SlotTable.nextFresh, Handle.toNat_ofSlot hsize] at hle
  omega

/-- The registered handles are as many as the objects. -/
theorem exists_finset_contains (hr : r.slots.WellFormed) (hsize : r.slots.entries.size < 2 ^ 63) :
    ∃ live : Finset Handle, (∀ h, h ∈ live ↔ r.contains h = true) ∧ live.card = r.size := by
  refine ⟨⟨(r.slots.toList.map Prod.fst : List Handle), SlotTable.nodup_map_fst_toList hsize⟩,
    fun h => ?_, ?_⟩
  · exact SlotTable.mem_map_fst_toList_iff hsize
  · show (r.slots.toList.map Prod.fst).length = r.slots.size
    rw [List.length_map, hr.length_toList]

variable [HasKind α κ] [DecidableEq κ]

/-- After any calls on the empty registry, by whatever routes, all ways to ask about a handle agree:
the handle is registered, looking it up finds an object, resolving a live reference to it does,
releasing it would hand one back, every cell whose first eight bytes spell it is read as a live
reference to it, a live reference to it is encoded, and foreign code that asks about the handle or
about such a cell is told yes. The verdict is no for the null handle and for all handles from the
next fresh one on, and it is yes for as many handles as there are objects, which is also what
foreign code is told when it asks for their number. -/
theorem liveness_observers_agree {calls : List (AccessCall α κ)}
    (hrun : (empty.runAccess calls).2 = r) (hsize : r.slots.entries.size < 2 ^ 63) :
    (∀ (h : Handle) (c : Cell) (out : Bool),
      c.block.bytes.take 8 = LittleEndian.ofNat 8 h.number.toNat →
      [r.contains h = true,
        (r.lookup h).result.isSome = true,
        (r.resolve (.live h)).result.isSome = true,
        (r.release h).1.result.isSome = true,
        r.decode c .externref = .externref (.live h),
        ∃ cell, (r.encodeChecked (.externref (.live h))).result = .ok cell,
        (r.answerForeign (.contains h)).1.result = .flag true,
        (r.answerForeign (.isLive c 0x6F (some out))).1.result =
          .liveness .ok (some true)].TFAE) ∧
    (∀ h : Handle, h = .null ∨ r.nextFresh.number.toNat ≤ h.number.toNat →
      r.contains h = false) ∧
    ∃ live : Finset Handle, (∀ h, h ∈ live ↔ r.contains h = true) ∧ live.card = r.size ∧
      (r.answerForeign .size).1.result = .count live.card := by
  refine ⟨fun h c out hbytes => ?_, fun h hno => ?_, ?_⟩
  · obtain rfl := Cell.handle_eq_of_take hbytes
    refine List.tfae_of_forall (r.contains c.handle = true) _ ?_
    simp only [List.forall_mem_cons]
    refine ⟨trivial, ?_, ?_, ?_, decode_eq_live_iff, exists_result_encodeChecked_live_iff, ?_, ?_,
      by simp⟩
    · rw [isSome_result_lookup]
    · exact iff_of_eq (congrArg (· = true) isSome_result_lookup)
    · rw [isSome_result_release]
    · show Reply.flag (r.contains c.handle) = .flag true ↔ _
      rw [Reply.flag.injEq]
    · rw [result_answerForeign_isLive, Reply.liveness.injEq, Option.some.injEq]
      exact and_iff_right rfl
  · rcases hno with rfl | hle
    · exact contains_null r
    · exact contains_of_nextFresh_le hsize hle
  · have hwell : r.slots.WellFormed := by
      subst hrun
      exact wellFormed_runAccess SlotTable.wellFormed_empty hsize
    obtain ⟨live, hmem, hcard⟩ := exists_finset_contains hwell hsize
    refine ⟨live, hmem, hcard, ?_⟩
    rw [hcard]
    rfl

/-- Two objects are registered, and foreign code releases the first one. -/
def halfReleased : List (AccessCall HostObject ObjectKind) :=
  [.host (.register .unit), .bridge (.issue (.byte 5)), .foreign (.release ⟨1⟩)]

/-- A cell that holds the second handle, with other bytes behind it, is read as a live reference,
and foreign code is told so. The first handle and the third one are not registered, and one handle
is. -/
theorem liveness_observers_agree_on_padded_cell :
    (empty.runAccess halfReleased).2.slots.entries.size < 2 ^ 63 ∧
      (Block.ofNat (7 * 2 ^ 64 + 2)).bytes.take 8 = LittleEndian.ofNat 8 2 ∧
      (empty.runAccess halfReleased).2.decode ⟨Block.ofNat (7 * 2 ^ 64 + 2)⟩ .externref =
        .externref (.live ⟨2⟩) ∧
      ((empty.runAccess halfReleased).2.answerForeign
        (.isLive ⟨Block.ofNat (7 * 2 ^ 64 + 2)⟩ 0x6F (some false))).1.result =
          .liveness .ok (some true) ∧
      ((empty.runAccess halfReleased).2.release ⟨1⟩).1.result.isSome = false ∧
      (empty.runAccess halfReleased).2.contains ⟨3⟩ = false ∧
      ∃ live : Finset Handle, ⟨2⟩ ∈ live ∧ live.card = 1 := by
  have hsize : (empty.runAccess halfReleased).2.slots.entries.size < 2 ^ 63 := by decide
  have hbytes : (Block.ofNat (7 * 2 ^ 64 + 2)).bytes.take 8 = LittleEndian.ofNat 8 2 := by decide
  have hlive : (empty.runAccess halfReleased).2.contains ⟨2⟩ = true := by decide
  have hgone : (empty.runAccess halfReleased).2.contains ⟨1⟩ ≠ true := by decide
  obtain ⟨hagree, hno, live, hmem, hcard, -⟩ := liveness_observers_agree rfl hsize
  have hsecond := hagree ⟨2⟩ ⟨Block.ofNat (7 * 2 ^ 64 + 2)⟩ false hbytes
  have hfirst := hagree ⟨1⟩ ⟨Block.ofNat 1⟩ false (by decide)
  refine ⟨hsize, hbytes, (hsecond.out 0 4).1 hlive, (hsecond.out 0 7).1 hlive, ?_,
    hno ⟨3⟩ (Or.inr (by decide)), live, (hmem ⟨2⟩).2 hlive, hcard.trans (by decide)⟩
  exact Bool.eq_false_iff.2 fun hhanded => hgone ((hfirst.out 0 3).2 hhanded)

end Registry

end HostBoundary
