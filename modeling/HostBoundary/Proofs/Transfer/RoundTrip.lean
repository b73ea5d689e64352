import HostBoundary.HostObject
import HostBoundary.Proofs.Transfer.Steps
import HostBoundary.Registry.Access

/-!
# There and back

Arguments are encoded before a call of the engine and its results are decoded after it, and the
registry may change in between. `decodeAll_of_encodeAllChecked` follows a list of values through
cells into values again: every bit comes back, and only the liveness of references is that of the
later moment. `encodeChecked_decode` follows a cell through a value into a cell again: the lane of
the type comes back, zeros stand behind it, and a reference is refused on the way in exactly where
it was read as released on the way out.
-/

namespace HostBoundary.Registry

universe u v

variable {α : Type u} {κ : Type v}

/-! ## Values through cells -/

/-- A live reference to what is not registered is seen as released. -/
theorem judge_live_of_not_contains {r : Registry α} {h : Handle} (hh : r.contains h = false) :
    r.judge (.externref (.live h)) = .externref (.released h) :=
  congrArg Value.externref (refOf_of_not_contains hh)

/-- A value that one registry admits another one admits too, if what it refers to is registered
there. -/
theorem admits_of_admits {r s : Registry α} {v : Value} (hv : s.admits v = true)
    (hlive : ∀ h, v = .externref (.live h) → r.contains h = true) : r.admits v = true := by
  cases v with
  | externref ref =>
      cases ref with
      | live h => exact hlive h rfl
      | released h => cases hv
  | _ => rfl

/-- An argument list that a registry has encoded is decoded, at the types of its values, after any
calls that reach the registry in any way. The list that comes back is as long, and each value in it
is the one that was sent to the last bit, but for the live references whose handle is not registered
any more: these come back released. If there was no call at all, the list itself comes back. Types
that do not fit a list of cells one for one are refused, with both numbers and whatever the cells
hold, and nothing else is. -/
theorem decodeAll_of_encodeAllChecked [HasKind α κ] [DecidableEq κ] {sender : Registry α}
    {values : List Value} {cells : List Cell}
    (hcells : (sender.encodeAllChecked values).result = .ok cells) :
    (∀ calls : List (AccessCall α κ), ∃ returned : List Value,
      (sender.runAccess calls).2.decodeAll cells (values.map Value.type) = .ok returned ∧
      returned.length = values.length ∧
      ∀ (i : Nat) (v : Value), values[i]? = some v →
        (∀ h, v = .externref (.live h) → (sender.runAccess calls).2.contains h = false →
          returned[i]? = some (.externref (.released h))) ∧
        ((∀ h, v = .externref (.live h) → (sender.runAccess calls).2.contains h = true) →
          returned[i]? = some v)) ∧
    sender.decodeAll cells (values.map Value.type) = .ok values ∧
    ∀ (r : Registry α) (raws : List Cell) (types : List ValueType) (e : BoundaryError),
      r.decodeAll raws types = .error e ↔
        raws.length ≠ types.length ∧ e = .arityMismatch types.length raws.length := by
  obtain ⟨hadmits, rfl⟩ := result_encodeAllChecked_eq_ok_iff.1 hcells
  refine ⟨fun calls => ?_, ?_, fun r raws types e => decodeAll_eq_error_iff⟩
  · -- The registry that reads the cells matters through what it sees as live alone.
    generalize (sender.runAccess calls).2 = reader
    refine ⟨values.map reader.judge, decodeAll_map_toCell reader values, List.length_map _, ?_⟩
    intro i v hv
    have hreturned : (values.map reader.judge)[i]? = some (reader.judge v) := by
      rw [List.getElem?_map, hv]
      rfl
    rw [hreturned]
    refine ⟨?_, fun hlive => ?_⟩
    · rintro h rfl hgone
      rw [judge_live_of_not_contains hgone]
    · have hsent : sender.admits v = true := hadmits v (List.mem_of_getElem? hv)
      rw [judge_of_admits (admits_of_admits hsent hlive)]
  · have hsame : values.map sender.judge = values := by
      refine (List.map_congr_left fun v hv => ?_).trans (List.map_id values)
      exact judge_of_admits (hadmits v hv)
    rw [decodeAll_map_toCell, hsame]

/-- A number, a reference and a NaN with a payload are sent. Foreign code releases the object before
they are read again, so that the reference comes back released and the others as they were. -/
theorem decodeAll_after_foreign_release :
    ((⟨⟨#[some .unit], [], 1⟩⟩ : Registry HostObject).encodeAllChecked
        [.i32 (-3), .externref (.live ⟨1⟩), .f32 (.ofNat 0xFFA00001)]).result =
      .ok [.ofLane 4 0xFFFFFFFD, .ofLane 8 1, .ofLane 4 0xFFA00001] ∧
    ∃ returned : List Value,
      ((⟨⟨#[some .unit], [], 1⟩⟩ : Registry HostObject).runAccess
          [.foreign (.release ⟨1⟩)]).2.decodeAll
        [.ofLane 4 0xFFFFFFFD, .ofLane 8 1, .ofLane 4 0xFFA00001] [.i32, .externref, .f32] =
          .ok returned ∧
      returned[1]? = some (.externref (.released ⟨1⟩)) ∧
      returned[2]? = some (.f32 (.ofNat 0xFFA00001)) := by
  have hcells : ((⟨⟨#[some .unit], [], 1⟩⟩ : Registry HostObject).encodeAllChecked
      [.i32 (-3), .externref (.live ⟨1⟩), .f32 (.ofNat 0xFFA00001)]).result =
        .ok [.ofLane 4 0xFFFFFFFD, .ofLane 8 1, .ofLane 4 0xFFA00001] := by
    decide
  obtain ⟨returned, hdecoded, -, hvalues⟩ :=
    (decodeAll_of_encodeAllChecked hcells).1 [.foreign (.release ⟨1⟩)]
  refine ⟨hcells, returned, hdecoded, ?_, ?_⟩
  · exact (hvalues 1 _ rfl).1 ⟨1⟩ rfl (by decide)
  · exact (hvalues 2 _ rfl).2 (by simp)

/-! ## Cells through values -/

/-- Lists of cells are read as one list of values exactly when they agree, cell by cell, in the lane
of the type. -/
theorem zipWith_decode_eq_iff {r : Registry α} {cells others : List Cell} {types : List ValueType}
    (hcells : cells.length = types.length) (hothers : others.length = types.length) :
    cells.zipWith r.decode types = others.zipWith r.decode types ↔
      cells.zipWith (fun c t => c.block.bytes.take t.laneWidth) types =
        others.zipWith (fun c t => c.block.bytes.take t.laneWidth) types := by
  induction types generalizing cells others with
  | nil => simp
  | cons t types ih =>
      obtain ⟨a, cells, rfl⟩ := List.exists_cons_of_length_eq_add_one hcells
      obtain ⟨b, others, rfl⟩ := List.exists_cons_of_length_eq_add_one hothers
      have hrest := ih (by simpa using hcells) (by simpa using hothers)
      rw [List.zipWith_cons_cons, List.zipWith_cons_cons, List.zipWith_cons_cons,
        List.zipWith_cons_cons, List.cons.injEq, List.cons.injEq, decode_eq_decode_iff, hrest]

/-- Reading cells that were cut to their lanes reads what the cells hold. -/
theorem zipWith_decode_truncate (r : Registry α) (cells : List Cell) (types : List ValueType) :
    (cells.zipWith (fun c t => c.truncate t.laneWidth) types).zipWith r.decode types =
      cells.zipWith r.decode types := by
  induction types generalizing cells with
  | nil => simp
  | cons t types ih =>
      cases cells with
      | nil => simp
      | cons c cells =>
          rw [List.zipWith_cons_cons, List.zipWith_cons_cons, List.zipWith_cons_cons,
            decode_truncate, ih]

/-- A registry admits what it has read unless it has read it as released. -/
theorem admits_of_mem_zipWith_decode {r : Registry α} {cells : List Cell} {types : List ValueType}
    {v : Value} (hmem : v ∈ cells.zipWith r.decode types)
    (halive : ∀ h, v ≠ .externref (.released h)) : r.admits v = true := by
  obtain ⟨i, hi⟩ := List.mem_iff_getElem?.1 hmem
  obtain ⟨c, t, -, -, rfl⟩ := List.getElem?_zipWith_eq_some.1 hi
  rw [admits_decode_iff]
  rintro rfl
  cases hh : r.contains c.handle with
  | true => rfl
  | false => exact absurd (congrArg Value.externref (refOf_of_not_contains hh)) (halive c.handle)

/-- A registry reads any cell as any type, and what it has read it encodes again into that cell with
all bytes behind the lane of the type set to zero. Only a handle that is not registered is read as a
released reference, and that is refused by its handle. The cell that comes back is read as the first
one was, and two cells are read as one value exactly when they agree in the lane of the type. The
same holds cell by cell of lists with one type for each cell, if none of them is read as a released
reference. -/
theorem encodeChecked_decode (r : Registry α) :
    (∀ (c : Cell) (t : ValueType), (t = .externref → r.contains c.handle = true) →
      (r.encodeChecked (r.decode c t)).result = .ok (c.truncate t.laneWidth)) ∧
    (∀ c : Cell, r.contains c.handle = false →
      r.decode c .externref = .externref (.released c.handle) ∧
      (r.encodeChecked (r.decode c .externref)).result = .error (.releasedReference c.handle)) ∧
    (∀ (c : Cell) (t : ValueType), r.decode (c.truncate t.laneWidth) t = r.decode c t) ∧
    (∀ (a b : Cell) (t : ValueType), r.decode a t = r.decode b t ↔
      a.block.bytes.take t.laneWidth = b.block.bytes.take t.laneWidth) ∧
    ∀ (cells : List Cell) (types : List ValueType), cells.length = types.length →
      ∃ values : List Value, r.decodeAll cells types = .ok values ∧
        ((∀ v ∈ values, ∀ h, v ≠ .externref (.released h)) →
          (r.encodeAllChecked values).result =
            .ok (cells.zipWith (fun c t => c.truncate t.laneWidth) types)) ∧
        r.decodeAll (cells.zipWith (fun c t => c.truncate t.laneWidth) types) types = .ok values ∧
        ∀ others : List Cell, others.length = types.length →
          (r.decodeAll others types = .ok values ↔
            others.zipWith (fun c t => c.block.bytes.take t.laneWidth) types =
              cells.zipWith (fun c t => c.block.bytes.take t.laneWidth) types) := by
  refine ⟨fun c t hlive => ?_, fun c hdead => ?_, r.decode_truncate, fun a b t =>
    decode_eq_decode_iff, fun cells types hlength => ?_⟩
  · rw [result_encodeChecked_of_admits (admits_decode_iff.2 hlive), toCell_decode]
  · have hread : r.decode c .externref = .externref (.released c.handle) :=
      congrArg Value.externref (refOf_of_not_contains hdead)
    refine ⟨hread, ?_⟩
    rw [hread]
    exact result_encodeChecked_externref rfl
  · refine ⟨cells.zipWith r.decode types, decodeAll_of_length_eq r hlength, fun halive => ?_, ?_,
      fun others hothers => ?_⟩
    · rw [result_encodeAllChecked_eq_ok_iff]
      exact ⟨fun v hv => admits_of_mem_zipWith_decode hv (halive v hv),
        map_toCell_zipWith_decode r cells types⟩
    · rw [decodeAll_of_length_eq r (by simp [hlength]), zipWith_decode_truncate]
    · rw [decodeAll_of_length_eq r hothers, Except.ok.injEq]
      exact zipWith_decode_eq_iff hothers hlength

/-- A registry in which the first handle is registered. -/
def firstRegistered : Registry HostObject :=
  ⟨⟨#[some .unit], [], 1⟩⟩

/-- A cell of ones. -/
def ones : Cell :=
  ⟨Block.ofNat (2 ^ 128 - 1)⟩

/-- A cell that holds the first handle and ones behind it. -/
def firstThenOnes : Cell :=
  ⟨Block.ofNat (2 ^ 128 - 2 ^ 64 + 1)⟩

/-- A cell of ones is read as a number and encoded again, which leaves its first four bytes. Read as
a reference it names no object and is refused. The cell of the registered handle is read as a live
reference whatever stands behind the handle, and that is gone when the reference is encoded again.
Both cells may stand in one list. -/
theorem encodeChecked_decode_of_padded_cells :
    (firstRegistered.encodeChecked (firstRegistered.decode ones .i32)).result =
      .ok (.ofLane 4 0xFFFFFFFF) ∧
    (firstRegistered.contains ones.handle = false ∧
      (firstRegistered.encodeChecked (firstRegistered.decode ones .externref)).result =
        .error (.releasedReference ⟨0xFFFFFFFFFFFFFFFF⟩)) ∧
    (firstRegistered.contains firstThenOnes.handle = true ∧ firstThenOnes ≠ .ofLane 8 1 ∧
      (firstRegistered.encodeChecked (firstRegistered.decode firstThenOnes .externref)).result =
        .ok (.ofLane 8 1)) ∧
    ∃ values : List Value,
      firstRegistered.decodeAll [firstThenOnes, ones] [.externref, .i32] = .ok values ∧
      (∀ v ∈ values, ∀ h, v ≠ .externref (.released h)) ∧
      (firstRegistered.encodeAllChecked values).result = .ok [.ofLane 8 1, .ofLane 4 0xFFFFFFFF] ∧
      firstRegistered.decodeAll [firstThenOnes, .ofLane 4 0xFFFFFFFF] [.externref, .i32] =
        .ok values := by
  have hnumber : ones.truncate 4 = .ofLane 4 0xFFFFFFFF := by decide
  have hfirst : firstThenOnes.truncate 8 = .ofLane 8 1 := by decide
  have hunknown : ones.handle = ⟨0xFFFFFFFFFFFFFFFF⟩ := by decide
  have hdead : firstRegistered.contains ones.handle = false := by decide
  have hlive : firstRegistered.contains firstThenOnes.handle = true := by decide
  have hread : firstRegistered.decodeAll [firstThenOnes, ones] [.externref, .i32] =
      .ok [.externref (.live ⟨1⟩), .i32 (-1)] := by
    decide
  obtain ⟨hlane, hrefused, -, -, hlists⟩ := encodeChecked_decode firstRegistered
  obtain ⟨values, hvalues, hencoded, -, hothers⟩ :=
    hlists [firstThenOnes, ones] [.externref, .i32] rfl
  obtain rfl : [.externref (.live ⟨1⟩), .i32 (-1)] = values :=
    Except.ok.inj (hread.symm.trans hvalues)
  have halive : ∀ v ∈ [Value.externref (.live ⟨1⟩), .i32 (-1)], ∀ h,
      v ≠ .externref (.released h) := by
    simp
  refine ⟨?_, ⟨hdead, ?_⟩, ⟨hlive, by decide, ?_⟩, _, hvalues, halive, ?_, ?_⟩
  · rw [← hnumber]
    exact hlane ones .i32 nofun
  · rw [← hunknown]
    exact (hrefused ones hdead).2
  · rw [← hfirst]
    exact hlane firstThenOnes .externref fun _ => hlive
  · rw [← hfirst, ← hnumber]
    exact hencoded halive
  · exact (hothers [firstThenOnes, .ofLane 4 0xFFFFFFFF] rfl).2 (by decide)

end HostBoundary.Registry
