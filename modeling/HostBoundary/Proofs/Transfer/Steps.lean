import HostBoundary.Cell.Lanes
import HostBoundary.Transfer.Decode
import HostBoundary.Transfer.Encode

/-!
# One value and one cell

Encoding does two things to a value. It asks whether the value may cross, which is a matter of the
registry alone (`Registry.admits`), and it writes the bits of the value, which is a matter of the
value alone (`Value.toCell`). Decoding reads the bits back and judges every reference anew
(`Registry.judge`). `decode_toCell` and `toCell_decode` say that the bits survive both ways: a value
comes back as itself, and of a cell what its type does not cover is lost and nothing else. All else
about values and cells, and about lists of them, follows from these two.
-/

namespace HostBoundary

universe u

/-! ## Cells cut to a lane -/

/-- The first `w` bytes of a block, with zeros behind them. -/
def Block.truncate (b : Block) (w : Nat) : Block :=
  ⟨b.bytes.take w ++ List.replicate (16 - w) 0, by
    have := b.length_bytes
    simp only [List.length_append, List.length_take, List.length_replicate]
    omega⟩

/-- A cell in which all bytes from index `w` on are set to zero. -/
def Cell.truncate (c : Cell) (w : Nat) : Cell :=
  ⟨c.block.truncate w⟩

/-- The cell in which a value stands: its bits in the lane of its type, and zeros behind them. The
bits of an extern reference are its handle, whether the reference is live or released. -/
def Value.toCell : Value → Cell
  | .i32 n => .ofInt32 n
  | .i64 n => .ofInt64 n
  | .f32 x => .ofFloat32 x
  | .f64 x => .ofFloat64 x
  | .v128 v => .ofVector v
  | .funcref r => .ofFuncRef r
  | .externref r => .ofHandle r.handle

namespace Cell

open Ieee

/-- Cutting a cell keeps its number modulo the width. -/
theorem toNat_truncate (c : Cell) {w : Nat} (h : w ≤ 16) :
    (c.truncate w).toNat = c.toNat % 256 ^ w := by
  have hlength : w ≤ c.block.bytes.length := by
    rw [c.block.length_bytes]
    exact h
  show LittleEndian.toNat (c.block.bytes.take w ++ List.replicate (16 - w) 0) = _
  rw [LittleEndian.toNat_append, LittleEndian.toNat_replicate_zero, Nat.mul_zero, Nat.add_zero]
  exact LittleEndian.toNat_take hlength

/-- Two cells are cut to one cell exactly when their first bytes agree. -/
theorem truncate_eq_truncate_iff {a b : Cell} {w : Nat} :
    a.truncate w = b.truncate w ↔ a.block.bytes.take w = b.block.bytes.take w := by
  rw [Cell.ext_iff, Block.ext_iff]
  exact List.append_left_inj _

/-! ## Writing a lane and reading it -/

/-- The integer that was written is read. -/
@[simp]
theorem int32_ofInt32 (n : Int32) : (ofInt32 n).int32 = n := by
  have hpattern : (ofInt32 n).int32.toUInt32 = n.toUInt32 := by
    rw [← UInt32.toNat_inj, toNat_int32, toNat_ofInt32]
    exact Nat.mod_eq_of_lt n.toUInt32.toNat_lt
  calc (ofInt32 n).int32
      = (ofInt32 n).int32.toUInt32.toInt32 := (Int32.toInt32_toUInt32 _).symm
    _ = n.toUInt32.toInt32 := by rw [hpattern]
    _ = n := Int32.toInt32_toUInt32 n

/-- The integer that was written is read. -/
@[simp]
theorem int64_ofInt64 (n : Int64) : (ofInt64 n).int64 = n := by
  have hpattern : (ofInt64 n).int64.toUInt64 = n.toUInt64 := by
    rw [← UInt64.toNat_inj, toNat_int64, toNat_ofInt64]
    exact Nat.mod_eq_of_lt n.toUInt64.toNat_lt
  calc (ofInt64 n).int64
      = (ofInt64 n).int64.toUInt64.toInt64 := (Int64.toInt64_toUInt64 _).symm
    _ = n.toUInt64.toInt64 := by rw [hpattern]
    _ = n := Int64.toInt64_toUInt64 n

/-- The datum that was written is read, NaN payload and sign included. -/
@[simp]
theorem float32_ofFloat32 (x : Datum binary32) : (ofFloat32 x).float32 = x := by
  rw [← Datum.toNat_inj, toNat_float32, toNat_ofFloat32]
  exact Nat.mod_eq_of_lt x.toNat_lt

/-- The datum that was written is read, NaN payload and sign included. -/
@[simp]
theorem float64_ofFloat64 (x : Datum binary64) : (ofFloat64 x).float64 = x := by
  rw [← Datum.toNat_inj, toNat_float64, toNat_ofFloat64]
  exact Nat.mod_eq_of_lt x.toNat_lt

/-- The function reference that was written is read. -/
@[simp]
theorem funcRef_ofFuncRef (r : FuncRef) : (ofFuncRef r).funcRef = r := by
  rw [FuncRef.ext_iff, ← UInt32.toNat_inj, toNat_funcRef, toNat_ofFuncRef]
  exact Nat.mod_eq_of_lt r.index.toNat_lt

/-- The handle that was written is read. -/
@[simp]
theorem handle_ofHandle (h : Handle) : (ofHandle h).handle = h := by
  rw [← Handle.toNat_inj, toNat_handle, toNat_ofHandle]
  exact Nat.mod_eq_of_lt h.number.toNat_lt

end Cell

/-! ## One value -/

namespace Registry

variable {α : Type u}

/-- Whether a registry lets a value cross: a live reference if its handle is registered, a released
one never, and any other value always. -/
def admits (r : Registry α) : Value → Bool
  | .externref (.live h) => r.contains h
  | .externref (.released _) => false
  | _ => true

/-- A value as a registry sees it: every reference is as live as its handle is, and any other value
is as it was. -/
def judge (r : Registry α) : Value → Value
  | .externref ref => .externref (r.refOf ref.handle)
  | v => v

/-- A handle that is registered is a live reference. -/
theorem refOf_of_contains {r : Registry α} {h : Handle} (hh : r.contains h = true) :
    r.refOf h = .live h :=
  if_pos hh

/-- A handle that is not registered is a released reference. -/
theorem refOf_of_not_contains {r : Registry α} {h : Handle} (hh : r.contains h = false) :
    r.refOf h = .released h := by
  unfold refOf
  rw [hh]
  rfl

/-- The reference that a handle is has that handle. -/
@[simp]
theorem handle_refOf (r : Registry α) (h : Handle) : (r.refOf h).handle = h := by
  unfold refOf
  split <;> rfl

/-- A handle is a live reference exactly when it is registered. -/
@[simp]
theorem isLive_refOf (r : Registry α) (h : Handle) : (r.refOf h).isLive = r.contains h := by
  cases hh : r.contains h with
  | true => rw [refOf_of_contains hh]; rfl
  | false => rw [refOf_of_not_contains hh]; rfl

/-- A registry admits a reference exactly when it is live and its handle has an object. -/
theorem admits_externref_iff {r : Registry α} {ref : ExternRef} :
    r.admits (.externref ref) = true ↔
      ref = .live ref.handle ∧ ∃ a, r.slots.get? ref.handle = some a := by
  cases ref with
  | live h =>
      rw [← Option.isSome_iff_exists]
      exact (and_iff_right rfl).symm
  | released h => simp [admits]

/-- What a registry admits it sees as it is. -/
theorem judge_of_admits {r : Registry α} {v : Value} (hv : r.admits v = true) : r.judge v = v := by
  cases v with
  | externref ref =>
      cases ref with
      | live h => exact congrArg Value.externref (refOf_of_contains hv)
      | released h => cases hv
  | _ => rfl

/-- A registry sees a value that is no extern reference as it is. -/
theorem judge_of_type_ne (r : Registry α) {v : Value} (hv : v.type ≠ .externref) :
    r.judge v = v := by
  cases v with
  | externref ref => exact absurd rfl hv
  | _ => rfl

/-- A value that is admitted is written into its cell. -/
theorem result_encodeChecked_of_admits {r : Registry α} {v : Value} (hv : r.admits v = true) :
    (r.encodeChecked v).result = .ok v.toCell := by
  cases v with
  | externref ref =>
      cases ref with
      | live h =>
          have hh : r.contains h = true := hv
          simp [encodeChecked, hh, Value.encode, Value.toCell, ExternRef.handle]
      | released h => cases hv
  | _ => rfl

/-- A reference that is not admitted is refused by its handle. -/
theorem result_encodeChecked_externref {r : Registry α} {ref : ExternRef}
    (href : r.admits (.externref ref) = false) :
    (r.encodeChecked (.externref ref)).result = .error (.releasedReference ref.handle) := by
  cases ref with
  | live h =>
      have hh : r.contains h = false := href
      simp [encodeChecked, hh, ExternRef.handle]
  | released h => rfl

/-- A reference is refused by its handle exactly when it is not admitted. -/
theorem result_encodeChecked_externref_eq_error_iff {r : Registry α} {ref : ExternRef} :
    (r.encodeChecked (.externref ref)).result = .error (.releasedReference ref.handle) ↔
      ¬ r.admits (.externref ref) = true := by
  refine ⟨fun hrefused hadmits => ?_, fun hnot => ?_⟩
  · rw [result_encodeChecked_of_admits hadmits] at hrefused
    cases hrefused
  · exact result_encodeChecked_externref (Bool.not_eq_true _ ▸ hnot)

/-- Only extern references are ever refused. -/
theorem externref_of_not_admits {r : Registry α} {v : Value} (hv : r.admits v = false) :
    ∃ ref, v = .externref ref := by
  cases v with
  | externref ref => exact ⟨ref, rfl⟩
  | _ => cases hv

/-- A value is written exactly when it is admitted, and then into its cell. -/
theorem result_encodeChecked_eq_ok_iff {r : Registry α} {v : Value} {c : Cell} :
    (r.encodeChecked v).result = .ok c ↔ r.admits v = true ∧ v.toCell = c := by
  cases hv : r.admits v with
  | true =>
      rw [result_encodeChecked_of_admits hv, Except.ok.injEq]
      simp
  | false =>
      obtain ⟨ref, rfl⟩ := externref_of_not_admits hv
      rw [result_encodeChecked_externref hv]
      simp

/-- A value that was written is read as the registry that reads it sees it. -/
theorem decode_toCell (r : Registry α) (v : Value) : r.decode v.toCell v.type = r.judge v := by
  cases v with
  | i32 n => exact congrArg Value.i32 (Cell.int32_ofInt32 n)
  | i64 n => exact congrArg Value.i64 (Cell.int64_ofInt64 n)
  | f32 x => exact congrArg Value.f32 (Cell.float32_ofFloat32 x)
  | f64 x => exact congrArg Value.f64 (Cell.float64_ofFloat64 x)
  | v128 v => rfl
  | funcref f => exact congrArg Value.funcref (Cell.funcRef_ofFuncRef f)
  | externref ref =>
      exact congrArg (fun h => Value.externref (r.refOf h)) (Cell.handle_ofHandle ref.handle)

/-! ## One cell -/

/-- What a cell is read as stands in the cell itself, cut to the lane of the type. -/
theorem toCell_decode (r : Registry α) (c : Cell) (t : ValueType) :
    (r.decode c t).toCell = c.truncate t.laneWidth := by
  rw [← Cell.toNat_inj, c.toNat_truncate t.laneWidth_le]
  cases t with
  | i32 => exact (Cell.toNat_ofInt32 c.int32).trans c.toNat_int32
  | i64 => exact (Cell.toNat_ofInt64 c.int64).trans c.toNat_int64
  | f32 => exact (Cell.toNat_ofFloat32 c.float32).trans c.toNat_float32
  | f64 => exact (Cell.toNat_ofFloat64 c.float64).trans c.toNat_float64
  | v128 =>
      have hlt : c.toNat < 256 ^ 16 := c.block.toNat_lt
      exact (Nat.mod_eq_of_lt hlt).symm
  | funcref => exact (Cell.toNat_ofFuncRef c.funcRef).trans c.toNat_funcRef
  | externref =>
      rw [decode, Value.toCell, handle_refOf, Cell.toNat_ofHandle]
      exact c.toNat_handle

/-- What a registry has read it sees as it has read it. -/
@[simp]
theorem judge_decode (r : Registry α) (c : Cell) (t : ValueType) :
    r.judge (r.decode c t) = r.decode c t := by
  cases t with
  | externref => rw [decode, judge, handle_refOf]
  | _ => rfl

/-- A registry admits what it has read, but for references to what is not registered. -/
theorem admits_decode_iff {r : Registry α} {c : Cell} {t : ValueType} :
    r.admits (r.decode c t) = true ↔ (t = .externref → r.contains c.handle = true) := by
  cases t with
  | externref =>
      cases hh : r.contains c.handle with
      | true => simp [decode, refOf_of_contains hh, admits, hh]
      | false => simp [decode, refOf_of_not_contains hh, admits]
  | _ => simp [decode, admits]

/-- Bytes behind the lane of a type are not read. -/
theorem decode_truncate (r : Registry α) (c : Cell) (t : ValueType) :
    r.decode (c.truncate t.laneWidth) t = r.decode c t := by
  calc r.decode (c.truncate t.laneWidth) t
      = r.decode (r.decode c t).toCell (r.decode c t).type := by rw [toCell_decode, type_decode]
    _ = r.judge (r.decode c t) := decode_toCell r _
    _ = r.decode c t := judge_decode r c t

/-- Cells are read as one value exactly when they agree in the lane of the type. -/
theorem decode_eq_decode_iff {r : Registry α} {a b : Cell} {t : ValueType} :
    r.decode a t = r.decode b t ↔
      a.block.bytes.take t.laneWidth = b.block.bytes.take t.laneWidth := by
  rw [← Cell.truncate_eq_truncate_iff]
  refine ⟨fun hvalue => ?_, fun hcut => ?_⟩
  · rw [← toCell_decode r a, ← toCell_decode r b, hvalue]
  · rw [← decode_truncate r a, ← decode_truncate r b, hcut]

end Registry

/-! ## Lists -/

/-- An encoder takes a list exactly when it takes each value of it, and then the cells are those of
the values in order. -/
theorem result_encodeEach_eq_ok_iff {encode : Value → Logged (Except BoundaryError Cell)}
    {values : List Value} {cells : List Cell} :
    (encodeEach encode values).result = .ok cells ↔
      List.Forall₂ (fun v c => (encode v).result = .ok c) values cells := by
  induction values generalizing cells with
  | nil =>
      rw [List.forall₂_nil_left_iff, encodeEach, Logged.result_quiet, Except.ok.injEq]
      exact eq_comm
  | cons v values ih =>
      rw [encodeEach, List.forall₂_cons_left_iff]
      rcases hv : encode v with ⟨e | c, events⟩
      · simp
      · rcases hrest : (encodeEach encode values).result with e | rest
        · simp [hrest, ← ih, Except.map]
        · simp [hrest, ← ih, Except.map, eq_comm]

namespace Registry

variable {α : Type u}

/-- A list is written exactly when all its values are admitted, and then into their cells. -/
theorem result_encodeAllChecked_eq_ok_iff {r : Registry α} {values : List Value}
    {cells : List Cell} :
    (r.encodeAllChecked values).result = .ok cells ↔
      (∀ v ∈ values, r.admits v = true) ∧ values.map Value.toCell = cells := by
  simp only [encodeAllChecked, result_encodeEach_eq_ok_iff, result_encodeChecked_eq_ok_iff]
  rw [List.forall₂_and_left, List.forall₂_map_left_iff.symm, List.forall₂_eq_eq_eq]

/-- Lists of one length are read cell by cell. -/
theorem decodeAll_of_length_eq (r : Registry α) {cells : List Cell} {types : List ValueType}
    (hlength : cells.length = types.length) :
    r.decodeAll cells types = .ok (cells.zipWith r.decode types) :=
  if_pos hlength

/-- Reading a list fails exactly when there is not one type for each cell, and the error tells how
many of each there are. -/
theorem decodeAll_eq_error_iff {r : Registry α} {cells : List Cell} {types : List ValueType}
    {e : BoundaryError} :
    r.decodeAll cells types = .error e ↔
      cells.length ≠ types.length ∧ e = .arityMismatch types.length cells.length := by
  unfold decodeAll
  split
  · next hlength => simp [hlength]
  · next hlength => simp [hlength, eq_comm]

/-- Values that were written are read as the registry that reads them sees them. -/
theorem decodeAll_map_toCell (r : Registry α) (values : List Value) :
    r.decodeAll (values.map Value.toCell) (values.map Value.type) = .ok (values.map r.judge) := by
  rw [decodeAll_of_length_eq r (by simp), List.zipWith_map, List.zipWith_self]
  simp only [decode_toCell]

/-- What cells are read as stands in the cells themselves, each cut to its lane. -/
theorem map_toCell_zipWith_decode (r : Registry α) (cells : List Cell) (types : List ValueType) :
    (cells.zipWith r.decode types).map Value.toCell =
      cells.zipWith (fun c t => c.truncate t.laneWidth) types := by
  rw [List.map_zipWith]
  simp only [toCell_decode]

end Registry

end HostBoundary
