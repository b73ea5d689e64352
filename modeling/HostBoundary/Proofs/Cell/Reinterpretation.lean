import HostBoundary.Cell.Lanes
import HostBoundary.Foreign.Value
import HostBoundary.ValueType

/-!
# One lane written and another one read

A cell does not know which of its lanes was written, so any lane can be read of any cell.
`lanes_share_one_number` says what is read, for every lane and every cell: the number that the cell
spells, cut to the width of the lane. A cell that was made for a lane spells the bits of what was
written, as an unsigned number. So whatever lane is written and whatever lane is read, the bits come
back with zeros before them and cut to the lane that is read: no sign is carried over, nothing is
left of what stood in the cell before, and no half changes its place. Foreign code writes and reads
the same bits.
-/

namespace HostBoundary

open Ieee

/-! ## What lanes hold -/

namespace ValueType

/-- What the lane of a type holds, in the form that the host gives to it. -/
def Content : ValueType → Type
  | .i32 => Int32
  | .i64 => Int64
  | .f32 => Datum binary32
  | .f64 => Datum binary64
  | .v128 => Vector128
  | .funcref => FuncRef
  | .externref => Handle

/-- The bits of what a lane holds, as an unsigned number. -/
def bits : (t : ValueType) → t.Content → Nat
  | .i32, n => n.toUInt32.toNat
  | .i64, n => n.toUInt64.toNat
  | .f32, x => x.toNat
  | .f64, x => x.toNat
  | .v128, v => v.high.toNat * 2 ^ 64 + v.low.toNat
  | .funcref, r => r.index.toNat
  | .externref, h => h.number.toNat

end ValueType

namespace Cell

/-- The cell that is made for a lane. -/
def write : (t : ValueType) → t.Content → Cell
  | .i32, n => ofInt32 n
  | .i64, n => ofInt64 n
  | .f32, x => ofFloat32 x
  | .f64, x => ofFloat64 x
  | .v128, v => ofVector v
  | .funcref, r => ofFuncRef r
  | .externref, h => ofHandle h

/-- What a lane of a cell holds. -/
def read (c : Cell) : (t : ValueType) → t.Content
  | .i32 => c.int32
  | .i64 => c.int64
  | .f32 => c.float32
  | .f64 => c.float64
  | .v128 => c.vector
  | .funcref => c.funcRef
  | .externref => c.handle

/-! ## The lanes of a cell -/

/-- A cell spells a number of 128 bits. -/
theorem toNat_lt (c : Cell) : c.toNat < 2 ^ 128 :=
  c.block.toNat_lt

/-- The high half of the vector lane is the number of the cell divided by `2 ^ 64`. -/
theorem toNat_high_vector (c : Cell) : c.vector.high.toNat = c.toNat / 2 ^ 64 :=
  c.vector.toNat_high

/-- The low half of the vector lane is the number of the cell modulo `2 ^ 64`. -/
theorem toNat_low_vector (c : Cell) : c.vector.low.toNat = c.toNat % 2 ^ 64 :=
  c.vector.toNat_low

/-- The 32-bit integer lane is the number of the cell in two's complement. -/
theorem toInt_int32 (c : Cell) : c.int32.toInt = Int.bmod c.toNat (2 ^ 32) := by
  have hpattern : c.int32.toInt = Int.bmod c.int32.toUInt32.toNat (2 ^ 32) :=
    BitVec.toInt_eq_toNat_bmod _
  rw [hpattern, toNat_int32, Int.natCast_emod]
  exact Int.emod_bmod _ _

/-- The 64-bit integer lane is the number of the cell in two's complement. -/
theorem toInt_int64 (c : Cell) : c.int64.toInt = Int.bmod c.toNat (2 ^ 64) := by
  have hpattern : c.int64.toInt = Int.bmod c.int64.toUInt64.toNat (2 ^ 64) :=
    BitVec.toInt_eq_toNat_bmod _
  rw [hpattern, toNat_int64, Int.natCast_emod]
  exact Int.emod_bmod _ _

/-- A lane holds the number of the cell, cut to its width. -/
theorem bits_read (c : Cell) (t : ValueType) :
    t.bits (c.read t) = c.toNat % 2 ^ (8 * t.laneWidth) := by
  cases t with
  | i32 => exact c.toNat_int32
  | i64 => exact c.toNat_int64
  | f32 => exact c.toNat_float32
  | f64 => exact c.toNat_float64
  | v128 =>
      show c.vector.high.toNat * 2 ^ 64 + c.vector.low.toNat = c.toNat % 2 ^ 128
      have hlt := c.toNat_lt
      rw [toNat_high_vector, toNat_low_vector]
      omega
  | funcref => exact c.toNat_funcRef
  | externref => exact c.toNat_handle

/-- A cell that is made for a lane spells the bits of what the lane holds. -/
theorem toNat_write (t : ValueType) (x : t.Content) : (write t x).toNat = t.bits x := by
  cases t with
  | i32 => exact toNat_ofInt32 x
  | i64 => exact toNat_ofInt64 x
  | f32 => exact toNat_ofFloat32 x
  | f64 => exact toNat_ofFloat64 x
  | v128 =>
      show (ofVector x).toNat = (ofVector x).vector.high.toNat * 2 ^ 64 +
        (ofVector x).vector.low.toNat
      rw [toNat_high_vector, toNat_low_vector]
      omega
  | funcref => exact toNat_ofFuncRef x
  | externref => exact toNat_ofHandle x

end Cell

/-! ## Cells in foreign hands -/

namespace ForeignValue

/-- The type of what foreign code puts into a cell. -/
def type : ForeignValue → ValueType
  | .i32 _ => .i32
  | .i64 _ => .i64
  | .f32 _ => .f32
  | .f64 _ => .f64
  | .v128 _ _ => .v128
  | .funcref _ => .funcref
  | .externref _ => .externref

/-- The bits of what foreign code puts into a cell, as an unsigned number. -/
def bits : ForeignValue → Nat
  | .i32 n => n.toUInt32.toNat
  | .i64 n => n.toUInt64.toNat
  | .f32 x => x.toNat
  | .f64 x => x.toNat
  | .v128 high low => high.toNat * 2 ^ 64 + low.toNat
  | .funcref index => index.toNat
  | .externref number => number.toNat

/-- A cell that foreign code makes spells the bits that were put into it. -/
theorem toNat_toCell (x : ForeignValue) : x.toCell.toNat = x.bits := by
  cases x with
  | i32 n => exact Cell.toNat_write .i32 n
  | i64 n => exact Cell.toNat_write .i64 n
  | f32 x => exact Cell.toNat_write .f32 x
  | f64 x => exact Cell.toNat_write .f64 x
  | v128 high low => exact Vector128.toNat_block_ofHalves high low
  | funcref index => exact Cell.toNat_write .funcref ⟨index⟩
  | externref number => exact Cell.toNat_write .externref ⟨number⟩

/-- Foreign code finds the bits in a lane that the host finds in it. -/
theorem bits_ofCell (c : Cell) (t : ValueType) :
    (ofCell c t).type = t ∧ (ofCell c t).bits = c.toNat % 2 ^ (8 * t.laneWidth) := by
  rw [← c.bits_read t]
  cases t <;> exact ⟨rfl, rfl⟩

end ForeignValue

namespace Cell

/-- Every lane of a cell holds the one number that the cell spells, cut to the width of the lane:
integers hold it in two's complement, and the halves of a vector are its quotient and its remainder.
A cell made for a lane, by the host or by foreign code, spells the bits of what was written as an
unsigned number. So whatever was written and whatever lane is read, by either of them, what is found
is the bits written, cut to the lane that is read. A cell is its sixteen bytes, any sixteen bytes
are a cell, and cells are equal exactly when they spell one number. -/
theorem lanes_share_one_number :
    ((∀ (c : Cell) (t : ValueType), t.bits (c.read t) = c.toNat % 2 ^ (8 * t.laneWidth)) ∧
      ∀ c : Cell, c.int32.toInt = Int.bmod c.toNat (2 ^ 32) ∧
        c.int64.toInt = Int.bmod c.toNat (2 ^ 64) ∧
        c.vector.high.toNat = c.toNat / 2 ^ 64 ∧ c.vector.low.toNat = c.toNat % 2 ^ 64) ∧
    ((∀ (t : ValueType) (x : t.Content), (write t x).toNat = t.bits x) ∧
      ∀ x : ForeignValue, x.toCell.toNat = x.bits) ∧
    ((∀ (t t' : ValueType) (x : t.Content),
        t'.bits ((write t x).read t') = t.bits x % 2 ^ (8 * t'.laneWidth)) ∧
      ∀ (x : ForeignValue) (t' : ValueType), (ForeignValue.ofCell x.toCell t').type = t' ∧
        (ForeignValue.ofCell x.toCell t').bits = x.bits % 2 ^ (8 * t'.laneWidth)) ∧
    (∀ c : Cell, (Block.ofList? c.block.bytes).map mk = some c) ∧
    (∀ bytes : List UInt8, bytes.length = 16 →
      ∃ c : Cell, (Block.ofList? bytes).map mk = some c ∧ c.block.bytes = bytes) ∧
    ∀ a b : Cell, a = b ↔ a.toNat = b.toNat := by
  refine ⟨⟨bits_read, fun c => ⟨c.toInt_int32, c.toInt_int64, c.toNat_high_vector,
    c.toNat_low_vector⟩⟩, ⟨toNat_write, ForeignValue.toNat_toCell⟩, ⟨fun t t' x => ?_,
    fun x t' => ?_⟩, fun c => ?_, fun bytes hlength => ?_, fun a b => toNat_inj.symm⟩
  · rw [bits_read, toNat_write]
  · rw [← x.toNat_toCell]
    exact ForeignValue.bits_ofCell x.toCell t'
  · rw [Block.ofList?, dif_pos c.block.length_bytes]
    rfl
  · exact ⟨⟨⟨bytes, hlength⟩⟩, by rw [Block.ofList?, dif_pos hlength]; rfl, rfl⟩

/-- The integer minus one is written into the narrow lane and read from the wide one, which finds no
sign. Sixteen bytes are a cell. -/
theorem minus_one_read_from_wide_lane :
    ValueType.i64.bits ((write .i32 (-1 : Int32)).read .i64) = 0xFFFFFFFF ∧
      ∃ c : Cell, (Block.ofList? (List.replicate 16 0xFF)).map mk = some c ∧
        c.block.bytes = List.replicate 16 0xFF := by
  obtain ⟨-, -, ⟨hpairs, -⟩, -, hbytes, -⟩ := lanes_share_one_number
  exact ⟨(hpairs .i32 .i64 (-1 : Int32)).trans rfl, hbytes _ (by decide)⟩

end Cell

end HostBoundary
