import HostBoundary.Cell.Basic
import HostBoundary.Ieee.Lemmas
import HostBoundary.Vector128.Lemmas

/-!
# The lanes of a cell as numbers

Each way to make a cell gives the number of the unsigned bit pattern written, and each lane reads
the number of the cell modulo its width. Together they say what any lane reads after any other was
written: the pattern, truncated to the lane that is read.
-/

namespace HostBoundary.Cell

open Ieee

/-- A cell made for a lane spells the number written, and nothing stands behind the lane. -/
theorem toNat_ofLane {w : Nat} (h : w ≤ 16) (n : Nat) : (ofLane w n).toNat = n % 256 ^ w :=
  Block.toNat_overwrite_zero h n

/-- A lane reads the number of the cell modulo the width of the lane. -/
theorem lane_eq (c : Cell) {w : Nat} (h : w ≤ 16) : c.lane w = c.toNat % 256 ^ w :=
  Block.read_eq c.block h

/-! ## The number of a cell made for a lane -/

/-- The cell of a 32-bit integer spells its two's complement pattern. -/
@[simp]
theorem toNat_ofInt32 (n : Int32) : (ofInt32 n).toNat = n.toUInt32.toNat := by
  have hlt : n.toUInt32.toNat < 256 ^ 4 := n.toUInt32.toNat_lt
  rw [ofInt32, toNat_ofLane (by decide), Nat.mod_eq_of_lt hlt]

/-- The cell of a 64-bit integer spells its two's complement pattern. -/
@[simp]
theorem toNat_ofInt64 (n : Int64) : (ofInt64 n).toNat = n.toUInt64.toNat := by
  have hlt : n.toUInt64.toNat < 256 ^ 8 := n.toUInt64.toNat_lt
  rw [ofInt64, toNat_ofLane (by decide), Nat.mod_eq_of_lt hlt]

/-- The cell of a single-precision datum spells its bits. -/
@[simp]
theorem toNat_ofFloat32 (x : Datum binary32) : (ofFloat32 x).toNat = x.toNat := by
  have hlt : x.toNat < 256 ^ 4 := x.toNat_lt
  rw [ofFloat32, toNat_ofLane (by decide), Nat.mod_eq_of_lt hlt]

/-- The cell of a double-precision datum spells its bits. -/
@[simp]
theorem toNat_ofFloat64 (x : Datum binary64) : (ofFloat64 x).toNat = x.toNat := by
  have hlt : x.toNat < 256 ^ 8 := x.toNat_lt
  rw [ofFloat64, toNat_ofLane (by decide), Nat.mod_eq_of_lt hlt]

/-- The cell of a vector spells its word. -/
@[simp]
theorem toNat_ofVector (v : Vector128) : (ofVector v).toNat = v.toWord.toNat :=
  (Vector128.toNat_toWord v).symm

/-- The cell of a function reference spells its index. -/
@[simp]
theorem toNat_ofFuncRef (r : FuncRef) : (ofFuncRef r).toNat = r.index.toNat := by
  have hlt : r.index.toNat < 256 ^ 4 := r.index.toNat_lt
  rw [ofFuncRef, toNat_ofLane (by decide), Nat.mod_eq_of_lt hlt]

/-- The cell of an extern reference spells the number of its handle. -/
@[simp]
theorem toNat_ofHandle (h : Handle) : (ofHandle h).toNat = h.number.toNat := by
  have hlt : h.number.toNat < 256 ^ 8 := h.number.toNat_lt
  rw [ofHandle, toNat_ofLane (by decide), Nat.mod_eq_of_lt hlt]

/-! ## What a lane reads -/

/-- A lane of four bytes is the number of the cell modulo `2 ^ 32`. -/
theorem lane_four (c : Cell) : c.lane 4 = c.toNat % 2 ^ 32 :=
  c.lane_eq (by decide)

/-- A lane of eight bytes is the number of the cell modulo `2 ^ 64`. -/
theorem lane_eight (c : Cell) : c.lane 8 = c.toNat % 2 ^ 64 :=
  c.lane_eq (by decide)

/-- The pattern that the 32-bit integer lane reads. -/
@[simp]
theorem toNat_int32 (c : Cell) : c.int32.toUInt32.toNat = c.toNat % 2 ^ 32 := by
  rw [int32, UInt32.toUInt32_toInt32, UInt32.toNat_ofNat', lane_four, Nat.mod_mod]

/-- The pattern that the 64-bit integer lane reads. -/
@[simp]
theorem toNat_int64 (c : Cell) : c.int64.toUInt64.toNat = c.toNat % 2 ^ 64 := by
  rw [int64, UInt64.toUInt64_toInt64, UInt64.toNat_ofNat', lane_eight, Nat.mod_mod]

/-- The bits that the single-precision lane reads. -/
@[simp]
theorem toNat_float32 (c : Cell) : c.float32.toNat = c.toNat % 2 ^ 32 := by
  rw [float32, Datum.toNat_ofNat, width_binary32, lane_four, Nat.mod_mod]

/-- The bits that the double-precision lane reads. -/
@[simp]
theorem toNat_float64 (c : Cell) : c.float64.toNat = c.toNat % 2 ^ 64 := by
  rw [float64, Datum.toNat_ofNat, width_binary64, lane_eight, Nat.mod_mod]

/-- The word that the vector lane reads is the number of the cell. -/
@[simp]
theorem toNat_vector (c : Cell) : c.vector.toWord.toNat = c.toNat :=
  Vector128.toNat_toWord c.vector

/-- The index that the function reference lane reads. -/
@[simp]
theorem toNat_funcRef (c : Cell) : c.funcRef.index.toNat = c.toNat % 2 ^ 32 := by
  rw [funcRef, UInt32.toNat_ofNat', lane_four, Nat.mod_mod]

/-- The number of the handle that the extern reference lane reads. -/
@[simp]
theorem toNat_handle (c : Cell) : c.handle.number.toNat = c.toNat % 2 ^ 64 := by
  rw [handle, UInt64.toNat_ofNat', lane_eight, Nat.mod_mod]

end HostBoundary.Cell
