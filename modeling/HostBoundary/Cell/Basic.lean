import HostBoundary.Ieee.Basic
import HostBoundary.Reference
import HostBoundary.Vector128.Basic

/-!
# Native cells

A `Cell` is the sixteen bytes in which the engine passes a value. It carries no type: who reads it
must know which of its lanes is meant. Every lane starts at the first byte and is written least
significant byte first, and a cell made for a lane is zero behind it. `toNat_inj` says that the one
number that a cell spells determines it.
-/

namespace HostBoundary

open Ieee

/-- The sixteen untyped bytes of a native value. -/
@[ext]
structure Cell where
  block : Block
  deriving DecidableEq

namespace Cell

/-- The cell of zeros. -/
def zero : Cell :=
  ⟨Block.zero⟩

/-- The number that a cell spells, least significant byte first. -/
def toNat (c : Cell) : Nat :=
  c.block.toNat

/-- A cell of zeros whose first `w` bytes are then written with a number. -/
def ofLane (w n : Nat) : Cell :=
  ⟨Block.zero.overwrite (LittleEndian.ofNat w n)⟩

/-- The number in the first `w` bytes of a cell. -/
def lane (c : Cell) (w : Nat) : Nat :=
  c.block.read w

/-! ## Writing a lane -/

/-- The cell of a 32-bit integer, in two's complement. -/
def ofInt32 (n : Int32) : Cell :=
  ofLane 4 n.toUInt32.toNat

/-- The cell of a 64-bit integer, in two's complement. -/
def ofInt64 (n : Int64) : Cell :=
  ofLane 8 n.toUInt64.toNat

/-- The cell of a single-precision datum. -/
def ofFloat32 (x : Datum binary32) : Cell :=
  ofLane 4 x.toNat

/-- The cell of a double-precision datum. -/
def ofFloat64 (x : Datum binary64) : Cell :=
  ofLane 8 x.toNat

/-- The cell of a vector: its sixteen bytes. -/
def ofVector (v : Vector128) : Cell :=
  ⟨v.block⟩

/-- The cell of a function reference: its index. -/
def ofFuncRef (r : FuncRef) : Cell :=
  ofLane 4 r.index.toNat

/-- The cell of an extern reference: its handle. -/
def ofHandle (h : Handle) : Cell :=
  ofLane 8 h.number.toNat

/-! ## Reading a lane -/

/-- The 32-bit integer lane. -/
def int32 (c : Cell) : Int32 :=
  (UInt32.ofNat (c.lane 4)).toInt32

/-- The 64-bit integer lane. -/
def int64 (c : Cell) : Int64 :=
  (UInt64.ofNat (c.lane 8)).toInt64

/-- The single-precision lane. -/
def float32 (c : Cell) : Datum binary32 :=
  .ofNat (c.lane 4)

/-- The double-precision lane. -/
def float64 (c : Cell) : Datum binary64 :=
  .ofNat (c.lane 8)

/-- The vector lane: the whole cell. -/
def vector (c : Cell) : Vector128 :=
  ⟨c.block⟩

/-- The function reference lane. -/
def funcRef (c : Cell) : FuncRef :=
  ⟨UInt32.ofNat (c.lane 4)⟩

/-- The extern reference lane. -/
def handle (c : Cell) : Handle :=
  ⟨UInt64.ofNat (c.lane 8)⟩

/-- The diagnostic form: the number that the cell spells in hexadecimal, all digits kept. -/
def diagnostic (c : Cell) : String :=
  "RawVal(0x" ++ c.block.hexText ++ ")"

/-- Cells that spell one number are one cell. -/
theorem toNat_inj {a b : Cell} : a.toNat = b.toNat ↔ a = b := by
  constructor
  · intro h
    exact Cell.ext (Block.toNat_inj.1 h)
  · exact congrArg toNat

end Cell

end HostBoundary
