import HostBoundary.Bytes.LittleEndian.Basic
import HostBoundary.Text.Hex.Basic

/-!
# Blocks of sixteen bytes

A `Block` is sixteen bytes in memory order, the storage of a native cell and of a vector. It has one
view, `Block.toNat`, the number that its bytes spell least significant first. `toNat_inj` says that
the view determines the block.
-/

namespace HostBoundary

/-- Sixteen bytes in memory order. -/
@[ext]
structure Block where
  bytes : List UInt8
  length_bytes : bytes.length = 16
  deriving DecidableEq

namespace Block

/-- The block whose bytes are all zero. -/
def zero : Block :=
  ⟨List.replicate 16 0, by simp⟩

/-- A block from a list of bytes, if there are sixteen of them. -/
def ofList? (bytes : List UInt8) : Option Block :=
  if h : bytes.length = 16 then some ⟨bytes, h⟩ else none

/-- The block whose bytes spell `n`, least significant first, modulo `256 ^ 16`. -/
def ofNat (n : Nat) : Block :=
  ⟨LittleEndian.ofNat 16 n, by simp⟩

/-- The number that the bytes of a block spell, least significant first. -/
def toNat (b : Block) : Nat :=
  LittleEndian.toNat b.bytes

/-- The number that the first `w` bytes of a block spell, least significant first. -/
def read (b : Block) (w : Nat) : Nat :=
  LittleEndian.toNat (b.bytes.take w)

/-- Replace the first bytes of a block, one for each byte given; bytes given beyond the sixteenth
have no place. -/
def overwrite (b : Block) (front : List UInt8) : Block :=
  ⟨front.take 16 ++ b.bytes.drop front.length, by
    have := b.length_bytes
    simp only [List.length_append, List.length_take, List.length_drop]
    omega⟩

/-- Thirty-two hexadecimal digits, most significant first: the bytes of the block from the last to
the first. -/
def hexText (b : Block) : String :=
  Hex.text 32 b.toNat

/-- A block is the one written for the number it spells. -/
@[simp]
theorem ofNat_toNat (b : Block) : ofNat b.toNat = b := by
  have h := LittleEndian.ofNat_toNat b.bytes
  rw [b.length_bytes] at h
  exact Block.ext h

/-- Blocks that spell one number are one block. -/
theorem toNat_inj {a b : Block} : a.toNat = b.toNat ↔ a = b := by
  have hlength : a.bytes.length = b.bytes.length := by rw [a.length_bytes, b.length_bytes]
  rw [toNat, toNat, LittleEndian.toNat_inj hlength, Block.ext_iff]

/-- The zero block spells zero. -/
@[simp]
theorem toNat_zero : zero.toNat = 0 :=
  LittleEndian.toNat_replicate_zero 16

end Block

end HostBoundary
