import HostBoundary.Bytes.Block.Basic
import HostBoundary.Bytes.LittleEndian.Lemmas

/-!
# Blocks as numbers

What writing and reading a block do to the number that it spells: `toNat_ofNat` for the whole block,
`getElem?_bytes` for a single byte, `read_eq` and `toNat_overwrite_zero` for a narrow read and a
narrow write.
-/

namespace HostBoundary.Block

/-- A block spells a number of at most 128 bits. -/
theorem toNat_lt (b : Block) : b.toNat < 256 ^ 16 := by
  have h := LittleEndian.toNat_lt b.bytes
  rwa [b.length_bytes] at h

/-- The block written for a number spells it, modulo `256 ^ 16`. -/
@[simp]
theorem toNat_ofNat (n : Nat) : (ofNat n).toNat = n % 256 ^ 16 :=
  LittleEndian.toNat_ofNat 16 n

/-- A byte of a block is a digit of its number, to the base 256. -/
theorem getElem?_bytes (b : Block) {i : Nat} (hi : i < 16) :
    b.bytes[i]? = some (.ofNat (b.toNat / 256 ^ i)) :=
  calc b.bytes[i]?
      = (ofNat b.toNat).bytes[i]? := by rw [ofNat_toNat]
    _ = some (.ofNat (b.toNat / 256 ^ i)) := LittleEndian.getElem?_ofNat b.toNat hi

/-- A narrow read is the number of the whole block modulo the width. -/
theorem read_eq (b : Block) {w : Nat} (h : w ≤ 16) : b.read w = b.toNat % 256 ^ w :=
  LittleEndian.toNat_take (by rw [b.length_bytes]; exact h)

/-- Writing `w` bytes over the zero block leaves the number written, with no sign and nothing of
what stood there before. -/
theorem toNat_overwrite_zero {w : Nat} (h : w ≤ 16) (n : Nat) :
    (zero.overwrite (LittleEndian.ofNat w n)).toNat = n % 256 ^ w := by
  have hfront : (LittleEndian.ofNat w n).take 16 = LittleEndian.ofNat w n :=
    List.take_of_length_le (by simpa using h)
  simp only [toNat, overwrite, zero, hfront, List.drop_replicate, LittleEndian.toNat_append,
    LittleEndian.toNat_replicate_zero, LittleEndian.toNat_ofNat, Nat.mul_zero, Nat.add_zero]

end HostBoundary.Block
