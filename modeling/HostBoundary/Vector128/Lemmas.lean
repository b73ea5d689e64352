import HostBoundary.Bytes.Block.Lemmas
import HostBoundary.Vector128.Basic

/-!
# The views of a vector

The halves, the bytes and the word of a vector are views of one value: `toWord_ofHalves` gives the
word of two halves, `ofHalves_high_low` makes a vector from its halves again, and `ofWord_toWord`
from its word.
-/

namespace HostBoundary.Vector128

/-- The word of a vector is the number its block spells. -/
theorem toNat_toWord (v : Vector128) : v.toWord.toNat = v.block.toNat := by
  have h := v.block.toNat_lt
  have hpow : (256 : Nat) ^ 16 = 2 ^ 128 := by decide
  rw [toWord, BitVec.toNat_ofNat, Nat.mod_eq_of_lt (hpow ▸ h)]

/-- A vector is the one made from its word. -/
@[simp]
theorem ofWord_toWord (v : Vector128) : ofWord v.toWord = v := by
  apply Vector128.ext
  rw [ofWord, toNat_toWord, Block.ofNat_toNat]

/-- The word of the vector made from a word is that word. -/
@[simp]
theorem toWord_ofWord (n : BitVec 128) : (ofWord n).toWord = n := by
  apply BitVec.eq_of_toNat_eq
  have h : n.toNat < 256 ^ 16 := n.isLt
  rw [toNat_toWord, ofWord, Block.toNat_ofNat, Nat.mod_eq_of_lt h]

/-- The block of two halves spells the high half above the low half. -/
theorem toNat_block_ofHalves (high low : UInt64) :
    (ofHalves high low).block.toNat = high.toNat * 2 ^ 64 + low.toNat := by
  have hhigh : high.toNat < 256 ^ 8 := high.toNat_lt
  have hlow : low.toNat < 256 ^ 8 := low.toNat_lt
  simp only [ofHalves, Block.toNat, LittleEndian.toNat_append, LittleEndian.length_ofNat,
    LittleEndian.toNat_ofNat, Nat.mod_eq_of_lt hhigh, Nat.mod_eq_of_lt hlow]
  omega

/-- The word of two halves is the high half above the low half. -/
theorem toWord_ofHalves (high low : UInt64) :
    (ofHalves high low).toWord.toNat = high.toNat * 2 ^ 64 + low.toNat := by
  rw [toNat_toWord, toNat_block_ofHalves]

/-- The low half is the word modulo `2 ^ 64`. -/
theorem toNat_low (v : Vector128) : v.low.toNat = v.block.toNat % 2 ^ 64 := by
  have hread : LittleEndian.toNat (v.block.bytes.take 8) = v.block.toNat % 256 ^ 8 :=
    LittleEndian.toNat_take (by rw [v.block.length_bytes]; decide)
  rw [low, hread, UInt64.toNat_ofNat']
  omega

/-- The high half is the word divided by `2 ^ 64`. -/
theorem toNat_high (v : Vector128) : v.high.toNat = v.block.toNat / 2 ^ 64 := by
  have hlt := v.block.toNat_lt
  have hread : LittleEndian.toNat (v.block.bytes.drop 8) = v.block.toNat / 256 ^ 8 :=
    LittleEndian.toNat_drop (by rw [v.block.length_bytes]; decide)
  rw [high, hread, UInt64.toNat_ofNat']
  omega

/-- A vector is the one made from its halves. -/
@[simp]
theorem ofHalves_high_low (v : Vector128) : ofHalves v.high v.low = v := by
  apply Vector128.ext
  apply Block.toNat_inj.1
  rw [toNat_block_ofHalves, toNat_high, toNat_low]
  omega

/-- The high half of a vector made from halves. -/
@[simp]
theorem high_ofHalves (high low : UInt64) : (ofHalves high low).high = high := by
  apply UInt64.toNat_inj.1
  have hlow := low.toNat_lt
  rw [toNat_high, toNat_block_ofHalves]
  omega

/-- The low half of a vector made from halves. -/
@[simp]
theorem low_ofHalves (high low : UInt64) : (ofHalves high low).low = low := by
  apply UInt64.toNat_inj.1
  have hlow := low.toNat_lt
  rw [toNat_low, toNat_block_ofHalves]
  omega

end HostBoundary.Vector128
