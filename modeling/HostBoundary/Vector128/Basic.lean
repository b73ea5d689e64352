import HostBoundary.Bytes.Block.Basic

/-!
# Vectors of 128 bits

A vector is sixteen bytes: the low half first, then the high half, each least significant byte
first. It can be made from and read as its two halves, its bytes or one 128-bit word.
-/

namespace HostBoundary

/-- A vector of 128 bits, kept as its sixteen bytes in memory order. -/
@[ext]
structure Vector128 where
  block : Block
  deriving DecidableEq

namespace Vector128

/-- The vector with the given halves: the eight bytes of the low half, then those of the high
half. -/
def ofHalves (high low : UInt64) : Vector128 :=
  ⟨⟨LittleEndian.ofNat 8 low.toNat ++ LittleEndian.ofNat 8 high.toNat, by simp⟩⟩

/-- The low half: the number that the first eight bytes spell. -/
def low (v : Vector128) : UInt64 :=
  UInt64.ofNat (LittleEndian.toNat (v.block.bytes.take 8))

/-- The high half: the number that the last eight bytes spell. -/
def high (v : Vector128) : UInt64 :=
  UInt64.ofNat (LittleEndian.toNat (v.block.bytes.drop 8))

/-- The vector whose sixteen bytes spell a 128-bit word, least significant first. -/
def ofWord (n : BitVec 128) : Vector128 :=
  ⟨Block.ofNat n.toNat⟩

/-- The 128-bit word that the sixteen bytes spell, least significant first. -/
def toWord (v : Vector128) : BitVec 128 :=
  BitVec.ofNat 128 v.block.toNat

/-- The vector of zeros. -/
def zero : Vector128 :=
  ⟨Block.zero⟩

/-- The diagnostic form: the word in hexadecimal, all digits kept. -/
def diagnostic (v : Vector128) : String :=
  "V128(0x" ++ v.block.hexText ++ ")"

end Vector128

end HostBoundary
