import HostBoundary.Bytes.Block.Lemmas
import HostBoundary.Text.Hex.Lemmas
import HostBoundary.Transfer.Encode

/-!
# Diagnostic forms of cells and vectors

A cell and a vector are shown as the name of what they are and the digits of their number, to the
base sixteen. A number is read from its most significant digit, and the bytes are stored from the
least significant one, so a reader finds the bytes in reverse. `diagnostics_spell_bytes` says that
the digits can be taken either way, pair by pair as the bytes or all together as the number, and
that nothing is lost: the diagnostic form tells any two cells apart, and any two vectors.
-/

namespace HostBoundary

namespace Block

/-! ## The digits of a block -/

/-- What digits say of sixteen bytes to a reader who takes them from left to right. -/
structure SpelledBy (b : Block) (digits : List Char) : Prop where
  /-- There are two digits for each byte, zeros included. -/
  length_eq : digits.length = 32
  /-- The digits above nine are letters in lower case. -/
  lowerCase : ∀ c ∈ digits, c ∈ "0123456789abcdef".toList
  /-- Pair by pair, the digits are the bytes from the last to the first. -/
  pair : ∀ i : Fin 16, Hex.toNat? ((digits.drop (2 * i.val)).take 2) =
    (b.bytes.reverse[i.val]?).map UInt8.toNat
  /-- All together, they are the number that the bytes spell least significant first. -/
  number : Hex.toNat? digits = some (LittleEndian.toNat b.bytes)
  /-- They are that number as written without a fixed count of digits, with zeros in front. -/
  padded : digits = (Nat.toDigits 16 (LittleEndian.toNat b.bytes)).leftpad 32 '0'

/-- Thirty-two digits are enough for the number of a block. -/
theorem toNat_lt_digits (b : Block) : b.toNat < 16 ^ 32 :=
  b.toNat_lt

/-- A pair of the digits written for a block is read as a byte, counted from the last. -/
theorem toNat?_pair (b : Block) (i : Fin 16) :
    Hex.toNat? (((Hex.digits 32 b.toNat).drop (2 * i.val)).take 2) =
      (b.bytes.reverse[i.val]?).map UInt8.toNat := by
  -- Each of the `15 - i` bytes stored in front of this one has two digits behind the pair.
  have hplaces : 32 = 2 * i.val + (2 + 2 * (15 - i.val)) := by omega
  have hpair : ((Hex.digits 32 b.toNat).drop (2 * i.val)).take 2 =
      Hex.digits 2 (b.toNat / 256 ^ (15 - i.val)) := by
    rw [hplaces, Hex.take_drop_digits, Nat.pow_mul]
  have hbyte : b.bytes.reverse[i.val]? = some (.ofNat (b.toNat / 256 ^ (15 - i.val))) := by
    rw [List.getElem?_reverse (by rw [b.length_bytes]; exact i.isLt), b.length_bytes]
    exact b.getElem?_bytes (by omega)
  rw [hpair, hbyte, Hex.toNat?_digits, Option.map_some, UInt8.toNat_ofNat']
  rfl

/-- The digits written for a block spell it. -/
theorem spelledBy_digits (b : Block) : b.SpelledBy (Hex.digits 32 b.toNat) where
  length_eq := Hex.length_digits 32 b.toNat
  lowerCase _ h := Hex.mem_of_mem_digits h
  pair := b.toNat?_pair
  number := by
    rw [Hex.toNat?_digits, Nat.mod_eq_of_lt b.toNat_lt_digits]
    rfl
  padded := Hex.digits_eq_leftpad (by decide) b.toNat_lt_digits

/-- Blocks with one text are one block. -/
theorem hexText_inj {a b : Block} : a.hexText = b.hexText ↔ a = b := by
  rw [hexText, hexText, Hex.text, Hex.text, String.ofList_inj,
    Hex.digits_inj a.toNat_lt_digits b.toNat_lt_digits, toNat_inj]

end Block

/-! ## The frame around them -/

/-- Cells with one diagnostic form are one cell. -/
theorem Cell.diagnostic_inj {a b : Cell} : a.diagnostic = b.diagnostic ↔ a = b := by
  rw [diagnostic, diagnostic, String.append_left_inj, String.append_right_inj, Block.hexText_inj,
    Cell.ext_iff]

/-- Vectors with one diagnostic form are one vector. -/
theorem Vector128.diagnostic_inj {v w : Vector128} : v.diagnostic = w.diagnostic ↔ v = w := by
  rw [diagnostic, diagnostic, String.append_left_inj, String.append_right_inj, Block.hexText_inj,
    Vector128.ext_iff]

/-- The diagnostic form of a cell, and that of a vector, is its name, `(0x`, thirty-two hexadecimal
digits in lower case and a closing bracket. The digits spell the bytes, pair by pair from the last
to the first, and the number that the bytes spell least significant first, with all its leading
zeros. So two cells have one diagnostic form exactly when they are equal, and so have two vectors.
A vector is never refused, and the cell written for it is shown with the digits of the vector. -/
theorem diagnostics_spell_bytes :
    (∀ c : Cell, ∃ digits, c.diagnostic = "RawVal(0x" ++ String.ofList digits ++ ")" ∧
      c.block.SpelledBy digits) ∧
    (∀ v : Vector128, ∃ digits, v.diagnostic = "V128(0x" ++ String.ofList digits ++ ")" ∧
      v.block.SpelledBy digits) ∧
    (∀ a b : Cell, a.diagnostic = b.diagnostic ↔ a = b) ∧
    (∀ v w : Vector128, v.diagnostic = w.diagnostic ↔ v = w) ∧
    ∀ v : Vector128, ∃ cell digits, (Value.v128 v).encode.result = .ok cell ∧
      v.diagnostic = "V128(0x" ++ String.ofList digits ++ ")" ∧
      cell.diagnostic = "RawVal(0x" ++ String.ofList digits ++ ")" := by
  refine ⟨fun c => ?_, fun v => ?_, fun _ _ => Cell.diagnostic_inj,
    fun _ _ => Vector128.diagnostic_inj, fun v => ?_⟩
  · exact ⟨Hex.digits 32 c.block.toNat, rfl, c.block.spelledBy_digits⟩
  · exact ⟨Hex.digits 32 v.block.toNat, rfl, v.block.spelledBy_digits⟩
  · exact ⟨.ofVector v, Hex.digits 32 v.block.toNat, rfl, rfl, rfl⟩

example : (Cell.ofVector (.ofHalves 0x11223344 0x99AABBCCDDEEFF00)).diagnostic =
    "RawVal(0x000000001122334499aabbccddeeff00)" := by
  decide

end HostBoundary
