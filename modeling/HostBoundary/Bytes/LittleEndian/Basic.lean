/-!
# Little-endian bytes

A number as a list of bytes, least significant byte first. `LittleEndian.ofNat w n` writes the `w`
low bytes of `n` and `LittleEndian.toNat` reads a list of any length. `ofNat_toNat` says that every
list of bytes is the writing of the number it spells.
-/

namespace HostBoundary.LittleEndian

/-- The `w` low bytes of `n`, least significant first. -/
def ofNat : Nat → Nat → List UInt8
  | 0, _ => []
  | w + 1, n => UInt8.ofNat n :: ofNat w (n / 256)

/-- The number that a list of bytes spells, least significant first. -/
def toNat : List UInt8 → Nat
  | [] => 0
  | b :: bs => b.toNat + 256 * toNat bs

/-- Writing `w` bytes writes `w` bytes. -/
@[simp]
theorem length_ofNat (w n : Nat) : (ofNat w n).length = w := by
  induction w generalizing n with
  | zero => rfl
  | succ w ih => simp [ofNat, ih]

/-- The empty list spells zero. -/
@[simp]
theorem toNat_nil : toNat [] = 0 := rfl

/-- The first byte is the least significant one. -/
theorem toNat_cons (b : UInt8) (bs : List UInt8) :
    toNat (b :: bs) = b.toNat + 256 * toNat bs := rfl

/-- Writing the number that a list spells, at the length of the list, gives the list back. -/
theorem ofNat_toNat (bs : List UInt8) : ofNat bs.length (toNat bs) = bs := by
  induction bs with
  | nil => rfl
  | cons b bs ih =>
      have hb := b.toNat_lt
      have hhead : UInt8.ofNat (b.toNat + 256 * toNat bs) = b := by
        apply UInt8.toNat_inj.1
        rw [UInt8.toNat_ofNat']
        omega
      have htail : (b.toNat + 256 * toNat bs) / 256 = toNat bs := by omega
      rw [List.length_cons, toNat_cons, ofNat, hhead, htail, ih]

/-- Two lists of one length that spell one number are one list. -/
theorem toNat_inj {as bs : List UInt8} (hlength : as.length = bs.length) :
    toNat as = toNat bs ↔ as = bs := by
  constructor
  · intro h
    rw [← ofNat_toNat as, ← ofNat_toNat bs, h, hlength]
  · exact congrArg toNat

/-- Zero bytes spell zero. -/
@[simp]
theorem toNat_replicate_zero (k : Nat) : toNat (List.replicate k 0) = 0 := by
  induction k with
  | zero => rfl
  | succ k ih => simp [List.replicate_succ, toNat_cons, ih]

end HostBoundary.LittleEndian
