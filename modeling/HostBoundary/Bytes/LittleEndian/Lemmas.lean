import HostBoundary.Bytes.LittleEndian.Basic
import Mathlib

/-!
# Little-endian bytes as numbers

`toNat_ofNat` says that writing truncates to `w` bytes and nothing else is lost. `toNat_append` is
the positional law, and `toNat_take` and `toNat_drop` are the laws of a narrow read: the first `w`
bytes of a number spell it modulo `256 ^ w`, and the bytes behind them its quotient.
`getElem?_ofNat` gives the bytes of a number that was written one by one.
-/

namespace HostBoundary.LittleEndian

/-- Reading back what was written gives the number modulo `256 ^ w`. -/
theorem toNat_ofNat (w n : Nat) : toNat (ofNat w n) = n % 256 ^ w := by
  induction w generalizing n with
  | zero => simp [ofNat, Nat.mod_one]
  | succ w ih =>
      have hlow : (UInt8.ofNat n).toNat = n % 256 := by simp
      rw [ofNat, toNat_cons, ih, hlow, Nat.pow_succ, Nat.mul_comm (256 ^ w), Nat.mod_mul]

/-- A list of bytes spells a number below the power of its length. -/
theorem toNat_lt (bs : List UInt8) : toNat bs < 256 ^ bs.length := by
  induction bs with
  | nil => simp
  | cons b bs ih =>
      have hb := b.toNat_lt
      rw [toNat_cons, List.length_cons, Nat.pow_succ]
      omega

/-- Bytes behind a list count by the power of its length. -/
theorem toNat_append (as bs : List UInt8) :
    toNat (as ++ bs) = toNat as + 256 ^ as.length * toNat bs := by
  induction as with
  | nil => simp
  | cons a as ih =>
      rw [List.cons_append, toNat_cons, toNat_cons, ih, List.length_cons, Nat.pow_succ,
        Nat.mul_add, Nat.mul_comm (256 ^ as.length) 256, Nat.mul_assoc, Nat.add_assoc]

/-- The first `w` bytes spell the number modulo `256 ^ w`. -/
theorem toNat_take {w : Nat} {bs : List UInt8} (h : w ≤ bs.length) :
    toNat (bs.take w) = toNat bs % 256 ^ w := by
  have hlength : (bs.take w).length = w := List.length_take_of_le h
  have hlt := toNat_lt (bs.take w)
  rw [hlength] at hlt
  have happ := toNat_append (bs.take w) (bs.drop w)
  rw [List.take_append_drop, hlength] at happ
  rw [happ, Nat.add_mul_mod_self_left, Nat.mod_eq_of_lt hlt]

/-- The bytes behind the first `w` spell the quotient by `256 ^ w`. -/
theorem toNat_drop {w : Nat} {bs : List UInt8} (h : w ≤ bs.length) :
    toNat (bs.drop w) = toNat bs / 256 ^ w := by
  have hlength : (bs.take w).length = w := List.length_take_of_le h
  have hlt := toNat_lt (bs.take w)
  rw [hlength] at hlt
  have happ := toNat_append (bs.take w) (bs.drop w)
  rw [List.take_append_drop, hlength] at happ
  rw [happ, Nat.add_mul_div_left _ _ (Nat.pow_pos (by decide)), Nat.div_eq_of_lt hlt, Nat.zero_add]

/-- The byte at a position of a number that was written is its digit there, to the base 256. -/
theorem getElem?_ofNat {w i : Nat} (n : Nat) (hi : i < w) :
    (ofNat w n)[i]? = some (UInt8.ofNat (n / 256 ^ i)) := by
  induction w generalizing n i with
  | zero => exact absurd hi (Nat.not_lt_zero i)
  | succ w ih =>
      cases i with
      | zero => simp [ofNat]
      | succ i =>
          rw [ofNat, List.getElem?_cons_succ, ih (n / 256) (Nat.lt_of_succ_lt_succ hi),
            Nat.div_div_eq_div_mul, Nat.pow_succ, Nat.mul_comm 256]

end HostBoundary.LittleEndian
