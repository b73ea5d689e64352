import HostBoundary.Text.Hex.Basic
import Mathlib

/-!
# Hexadecimal text as numbers

`toNat?_digits` says that the digits written for a number read back as that number modulo `16 ^ w`,
so numbers that fit are told apart by their digits. `digits_add` is the positional law, from which
`take_drop_digits` gives digits from the middle of a number. `digits_eq_leftpad` compares the digits
with those of the number written without a fixed count: they are the same, behind zeros.
-/

namespace HostBoundary.Hex

/-- The digit written for a value below sixteen has that value. -/
theorem digitValue?_digitChar {d : Nat} (h : d < 16) : digitValue? (Nat.digitChar d) = some d := by
  have hall : ∀ d : Fin 16, digitValue? (Nat.digitChar d) = some d.val := by decide
  exact hall ⟨d, h⟩

/-- Reading one more digit multiplies what was read by sixteen and adds the digit. -/
theorem readFrom?_append_digit (n : Nat) (cs : List Char) (c : Char) :
    readFrom? n (cs ++ [c]) = (do
      let m ← readFrom? n cs
      let d ← digitValue? c
      pure (16 * m + d)) := by
  induction cs generalizing n with
  | nil => cases h : digitValue? c <;> simp [readFrom?, h]
  | cons b cs ih => cases h : digitValue? b <;> simp [readFrom?, h, ih]

/-- The written digits read back as the number modulo `16 ^ w`. -/
theorem toNat?_digits (w n : Nat) : toNat? (digits w n) = some (n % 16 ^ w) := by
  induction w generalizing n with
  | zero => simp [toNat?, digits, readFrom?, Nat.mod_one]
  | succ w ih =>
      have hdigit := digitValue?_digitChar (Nat.mod_lt n (by decide : 0 < 16))
      have hread : readFrom? 0 (digits w (n / 16)) = some (n / 16 % 16 ^ w) := ih (n / 16)
      have hmod : n % 16 ^ (w + 1) = 16 * (n / 16 % 16 ^ w) + n % 16 := by
        rw [Nat.pow_succ, Nat.mul_comm (16 ^ w), Nat.mod_mul, Nat.add_comm]
      simp [toNat?, digits, readFrom?_append_digit, hread, hdigit, hmod]

/-- Numbers of at most `w` digits are written alike only if they are one number. -/
theorem digits_inj {w m n : Nat} (hm : m < 16 ^ w) (hn : n < 16 ^ w) :
    digits w m = digits w n ↔ m = n := by
  constructor
  · intro h
    have hread : toNat? (digits w m) = some n := by
      rw [h, toNat?_digits, Nat.mod_eq_of_lt hn]
    rw [toNat?_digits, Nat.mod_eq_of_lt hm] at hread
    exact Option.some.inj hread
  · exact congrArg (digits w)

/-- Every digit that is written is a digit in lower case. -/
theorem mem_of_mem_digits {w n : Nat} {c : Char} (h : c ∈ digits w n) :
    c ∈ "0123456789abcdef".toList := by
  have hall : ∀ d : Fin 16, Nat.digitChar d.val ∈ "0123456789abcdef".toList := by decide
  induction w generalizing n with
  | zero => exact absurd h List.not_mem_nil
  | succ w ih =>
      rw [digits, List.mem_append, List.mem_singleton] at h
      rcases h with hfront | hlast
      · exact ih hfront
      · rw [hlast]
        exact hall ⟨n % 16, Nat.mod_lt n (by decide)⟩

/-- More digits of a number are those of its quotient, in front of the digits already there. -/
theorem digits_add (v w n : Nat) : digits (v + w) n = digits v (n / 16 ^ w) ++ digits w n := by
  induction w generalizing n with
  | zero => simp [digits]
  | succ w ih =>
      show digits (v + w) (n / 16) ++ [Nat.digitChar (n % 16)] =
        digits v (n / 16 ^ (w + 1)) ++ (digits w (n / 16) ++ [Nat.digitChar (n % 16)])
      rw [ih (n / 16), Nat.div_div_eq_div_mul, Nat.pow_succ, Nat.mul_comm (16 ^ w),
        List.append_assoc]

/-- Digits from the middle of a number are digits of its quotient by what stands behind them. -/
theorem take_drop_digits (u v w n : Nat) :
    ((digits (u + (v + w)) n).drop u).take v = digits v (n / 16 ^ w) := by
  rw [digits_add u, List.drop_left' (length_digits u _), digits_add v,
    List.take_left' (length_digits v _)]

/-- The digits written for zero are zeros. -/
theorem digits_zero (w : Nat) : digits w 0 = List.replicate w '0' := by
  induction w with
  | zero => rfl
  | succ w ih =>
      rw [digits, Nat.zero_div, ih, List.replicate_succ']
      rfl

/-- A number of at most `w` digits is written as without a fixed count, with zeros in front. -/
theorem digits_eq_leftpad {w n : Nat} (hw : 0 < w) (hn : n < 16 ^ w) :
    digits w n = (Nat.toDigits 16 n).leftpad w '0' := by
  induction w generalizing n with
  | zero => exact absurd hw (Nat.lt_irrefl 0)
  | succ w ih =>
      rw [digits, Nat.toDigits_eq_if (by decide)]
      split
      case isTrue hdigit =>
          rw [Nat.div_eq_of_lt hdigit, Nat.mod_eq_of_lt hdigit, digits_zero]
          rfl
      case isFalse hmore =>
          have hquotient : n / 16 < 16 ^ w := by
            rw [Nat.pow_succ] at hn
            omega
          -- A quotient that is not zero needs a digit of its own.
          have hpos : 0 < w := by
            cases w with
            | zero => omega
            | succ w => exact Nat.succ_pos w
          rw [ih hpos hquotient]
          simp only [List.leftpad, List.length_append, List.length_singleton,
            Nat.add_sub_add_right, List.append_assoc]

end HostBoundary.Hex
