/-!
# Hexadecimal text

Numbers as lower-case hexadecimal digits of a fixed count, most significant digit first, leading
zeros kept. `Hex.digits w n` writes `w` digits of `n` and `Hex.toNat?` reads digits of either case.
-/

namespace HostBoundary.Hex

/-- The `w` low digits of `n`, most significant first. -/
def digits : Nat → Nat → List Char
  | 0, _ => []
  | w + 1, n => digits w (n / 16) ++ [Nat.digitChar (n % 16)]

/-- The `w` low digits of `n` as text. -/
def text (w n : Nat) : String :=
  String.ofList (digits w n)

/-- The value of one digit, of either case. -/
def digitValue? (c : Char) : Option Nat :=
  if '0' ≤ c ∧ c ≤ '9' then some (c.toNat - '0'.toNat)
  else if 'a' ≤ c ∧ c ≤ 'f' then some (c.toNat - 'a'.toNat + 10)
  else if 'A' ≤ c ∧ c ≤ 'F' then some (c.toNat - 'A'.toNat + 10)
  else none

/-- Read digits after a number already read, most significant first. -/
def readFrom? (n : Nat) : List Char → Option Nat
  | [] => some n
  | c :: cs => do
      let d ← digitValue? c
      readFrom? (16 * n + d) cs

/-- The number that a list of digits spells, most significant first; `none` if a character is not
a digit. The empty list spells zero. -/
def toNat? (cs : List Char) : Option Nat :=
  readFrom? 0 cs

/-- Writing `w` digits writes `w` digits. -/
@[simp]
theorem length_digits (w n : Nat) : (digits w n).length = w := by
  induction w generalizing n with
  | zero => rfl
  | succ w ih => simp [digits, ih]

end HostBoundary.Hex
