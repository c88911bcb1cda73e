/-!
# Digits

Digits of bases up to sixteen, and the numbers that they stand for.
-/

namespace ValueObjects.Text

/-- The value of a digit in base sixteen, in either case. -/
def hexDigit? (c : Char) : Option Nat :=
  if c.isDigit then some (c.toNat - '0'.toNat)
  else if 'a' ≤ c ∧ c ≤ 'f' then some (c.toNat - 'a'.toNat + 10)
  else if 'A' ≤ c ∧ c ≤ 'F' then some (c.toNat - 'A'.toNat + 10)
  else none

/-- Decide whether a character is a digit of a base up to sixteen. -/
def isDigitOf (base : Nat) (c : Char) : Bool := (hexDigit? c).any (· < base)

/-- The number that digits stand for, behind a number read so far. -/
def digitsFrom (base soFar : Nat) (digits : List Char) : Nat :=
  digits.foldl (fun n c => n * base + (hexDigit? c).getD 0) soFar

/-- The number that digits stand for. -/
def ofDigits (base : Nat) (digits : List Char) : Nat := digitsFrom base 0 digits

@[simp] theorem digitsFrom_nil (base soFar : Nat) : digitsFrom base soFar [] = soFar := rfl

end ValueObjects.Text
