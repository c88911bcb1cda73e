/-!
# Double precision numbers

The finite numbers of the binary format with 53 significant bits, as an integer times a power of two, and the one
that is nearest to a decimal number.
-/

namespace ValueObjects.Number

/-! ## Fractions -/

/-- A non-negative fraction. The denominator of every fraction built here is positive. -/
structure Fraction where
  num : Nat
  den : Nat
deriving DecidableEq, Repr

/-- Multiply by a power, which may have a negative exponent. -/
def Fraction.scale (x : Fraction) (base : Nat) (exponent : Int) : Fraction :=
  ⟨x.num * base.pow exponent.toNat, x.den * base.pow (-exponent).toNat⟩

/-- Compare two fractions by cross-multiplication. -/
def Fraction.le (x y : Fraction) : Bool := x.num * y.den ≤ y.num * x.den

/-- Compare two fractions strictly. -/
def Fraction.lt (x y : Fraction) : Bool := x.num * y.den < y.num * x.den

/-- The largest integer that is not above a fraction. -/
def Fraction.floor (x : Fraction) : Nat := x.num / x.den

/-- The nearest integer; of two, the larger one. -/
def Fraction.roundUp (x : Fraction) : Nat := (2 * x.num + x.den) / (2 * x.den)

/-- The nearest integer; of two, the even one. -/
def Fraction.round (x : Fraction) : Nat :=
  let below := x.num / x.den
  let rest := x.num % x.den
  if 2 * rest < x.den then below
  else if x.den < 2 * rest then below + 1
  else if below % 2 = 0 then below else below + 1

/-! ## The format -/

/-- A finite non-negative double: `mantissa` times two to the power `exponent`. -/
structure Binary64 where
  mantissa : Nat
  exponent : Int
deriving DecidableEq, Repr

/-- The least exponent, at which the numbers near zero are evenly spaced. -/
def Binary64.minExponent : Int := -1074

/-- The number as a fraction. -/
def Binary64.fraction (x : Binary64) : Fraction := Fraction.scale ⟨x.mantissa, 1⟩ 2 x.exponent

/-- The exponent at which a positive fraction has 53 bits before the point, or the least one. -/
def Binary64.exponentFor (x : Fraction) : Int :=
  let guess : Int := (x.num.log2 : Int) - (x.den.log2 : Int) - 53
  -- the lengths of both numbers leave the exponent open by one
  let exponent := if (x.scale 2 (-guess)).floor < Nat.pow 2 53 then guess else guess + 1
  max exponent Binary64.minExponent

/-- The double nearest to a fraction, ties to the even mantissa; `none` if that is beyond the largest finite one. -/
def Binary64.nearest? (x : Fraction) : Option Binary64 :=
  if x.num = 0 then some ⟨0, Binary64.minExponent⟩
  else
    let exponent := Binary64.exponentFor x
    let mantissa := (x.scale 2 (-exponent)).round
    -- rounding up may have carried into one more bit
    let rounded : Binary64 := if mantissa = Nat.pow 2 53 then ⟨Nat.pow 2 52, exponent + 1⟩ else ⟨mantissa, exponent⟩
    if rounded.exponent > 971 then none else some rounded

/-- The double nearest to `digits` times ten to the power `exponent`. Powers that are out of reach of the format are
settled by their size alone. -/
def Binary64.ofDecimal? (digits : Nat) (exponent : Int) : Option Binary64 :=
  let magnitude := exponent + ((Nat.toDigits 10 digits).length : Int)
  if digits = 0 ∨ magnitude < -400 then some ⟨0, Binary64.minExponent⟩
  else if 400 < magnitude then none
  else Binary64.nearest? (Fraction.scale ⟨digits, 1⟩ 10 exponent)

end ValueObjects.Number
