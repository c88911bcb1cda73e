import ValueObjects.Number.Binary64

/-!
# The shortest decimal text of a double

A double is written with the fewest digits that read back as the same double, in positional notation, and always
with a point.
-/

namespace ValueObjects.Number

/-! ## What reads back -/

/-- Decide whether a fraction reads back as this positive double: it lies between the midpoints to the neighbours,
which count if the mantissa is even. Below a power of two the neighbour is only half as far away. -/
def Binary64.readsBack (x : Binary64) (y : Fraction) : Bool :=
  -- both midpoints are whole numbers of quarters of the last bit
  let quarter (n : Nat) : Fraction := Fraction.scale ⟨n, 4⟩ 2 x.exponent
  let gap := if x.mantissa = Nat.pow 2 52 ∧ Binary64.minExponent < x.exponent then 1 else 2
  let low := quarter (4 * x.mantissa - gap)
  let high := quarter (4 * x.mantissa + 2)
  if x.mantissa % 2 = 0 then low.le y && y.le high else low.lt y && y.lt high

/-! ## The fewest digits -/

/-- A decimal number: `digits` times ten to the power `exponent`. -/
structure Decimal where
  digits : Nat
  exponent : Int
deriving DecidableEq, Repr

/-- The number as a fraction. -/
def Decimal.fraction (d : Decimal) : Fraction := Fraction.scale ⟨d.digits, 1⟩ 10 d.exponent

/-- The number of decimal places before the point of a positive fraction; negative for leading zeros behind it. -/
def Fraction.decimalPlaces (x : Fraction) : Int :=
  let guess : Int := ((Nat.toDigits 10 x.num).length : Int) - ((Nat.toDigits 10 x.den).length : Int)
  if (Fraction.scale ⟨1, 1⟩ 10 guess).le x then guess + 1 else guess

/-- The multiple of a power of ten that reads back, if one does: the one below the double or the one above it, and of
two the nearer; the one above it, if both are equally near. -/
def Binary64.onGrid? (x : Binary64) (exponent : Int) : Option Decimal :=
  let value := x.fraction.scale 10 (-exponent)
  let below : Decimal := ⟨value.floor, exponent⟩
  let above : Decimal := ⟨below.digits + 1, exponent⟩
  match x.readsBack below.fraction, x.readsBack above.fraction with
  | true, true => if value.roundUp = below.digits then some below else some above
  | true, false => some below
  | false, true => some above
  | false, false => none

/-- The shortest decimal that reads back as a positive double. Seventeen digits always do. -/
def Binary64.shortest (x : Binary64) : Decimal :=
  let places := x.fraction.decimalPlaces
  -- the coarsest grid leaves one digit
  let grids : List Int := (List.range 17).map fun (n : Nat) => places - 1 - Int.ofNat n
  (grids.findSome? x.onGrid?).getD ⟨0, 0⟩

/-! ## Positional notation -/

/-- Write digits with the point `exponent` places behind their end. There is at least one digit on each side of the
point and no zero at the end that is not needed for that. -/
def positional (digits : List Char) (exponent : Int) : List Char :=
  let zeros := (digits.reverse.takeWhile (· == '0')).length
  let digits := digits.take (digits.length - zeros)
  let exponent := exponent + (zeros : Int)
  let whole := (digits.length : Int) + exponent
  if 0 ≤ exponent then digits ++ List.replicate exponent.toNat '0' ++ ['.', '0']
  else if 0 < whole then digits.take whole.toNat ++ '.' :: digits.drop whole.toNat
  else ['0', '.'] ++ List.replicate (-whole).toNat '0' ++ digits

/-- Write a finite non-negative double. -/
def Binary64.text (x : Binary64) : String :=
  if x.mantissa = 0 then "0.0"
  else
    let d := x.shortest
    String.ofList (positional (Nat.toDigits 10 d.digits) d.exponent)

end ValueObjects.Number
