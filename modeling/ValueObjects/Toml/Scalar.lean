import ValueObjects.Text.Digits
import ValueObjects.Toml.Value

/-!
# Unquoted values

Truth values, numbers and dates, each read from its whole text.
-/

namespace ValueObjects.Toml

/-! ## Digits -/

/-- Take the underscores out of a number. Each has to stand between two digits. -/
def ungrouped? (isDigit : Char → Bool) : List Char → Option (List Char)
  | [] => some []
  | '_' :: _ => none
  | c :: '_' :: cs => if isDigit c ∧ cs.head?.any isDigit then (ungrouped? isDigit cs).map (c :: ·) else none
  | c :: cs => (ungrouped? isDigit cs).map (c :: ·)

/-- Decide whether a number without its sign begins with a zero in front of another digit. -/
def hasIdleZero : List Char → Bool
  | '0' :: c :: _ => c.isDigit || c == '_'
  | _ => false

/-- Split off a sign and tell whether it is a minus. -/
def signed : List Char → Bool × List Char
  | '-' :: cs => (true, cs)
  | '+' :: cs => (false, cs)
  | cs => (false, cs)

/-! ## Integers -/

/-- Read the digits of an integer in a base that is not ten. There may be none. -/
def radix? (base : Nat) (cs : List Char) : Option IntegerLiteral := do
  let digits ← ungrouped? (Text.isDigitOf base) cs
  if digits.all (Text.isDigitOf base) then some ⟨false, base, digits⟩ else none

/-- Decide whether a number without its sign is taken for a decimal integer: it consists of digits, or of digits up to
an underscore and of anything behind it that has no point, no mark of a power of ten and no space. Tabs are allowed. -/
def isWhole (cs : List Char) : Bool :=
  match cs.dropWhile Char.isDigit with
  | [] => !cs.isEmpty
  | c :: rest => c == '_' && rest.all fun c => !(['.', 'e', 'E', ' '].contains c)

/-- Read a decimal integer. Only its underscores are looked at here; they may stand between digits of base sixteen. -/
def decimal? (cs : List Char) : Option IntegerLiteral := do
  let unsigned := (signed cs).2
  if hasIdleZero unsigned ∨ !isWhole unsigned then none
  let (negative, digits) := signed (← ungrouped? (Text.isDigitOf 16) cs)
  return ⟨negative, 10, digits⟩

/-- Read an integer: decimal with an optional sign, or in base sixteen, eight or two without one. -/
def integer? : List Char → Option IntegerLiteral
  | '0' :: 'x' :: cs => radix? 16 cs
  | '0' :: 'o' :: cs => radix? 8 cs
  | '0' :: 'b' :: cs => radix? 2 cs
  | cs => decimal? cs

/-! ## Floating-point numbers -/

/-- Split off digits, of which there has to be at least one. -/
def digits? (cs : List Char) : Option (List Char × List Char) :=
  let digits := cs.takeWhile Char.isDigit
  if digits = [] then none else some (digits, cs.dropWhile Char.isDigit)

/-- Read the fraction of a floating-point number, if there is one. -/
def fractionDigits? : List Char → Option (List Char × List Char)
  | '.' :: cs => digits? cs
  | cs => some ([], cs)

/-- Read the power of ten at the end of a floating-point number. Nothing is the power zero. -/
def exponent? : List Char → Option Int
  | [] => some 0
  | c :: cs =>
    if c = 'e' ∨ c = 'E' then do
      let (negative, cs) := signed cs
      let (digits, rest) ← digits? cs
      if rest ≠ [] then none
      let n : Int := Text.ofDigits 10 digits
      return if negative then -n else n
    else none

/-- Read a floating-point number: a whole part, then a fraction, a power of ten or both. -/
def float? (cs : List Char) : Option FloatLiteral :=
  let (negative, unsigned) := signed cs
  if unsigned = "inf".toList then some (.infinite negative)
  else if unsigned = "nan".toList then some .notANumber
  else do
    if hasIdleZero unsigned then none
    let (whole, rest) ← digits? (signed (← ungrouped? Char.isDigit cs)).2
    if rest = [] then none
    let (fraction, rest) ← fractionDigits? rest
    let exponent ← exponent? rest
    return .decimal negative (Text.ofDigits 10 (whole ++ fraction)) (exponent - (fraction.length : Int))

/-! ## All of them -/

/-- Read an unquoted value. -/
def Value.ofScalar? (cs : List Char) : Option Value :=
  if cs = "true".toList then some (.boolean true)
  else if cs = "false".toList then some (.boolean false)
  else
    ((integer? cs).map .integer).or (((float? cs).map .float).or ((DateTime.ofText? cs).map .dateTime))

end ValueObjects.Toml
