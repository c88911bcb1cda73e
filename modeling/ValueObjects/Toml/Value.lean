import ValueObjects.Span
import ValueObjects.Text.Digits
import ValueObjects.Toml.DateTime

/-!
# Values of a document

What a document holds: texts, numbers, dates, lists of values, and tables of values by key in the order of the text.
Each value knows its place. A table also knows how it came to be, because that decides what may still be added to it.
-/

namespace ValueObjects.Toml

/-! ## Numbers -/

/-- An integer as it is written. The digits need not be digits of the base. -/
structure IntegerLiteral where
  negative : Bool
  base : Nat
  digits : List Char
deriving DecidableEq, Repr

/-- The number that an integer stands for. There is none without digits, or if some are not digits of the base. -/
def IntegerLiteral.value? (x : IntegerLiteral) : Option Int :=
  if x.digits ≠ [] ∧ x.digits.all (Text.isDigitOf x.base) then
    let n : Int := Text.ofDigits x.base x.digits
    some (if x.negative then -n else n)
  else none

/-- A floating-point number as it is written. -/
inductive FloatLiteral
  /-- `digits` times ten to the power `exponent`. -/
  | decimal (negative : Bool) (digits : Nat) (exponent : Int)
  | infinite (negative : Bool)
  | notANumber
deriving DecidableEq, Repr

/-! ## Values -/

/-- A key, with the place where it is written. -/
abbrev Key := Located String

/-- How an array came to be. -/
inductive ArrayKind
  /-- Written as a value. -/
  | written
  /-- Made of tables with a header in double brackets. -/
  | tables
deriving DecidableEq, Repr

/-- How a table came to be. -/
inductive TableKind
  /-- It has a header of its own, or is the document. -/
  | headed
  /-- It was named in a header of something inside it. -/
  | implied
  /-- It was named by a key with dots. -/
  | dotted
  /-- Written as a value. -/
  | written
deriving DecidableEq, Repr

/-- A value. A table is a list of keys with their values, in order. -/
inductive Value
  | text (value : String)
  | integer (value : IntegerLiteral)
  | float (value : FloatLiteral)
  | boolean (value : Bool)
  | dateTime (value : DateTime)
  | array (kind : ArrayKind) (items : List (Located Value))
  | table (kind : TableKind) (entries : List (Key × Located Value))

instance : Inhabited Value := ⟨.boolean false⟩

/-- The keys of a table with their values, in order. -/
abbrev Entries := List (Key × Located Value)

end ValueObjects.Toml
