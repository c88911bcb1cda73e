import ValueObjects.Text.Blank

/-!
# Type expressions

How a wrapped type may be written: a qualified name, possibly with type arguments and array brackets. Only the
characters, the blanks around them and the balance of the angle brackets are looked at.
-/

namespace ValueObjects

/-! ## Characters and brackets -/

/-- Decide whether a character can appear in a type expression. -/
def isTypeCharacter (c : Char) : Bool := c.isAlphanum || "_.:<>, []".toList.contains c

/-- Read angle brackets with `depth` of them open. There is never one closed that was not open, and none stays open. -/
def balancedFrom (depth : Nat) : List Char → Bool
  | [] => depth == 0
  | '<' :: cs => balancedFrom (depth + 1) cs
  | '>' :: cs =>
    match depth with
    | 0 => false
    | n + 1 => balancedFrom n cs
  | _ :: cs => balancedFrom depth cs

/-! ## Flaws -/

/-- What is wrong with a type expression. -/
inductive TypeFlaw
  | empty
  | surroundingBlanks
  | nullable
  | badCharacter
  | unbalanced
deriving DecidableEq, Repr

/-- Say what is wrong, in words. -/
def TypeFlaw.reason : TypeFlaw → String
  | empty => "the inner type cannot be empty"
  | surroundingBlanks => "the inner type cannot have surrounding whitespace"
  | nullable => "the inner type cannot be nullable, use 'nullable = true' instead"
  | badCharacter => "the inner type contains characters that cannot appear in a type name"
  | unbalanced => "the inner type has unbalanced angle brackets"

/-- Find what is wrong with a type expression: the first flaw in the order of their list. -/
def typeFlaw? (expression : String) : Option TypeFlaw :=
  let cs := expression.toList
  if Text.trim cs = [] then some .empty
  else if cs ≠ Text.trim cs then some .surroundingBlanks
  -- a question mark is a bad character anywhere, but at the end there is more to say about it
  else if cs.getLast? = some '?' then some .nullable
  else if !cs.all isTypeCharacter then some .badCharacter
  else if !balancedFrom 0 cs then some .unbalanced
  else none

end ValueObjects
