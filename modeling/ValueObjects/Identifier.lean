import ValueObjects.Text.Split

/-!
# Identifiers

Which names the generated language accepts for a type or a part of a namespace: a letter or an underscore, then
letters, digits and underscores, all of them ASCII, and not a word that the language keeps for itself.
-/

namespace ValueObjects

/-! ## Reserved words -/

/-- The words that cannot be names. -/
def keywords : List String :=
  ["abstract", "as", "base", "bool", "break", "byte", "case", "catch", "char", "checked",
   "class", "const", "continue", "decimal", "default", "delegate", "do", "double", "else",
   "enum", "event", "explicit", "extern", "false", "finally", "fixed", "float", "for",
   "foreach", "goto", "if", "implicit", "in", "int", "interface", "internal", "is", "lock",
   "long", "namespace", "new", "null", "object", "operator", "out", "override", "params",
   "private", "protected", "public", "readonly", "ref", "return", "sbyte", "sealed", "short",
   "sizeof", "stackalloc", "static", "string", "struct", "switch", "this", "throw", "true",
   "try", "typeof", "uint", "ulong", "unchecked", "unsafe", "ushort", "using", "virtual",
   "void", "volatile", "while"]

/-- Decide whether a name is a reserved word. -/
def isKeyword (name : String) : Bool := keywords.contains name

/-! ## Form -/

/-- Decide whether a character may begin a name. -/
def isNameStart (c : Char) : Bool := c.isAlpha || c == '_'

/-- Decide whether a character may stand inside a name. -/
def isNamePart (c : Char) : Bool := c.isAlphanum || c == '_'

/-- What is wrong with the form of a name. -/
inductive IdentifierFlaw
  | empty
  | badStart
  | badCharacter
deriving DecidableEq, Repr

/-- Say what is wrong, in words. -/
def IdentifierFlaw.reason : IdentifierFlaw → String
  | empty => "name cannot be empty"
  | badStart => "name must start with a letter or underscore"
  | badCharacter => "name must contain only letters, numbers, and underscores"

/-- Find what is wrong with the form of a name, looking at its first character first. -/
def identifierFlaw? (name : String) : Option IdentifierFlaw :=
  match name.toList with
  | [] => some .empty
  | c :: cs =>
    if !isNameStart c then some .badStart
    else if cs.all isNamePart then none
    else some .badCharacter

/-- The names between the dots of a namespace. -/
def namespaceSegments (name : String) : List String := (Text.split '.' name.toList).map String.ofList

/-- The names that the language accepts. -/
def IsIdentifier (name : String) : Prop :=
  (∃ c cs, name.toList = c :: cs ∧ isNameStart c ∧ ∀ d ∈ cs, isNamePart d) ∧ name ∉ keywords

end ValueObjects
