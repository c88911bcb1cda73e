import ValueObjects.Span
import ValueObjects.Text.Quoted

/-!
# Problems of shape

What can be wrong with a well-formed document that is not a manifest: keys that mean nothing, values of the wrong
kind, and settings that are missing.
-/

namespace ValueObjects

/-! ## Kinds of values -/

/-- The two records that a manifest consists of. -/
inductive RecordKind
  | generator
  | valueObject
deriving DecidableEq, Repr

namespace RecordKind

/-- The keys of a record, in the order in which they are read by position. -/
def keys : RecordKind → List String
  | generator => ["namespace", "output"]
  | valueObject => ["inner", "nullable", "default_value", "default_equality_comparer", "guid"]

/-- The name under which a message shows a record. -/
def name : RecordKind → String
  | generator => "struct GeneratorConfig"
  | valueObject => "struct ValueObjectConfig"

end RecordKind

/-- A kind of value that a manifest wants somewhere. -/
inductive Wanted
  | text
  | path
  | boolean
  | table
  | record (kind : RecordKind)
deriving DecidableEq, Repr

/-- The words for a wanted kind. -/
def Wanted.name : Wanted → String
  | text => "a string"
  | path => "path string"
  | boolean => "a boolean"
  | table => "a map"
  | record kind => kind.name

/-- A value that was found instead. -/
inductive Found
  | integer (value : Int)
  /-- A floating-point number, by its text. -/
  | float (text : String)
  | boolean (value : Bool)
  | text (value : String)
  | sequence
  | table
deriving DecidableEq, Repr

/-- Decide whether an integer fits into 64 bits, with or without a sign. -/
def isWord (n : Int) : Bool := -Int.pow 2 63 ≤ n && n < Int.pow 2 64

/-- Decide whether an integer fits into 128 bits with a sign. -/
def isDoubleWord (n : Int) : Bool := -Int.pow 2 127 ≤ n && n < Int.pow 2 127

/-- The words for a value. An integer of more than 64 bits is shown with the type that it fits into. -/
def Found.name : Found → String
  | integer n =>
    "integer `" ++ toString n ++ if isWord n then "`" else if isDoubleWord n then "` as i128" else "` as u128"
  | float t => "floating point `" ++ t ++ "`"
  | boolean b => "boolean `" ++ (if b then "true" else "false") ++ "`"
  | text s => "string " ++ Text.quoted s
  | sequence => "sequence"
  | table => "map"

/-! ## Problems -/

/-- What is wrong with the shape of a document. -/
inductive ShapeProblem
  | unknownKey (key : String) (known : List String)
  | missingKey (key : String)
  | wrongKind (found : Found) (wanted : Wanted)
  /-- A record read by position has too few elements: the one at an index is missing. -/
  | tooShort (index : Nat) (kind : RecordKind)
  | integerOverflow
  | floatOverflow
deriving DecidableEq, Repr

/-- Keys in backquotes, as the ones that could have been meant. -/
def alternatives (keys : List String) : String :=
  let shown := keys.map fun key => "`" ++ key ++ "`"
  match shown with
  | [] => "nothing"
  | [key] => key
  | [key, other] => key ++ " or " ++ other
  | _ => "one of " ++ ", ".intercalate shown

/-- Say what is wrong, in words. -/
def ShapeProblem.message : ShapeProblem → String
  | unknownKey key known => "unknown field `" ++ key ++ "`, expected " ++ alternatives known
  | missingKey key => "missing field `" ++ key ++ "`"
  | wrongKind found wanted => "invalid type: " ++ found.name ++ ", expected " ++ wanted.name
  | tooShort index kind =>
    "invalid length " ++ toString index ++ ", expected " ++ kind.name ++ " with " ++ toString kind.keys.length
      ++ " elements"
  | integerOverflow => "integer number overflowed"
  | floatOverflow => "floating-point number overflowed"

end ValueObjects
