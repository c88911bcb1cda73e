import ValueObjects.Files.Access
import ValueObjects.Identifier
import ValueObjects.Manifest.ShapeProblem
import ValueObjects.TypeExpression

/-!
# Diagnostics

Why a manifest is refused, where its text shows that, and what to do about it.
-/

namespace ValueObjects

/-! ## Causes -/

/-- What a name is the name of. -/
inductive Role
  | valueObject
  | namespaceSegment
deriving DecidableEq, Repr

/-- The words for a role. -/
def Role.name : Role → String
  | valueObject => "value object"
  | namespaceSegment => "namespace segment"

/-- Why a manifest is refused. -/
inductive Cause
  /-- The text is not a document at all, for the reason that its reader gives. -/
  | malformed (message : String)
  | misshapen (problem : ShapeProblem)
  /-- The settings contradict each other. -/
  | inconsistent (message : String)
  | reservedKeyword (name : String) (role : Role)
  | invalidIdentifier (name : String) (role : Role) (flaw : IdentifierFlaw)
  | invalidInnerType (valueObject inner : String) (flaw : TypeFlaw)
deriving DecidableEq, Repr

/-- A refusal: the name of the text, the place in it and the cause. -/
structure Diagnostic where
  source : String
  span : Option Span
  cause : Cause
deriving DecidableEq, Repr

/-- Why there is no manifest. -/
inductive LoadError
  | unreadable (path : Path) (fault : Fault)
  | rejected (diagnostic : Diagnostic)
deriving DecidableEq, Repr

/-! ## Words -/

namespace Cause

/-- Say what is wrong. -/
def message : Cause → String
  | malformed _ => "failed to parse tvo.toml"
  | misshapen _ => "failed to parse tvo.toml"
  | inconsistent message => message
  | reservedKeyword name _ => "'" ++ name ++ "' is a C# reserved keyword"
  | invalidIdentifier name role _ => "invalid " ++ role.name ++ " name '" ++ name ++ "'"
  | invalidInnerType valueObject inner _ =>
    "invalid inner type '" ++ inner ++ "' for value object '" ++ valueObject ++ "'"

/-- The code of a kind of cause. -/
def code : Cause → String
  | malformed _ => "tvo::parse_error"
  | misshapen _ => "tvo::parse_error"
  | inconsistent _ => "tvo::validation_error"
  | reservedKeyword _ _ => "tvo::reserved_keyword"
  | invalidIdentifier _ _ _ => "tvo::invalid_identifier"
  | invalidInnerType _ _ _ => "tvo::invalid_inner_type"

/-- Say what to do about it. -/
def help : Cause → Option String
  | malformed _ => none
  | misshapen _ => none
  | inconsistent _ => none
  | reservedKeyword name role => some ("rename the " ++ role.name ++ " '" ++ name ++ "' to something else")
  | invalidIdentifier _ _ flaw =>
    some (flaw.reason
      ++ ". Use only letters, numbers, and underscores, starting with a letter or underscore.")
  | invalidInnerType _ _ flaw => some (flaw.reason ++ ", e.g. 'string', 'int' or 'global::System.Guid'")

/-- What stands at the place in the text. -/
def label : Cause → String
  | malformed _ => "parse error here"
  | misshapen _ => "parse error here"
  | inconsistent message => message
  | reservedKeyword _ _ => "reserved keyword used here"
  | invalidIdentifier _ _ _ => "invalid identifier"
  | invalidInnerType _ _ _ => "invalid type"

end Cause

namespace LoadError

/-- Say what is wrong. -/
def message : LoadError → String
  | unreadable path _ => "failed to read '" ++ path.text ++ "'"
  | rejected d => d.cause.message

/-- The code of a kind of error, if it has one. -/
def code : LoadError → Option String
  | unreadable _ _ => none
  | rejected d => some d.cause.code

/-- Say what to do about it. -/
def help : LoadError → Option String
  | unreadable _ _ => some "create a tvo.toml declaring [value_objects.<Name>] tables"
  | rejected d => d.cause.help

end LoadError

end ValueObjects
