import ValueObjects.Span
import ValueObjects.Text.Search

/-!
# Places of names and values

Where a manifest's text mentions what is wrong. The text is searched as it is, without regard to its structure, for a
few ways of writing a name or a value, one way after another; the leftmost occurrence of the first way that occurs is
the place.
-/

namespace ValueObjects.Places

/-- A way of writing something: what stands in front of it, the thing itself, and what stands behind it. -/
structure Pattern where
  before : String
  subject : String
  after : String

/-- The text that is searched for. -/
def Pattern.text (p : Pattern) : String := p.before ++ p.subject ++ p.after

/-- The place of the subject in the leftmost occurrence of a pattern. -/
def Pattern.find? (p : Pattern) (text : String) : Option Span :=
  (Text.findOffset? p.text.toList text.toList).map fun offset =>
    ⟨offset + p.before.utf8ByteSize, p.subject.utf8ByteSize⟩

/-- The ways in which a header writes the name of a value object. -/
def namePatterns (name : String) : List Pattern := [⟨".", name, "]"⟩, ⟨".", name, "."⟩]

/-- The ways in which a line sets a key to a text. -/
def valuePatterns (key value : String) : List Pattern :=
  ["\"", "'"].flatMap fun quote => [" = ", "="].map fun sign => ⟨key ++ sign ++ quote, value, quote⟩

/-- Find the name of a value object. -/
def ofName? (text name : String) : Option Span := (namePatterns name).findSome? (·.find? text)

/-- Find a text that a key is set to. -/
def ofValue? (text key value : String) : Option Span := (valuePatterns key value).findSome? (·.find? text)

end ValueObjects.Places
