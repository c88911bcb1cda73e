import ValueObjects.Text.Blank
import ValueObjects.Text.Search

/-!
# Descriptors

What is known about one value object when its source is written: its own name, the type it wraps and the members it
is given. Names are taken as they are; the manifest is where they are checked.
-/

namespace ValueObjects

/-! ## Descriptors -/

/-- One value object, with every setting resolved. -/
structure Descriptor where
  /-- The name of the value object. -/
  typeName : String
  /-- The type that it wraps. -/
  innerTypeName : String
  /-- Written behind the inner type where a bare value may be absent. -/
  nullabilityMarker : String
  /-- The type has a default value to construct it from. -/
  hasDefaultValue : Bool
  /-- The type has an equality comparer of its own for bare values. -/
  hasDefaultEqualityComparer : Bool
  /-- The type can make new values out of new identifiers. -/
  isGuidLike : Bool
deriving DecidableEq, Repr

namespace Descriptor

/-- A value object without any extras. -/
def plain (typeName innerTypeName : String) : Descriptor :=
  ⟨typeName, innerTypeName, "", false, false, false⟩

/-- Set what is written behind the inner type where a bare value may be absent. -/
def withNullabilityMarker (d : Descriptor) (marker : String) : Descriptor :=
  { d with nullabilityMarker := marker }

/-- Let a bare value be absent. -/
def nullable (d : Descriptor) : Descriptor := d.withNullabilityMarker "?"

/-- Give the type a default value. -/
def withDefaultValue (d : Descriptor) : Descriptor := { d with hasDefaultValue := true }

/-- Give the type an equality comparer of its own. -/
def withDefaultEqualityComparer (d : Descriptor) : Descriptor := { d with hasDefaultEqualityComparer := true }

/-- Let the type make new identifiers. -/
def guidLike (d : Descriptor) : Descriptor := { d with isGuidLike := true }

/-- The name of the file that holds the type's generated part. -/
def fileName (d : Descriptor) : String := d.typeName ++ ".g.cs"

end Descriptor

/-! ## Identifier types -/

/-- Decide whether a type name refers to the type of globally unique identifiers. Blanks around it do not matter, and
each of the two qualifiers may be left out. -/
def isGuidTypeName (name : String) : Bool :=
  let bare := Text.withoutLeading "System.".toList (Text.withoutLeading "global::".toList (Text.trim name.toList))
  bare == "Guid".toList

end ValueObjects
