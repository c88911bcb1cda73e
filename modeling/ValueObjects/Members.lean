import ValueObjects.Code.Outline
import ValueObjects.Descriptor

/-!
# Members

The members of a value object, one outline for each family of members, and all of them in their fixed order. Each
family depends on the names and on the one capability that it is about, on nothing else.
-/

namespace ValueObjects.Members

open Outline

/-! ## Names that the generated code uses -/

/-- The field that holds the wrapped value. -/
def valueField : String := "Value"

/-- The method that makes a value object from a bare value. -/
def factoryMethod : String := "From"

/-- The property that a type with a default value provides. -/
def defaultValueProperty : String := "DefaultValue"

/-- The property that a type with an equality comparer of its own provides. -/
def comparerProperty : String := "InnerValueDefaultEqualityComparer"

/-! ## Constructors -/

/-- What the forbidden constructor says, as an interpolated string of the generated code. -/
def useFactoryMessage (typeName : String) : String :=
  "$\"Use " ++ typeName ++ ".\x7bnameof(" ++ factoryMethod ++ ")\x7d instead.\""

/-- The constructor without parameters. It takes the default value if there is one; otherwise it must not be used and
sends its callers to the factory. -/
def publicConstructor (typeName : String) (hasDefaultValue : Bool) : Outline :=
  if hasDefaultValue then
    line ("public " ++ typeName ++ "()") <|
    block (line (valueField ++ " = " ++ defaultValueProperty ++ "." ++ valueField ++ ";") done) done
  else
    line ("[global::System.Obsolete(" ++ useFactoryMessage typeName ++ ", error: true)]") <|
    line ("public " ++ typeName ++ "()") <|
    block (line ("throw new global::System.InvalidOperationException(" ++ useFactoryMessage typeName ++ ");") done) done

/-- The constructor that stores a bare value. -/
def privateConstructor (typeName inner : String) : Outline :=
  line ("private " ++ typeName ++ "(" ++ inner ++ " value)") <|
  block (line (valueField ++ " = value;") done) done

/-- The factory, which hands over to the private constructor. -/
def factory (typeName inner : String) : Outline :=
  line ("public static " ++ typeName ++ " " ++ factoryMethod ++ "(" ++ inner ++ " value) => new(value);") <|
  blank done

/-! ## Equality -/

/-- Hash code and text, both those of the bare value. -/
def baseMethods : Outline :=
  line ("public override int GetHashCode() => " ++ valueField ++ ".GetHashCode();") <| blank <|
  line ("public override string ToString() => " ++ valueField ++ ".ToString();") <| blank done

/-- How two bare values are compared. -/
def innerEquality (hasDefaultEqualityComparer : Bool) : String :=
  if hasDefaultEqualityComparer then comparerProperty ++ ".Equals(" ++ valueField ++ ", other)"
  else valueField ++ ".Equals(other)"

/-- Equality with another value object. -/
def equalsSame (typeName : String) : Outline :=
  line ("public bool Equals(" ++ typeName ++ " other) => Equals(other." ++ valueField ++ ");") done

/-- Equality with a bare value, the only overload that an own comparer changes. -/
def equalsInner (inner nullabilityMarker : String) (hasDefaultEqualityComparer : Bool) : Outline :=
  line ("public bool Equals(" ++ inner ++ nullabilityMarker ++ " other) => "
    ++ innerEquality hasDefaultEqualityComparer ++ ";") done

/-- Equality by a comparer that the caller brings, and equality with any object. A value object is looked for before a
bare value. -/
def equalsOthers (typeName inner : String) : Outline :=
  line ("public bool Equals(" ++ typeName ++ " other, global::System.Collections.Generic.IEqualityComparer<" ++ inner
    ++ "> comparer) => comparer.Equals(" ++ valueField ++ ", other." ++ valueField ++ ");") <|
  line "public override bool Equals(object? obj)" <|
  block
    (line "if (obj is null) return false;" <|
     line ("if (obj is " ++ typeName ++ " value) return Equals(value);") <|
     line ("if (obj is " ++ inner ++ " innerValue) return Equals(innerValue);") <|
     line "return false;" done)
    done

/-- All overloads of equality. -/
def equalsMethods (typeName inner nullabilityMarker : String) (hasDefaultEqualityComparer : Bool) : Outline :=
  equalsSame typeName ++ equalsInner inner nullabilityMarker hasDefaultEqualityComparer ++ equalsOthers typeName inner

/-- One comparison operator. -/
def equalityOperator (operator left right body : String) : String :=
  "public static bool operator " ++ operator ++ "(" ++ left ++ " left, " ++ right ++ " right) => " ++ body ++ ";"

/-- The comparison operators for each pair of operands in which there is a value object. -/
def equalityOperators (typeName inner : String) : Outline :=
  line (equalityOperator "==" typeName typeName "left.Equals(right)") <|
  line (equalityOperator "!=" typeName typeName "!left.Equals(right)") <|
  blank <|
  line (equalityOperator "==" typeName inner "left.Equals(right)") <|
  line (equalityOperator "!=" typeName inner "!left.Equals(right)") <|
  line (equalityOperator "==" inner typeName "right.Equals(left)") <|
  line (equalityOperator "!=" inner typeName "!right.Equals(left)") <|
  blank done

/-! ## Conversions and identifiers -/

/-- The conversions from and to a bare value. -/
def explicitCasts (typeName inner : String) : Outline :=
  line ("public static explicit operator " ++ typeName ++ "(" ++ inner ++ " value) => " ++ factoryMethod
    ++ "(value);") <|
  line ("public static explicit operator " ++ inner ++ "(" ++ typeName ++ " value) => value." ++ valueField ++ ";") <|
  blank done

/-- The factory of new identifiers. -/
def newIdentifier (typeName inner : String) : Outline :=
  line ("public static " ++ typeName ++ " NewId() => " ++ factoryMethod ++ "(" ++ inner ++ ".NewGuid());") <|
  blank done

end Members

/-! ## All members -/

/-- The members of a value object in their order. The factory of new identifiers comes last. -/
def Descriptor.members (d : Descriptor) : Outline :=
  Members.publicConstructor d.typeName d.hasDefaultValue
    ++ Members.privateConstructor d.typeName d.innerTypeName
    ++ Members.factory d.typeName d.innerTypeName
    ++ Members.baseMethods
    ++ Members.equalsMethods d.typeName d.innerTypeName d.nullabilityMarker d.hasDefaultEqualityComparer
    ++ Members.equalityOperators d.typeName d.innerTypeName
    ++ Members.explicitCasts d.typeName d.innerTypeName
    ++ if d.isGuidLike then Members.newIdentifier d.typeName d.innerTypeName else .done

/-- The text of the members alone. -/
def Descriptor.renderMembers (d : Descriptor) : String := d.members.build

end ValueObjects
