import ValueObjects.Members

/-!
# Source files

The file that is generated for a value object: a header, the declaration of the type, and its members in a block.
-/

namespace ValueObjects

/-- The generated part of one value object, in a namespace or in none. -/
structure SourceFile where
  descriptor : Descriptor
  namespaceName : Option String
deriving DecidableEq, Repr

namespace SourceFile

open Outline

/-- The namespace of the interfaces that come with the library the generated code is for. -/
def augmentsNamespace : String := "global::TransparentValueObjects.Augments"

/-- The lines in front of the type. -/
def header (f : SourceFile) : Outline :=
  line "// <auto-generated/>" <|
  line "#nullable enable" <|
  match f.namespaceName with
  | some name => line ("namespace " ++ name ++ ";") <| blank done
  | none => blank done

/-- The attributes of the type, its name and its interfaces. -/
def declaration (d : Descriptor) : Outline :=
  line "[global::System.Diagnostics.DebuggerDisplay(\"\x7bValue\x7d\")]" <|
  line ("[global::System.Diagnostics.CodeAnalysis.ExcludeFromCodeCoverage(Justification = \"Auto-generated.\")]") <|
  line ("readonly partial struct " ++ d.typeName ++ " :") <|
  line ("\t" ++ augmentsNamespace ++ ".IValueObject<" ++ d.innerTypeName ++ ">,") <|
  line ("\tglobal::System.IEquatable<" ++ d.typeName ++ ">,") <|
  line ("\tglobal::System.IEquatable<" ++ d.innerTypeName ++ ">") done

/-- The field that holds the bare value. -/
def field (d : Descriptor) : Outline :=
  line ("public readonly " ++ d.innerTypeName ++ " " ++ Members.valueField ++ ";") <| blank done

/-- The whole file. -/
def outline (f : SourceFile) : Outline :=
  f.header ++ declaration f.descriptor ++ block (field f.descriptor ++ f.descriptor.members) done

/-- The text of the file. -/
def render (f : SourceFile) : String := f.outline.build

/-- The name of the file. -/
def fileName (f : SourceFile) : String := f.descriptor.fileName

end SourceFile

end ValueObjects
