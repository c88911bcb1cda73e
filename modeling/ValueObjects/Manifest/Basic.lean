import ValueObjects.Path
import ValueObjects.SourceFile

/-!
# Manifests

A manifest declares value objects in an order of its own, with settings for each of them and for the generator. What
a setting leaves open is resolved here.
-/

namespace ValueObjects

/-! ## Value objects -/

/-- What a manifest says about one value object. -/
structure ValueObjectSettings where
  /-- The type that it wraps. -/
  inner : String
  /-- Whether a bare value may be absent, if that is said. -/
  nullable : Option Bool
  defaultValue : Bool
  defaultEqualityComparer : Bool
  /-- Whether the inner type is one of identifiers, if that is said. -/
  guid : Option Bool
deriving DecidableEq, Repr

namespace ValueObjectSettings

/-- The settings decide whether the inner type is one of identifiers, or else its name does. -/
def isGuidLike (s : ValueObjectSettings) : Bool := s.guid.getD (isGuidTypeName s.inner)

/-- The settings decide whether a bare value may be absent; otherwise it may unless it is an identifier. -/
def isNullable (s : ValueObjectSettings) : Bool := s.nullable.getD (!s.isGuidLike)

/-- Resolve the settings of the value object with a name. -/
def descriptor (s : ValueObjectSettings) (name : String) : Descriptor where
  typeName := name
  innerTypeName := s.inner
  nullabilityMarker := if s.isNullable then "?" else ""
  hasDefaultValue := s.defaultValue
  hasDefaultEqualityComparer := s.defaultEqualityComparer
  isGuidLike := s.isGuidLike

/-- What sets the value object apart, in a few words. -/
def capabilities (s : ValueObjectSettings) : List String :=
  (if s.defaultValue then ["default value"] else [])
    ++ (if s.defaultEqualityComparer then ["equality comparer"] else [])
    ++ if s.isGuidLike then ["guid"] else []

end ValueObjectSettings

/-! ## Manifests -/

/-- What a manifest says about the generator. -/
structure GeneratorSettings where
  /-- The namespace of all generated types. -/
  namespaceName : Option String
  /-- Where the generated files go. -/
  output : Path
deriving DecidableEq, Repr

/-- Where generated files go if a manifest does not say so. -/
def defaultOutput : Path := ⟨"Generated"⟩

/-- The settings of a manifest that says nothing about the generator. -/
def GeneratorSettings.standard : GeneratorSettings := ⟨none, defaultOutput⟩

/-- Settings for the generator and for value objects, by name and in the order of their declaration. -/
structure Manifest where
  generator : GeneratorSettings
  valueObjects : List (String × ValueObjectSettings)
deriving DecidableEq, Repr

namespace Manifest

/-- The declared value objects with their settings resolved. -/
def descriptors (m : Manifest) : List Descriptor := m.valueObjects.map fun (name, settings) => settings.descriptor name

/-- Decide whether a value object is declared. -/
def declares (m : Manifest) (name : String) : Bool := m.valueObjects.any (·.1 == name)

/-- The generated file of each declared value object. -/
def sourceFiles (m : Manifest) : List SourceFile := m.descriptors.map (⟨·, m.generator.namespaceName⟩)

end Manifest

end ValueObjects
