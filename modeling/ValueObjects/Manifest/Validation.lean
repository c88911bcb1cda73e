import ValueObjects.Manifest.Basic
import ValueObjects.Manifest.Diagnostic
import ValueObjects.Manifest.Places

/-!
# Validation

The checks that a manifest of the right shape has to pass: its namespace and the names of its value objects must be
names, wrapped types must be type expressions, and nothing wraps itself. The first failure is reported.
-/

namespace ValueObjects

/-- The text of a manifest and its name, to say where something is wrong. -/
structure ManifestText where
  source : String
  text : String
deriving DecidableEq, Repr

/-- Why a name is refused, if it is. A keyword is reported as such. -/
def Cause.ofName? (name : String) (role : Role) : Option Cause :=
  if isKeyword name then some (.reservedKeyword name role)
  else (identifierFlaw? name).map (.invalidIdentifier name role)

namespace ManifestText

/-! ## Single checks -/

/-- Check the name of a value object. -/
def checkTypeName (t : ManifestText) (name : String) : Except Diagnostic Unit :=
  match Cause.ofName? name .valueObject with
  | some cause => .error ⟨t.source, Places.ofName? t.text name, cause⟩
  | none => .ok ()

/-- Check each name of a namespace. The place of an error is that of the whole namespace. -/
def checkNamespace (t : ManifestText) (name : String) : Except Diagnostic Unit :=
  match (namespaceSegments name).findSome? (Cause.ofName? · .namespaceSegment) with
  | some cause => .error ⟨t.source, Places.ofValue? t.text "namespace" name, cause⟩
  | none => .ok ()

/-- Check the type that a value object wraps. -/
def checkInnerType (t : ManifestText) (valueObject inner : String) : Except Diagnostic Unit :=
  match typeFlaw? inner with
  | some flaw => .error ⟨t.source, Places.ofValue? t.text "inner" inner, .invalidInnerType valueObject inner flaw⟩
  | none => .ok ()

/-- The diagnostic for settings of a value object that contradict each other. -/
def inconsistency (t : ManifestText) (message name : String) : Diagnostic :=
  ⟨t.source, Places.ofName? t.text name, .inconsistent message⟩

/-! ## Whole manifests -/

/-- Check a declared value object: its name, its inner type, and that they differ. -/
def checkValueObject (t : ManifestText) (name : String) (settings : ValueObjectSettings) : Except Diagnostic Unit := do
  t.checkTypeName name
  t.checkInnerType name settings.inner
  if settings.inner = name then throw (t.inconsistency ("value object '" ++ name ++ "' cannot wrap itself") name)

/-- Check a manifest: the namespace, then the value objects in their order. -/
def checkManifest (t : ManifestText) (m : Manifest) : Except Diagnostic Unit := do
  m.generator.namespaceName.forM t.checkNamespace
  m.valueObjects.forM fun (name, settings) => t.checkValueObject name settings

end ManifestText

end ValueObjects
