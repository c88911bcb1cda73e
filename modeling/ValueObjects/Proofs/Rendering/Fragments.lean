import ValueObjects.Proofs.Rendering.Injectivity

/-!
# Fragments of members

The members of a value object are five fragments, one behind the other. Each setting of a value object has a fragment of
its own, which it changes; the two fragments between these depend on the names only. This is so for members alone and
for members inside the block of a source file.
-/

namespace ValueObjects

open Outline

namespace Members

/-! ## Fragments -/

/-- The default constructor, with the line in front of it that forbids its use if there is no default value. -/
def construction (depth : Nat) (typeName : String) (hasDefaultValue : Bool) : String :=
  (publicConstructor typeName hasDefaultValue).print depth

/-- All that stands between the default constructor and equality with a bare value. -/
def upToEquality (depth : Nat) (typeName inner : String) : String :=
  (privateConstructor typeName inner ++ factory typeName inner ++ baseMethods ++ equalsSame typeName).print depth

/-- Equality with a bare value. -/
def bareEquality (depth : Nat) (inner nullabilityMarker : String) (hasDefaultEqualityComparer : Bool) : String :=
  (equalsInner inner nullabilityMarker hasDefaultEqualityComparer).print depth

/-- All that stands behind equality with a bare value, but for the factory of new identifiers. -/
def behindEquality (depth : Nat) (typeName inner : String) : String :=
  (equalsOthers typeName inner ++ equalityOperators typeName inner ++ explicitCasts typeName inner).print depth

/-- The factory of new identifiers, if there is one. -/
def identifiers (depth : Nat) (typeName inner : String) (isGuidLike : Bool) : String :=
  (if isGuidLike then newIdentifier typeName inner else done).print depth

variable {depth : Nat} {typeName inner : String}

/-! ### Default values -/

/-- The default constructor begins with an attribute, unless there is a default value. -/
theorem toList_construction (depth : Nat) (typeName : String) (hasDefaultValue : Bool) :
    ∃ rest, (construction depth typeName hasDefaultValue).toList =
      (margin depth).toList ++ (if hasDefaultValue then 'p' else '[') :: rest := by
  cases hasDefaultValue with
  | true =>
    simp only [construction, publicConstructor, if_true, print, String.toList_append, List.append_assoc]
    exact ⟨_, rfl⟩
  | false =>
    simp only [construction, publicConstructor, Bool.false_eq_true, if_false, print, String.toList_append,
      List.append_assoc]
    exact ⟨_, rfl⟩

theorem construction_eq_iff {b c : Bool} :
    construction depth typeName b = construction depth typeName c ↔ b = c := by
  constructor
  · intro heq
    obtain ⟨rest, hb⟩ := toList_construction depth typeName b
    obtain ⟨rest', hc⟩ := toList_construction depth typeName c
    rw [heq, hc, List.append_cancel_left_eq, List.cons.injEq] at hb
    cases b <;> cases c <;> simp_all
  · rintro rfl
    rfl

/-! ### Bare values -/

theorem bareEquality_eq (depth : Nat) (inner nullabilityMarker : String) (hasDefaultEqualityComparer : Bool) :
    bareEquality depth inner nullabilityMarker hasDefaultEqualityComparer =
      margin depth ++ "public bool Equals(" ++ inner ++ nullabilityMarker ++ " other) => "
        ++ (if hasDefaultEqualityComparer then "InnerValueDefaultEqualityComparer.Equals(Value, other)"
            else "Value.Equals(other)") ++ ";\n" := by
  cases hasDefaultEqualityComparer <;>
    simp [bareEquality, equalsInner, print, innerEquality, comparerProperty, valueField, ← String.toList_inj]

theorem bareEquality_eq_iff {marker marker' : String} {b c : Bool} :
    bareEquality depth inner marker b = bareEquality depth inner marker' c ↔ marker = marker' ∧ b = c := by
  constructor
  · intro heq
    simp only [bareEquality, equalsInner, print, String.append_left_inj, String.append_right_inj] at heq
    -- behind the marker there are words that tell the two ways to compare apart
    have hcomparer : b = c := by
      cases b <;> cases c
      case false.false | true.true => rfl
      case false.true => exact absurd heq.symm (append_innerEquality_ne _ _)
      case true.false => exact absurd heq (append_innerEquality_ne _ _)
    subst hcomparer
    simp only [String.append_left_inj, String.append_right_inj] at heq
    exact ⟨heq, rfl⟩
  · rintro ⟨rfl, rfl⟩
    rfl

/-! ### New identifiers -/

theorem identifiers_true (depth : Nat) (typeName inner : String) : identifiers depth typeName inner true =
    margin depth ++ "public static " ++ typeName ++ " NewId() => From(" ++ inner ++ ".NewGuid());\n" ++ "\n" := by
  simp [identifiers, newIdentifier, print, factoryMethod, ← String.toList_inj]

theorem identifiers_false (depth : Nat) (typeName inner : String) : identifiers depth typeName inner false = "" := rfl

end Members

open Members

/-! ## Value objects -/

namespace Descriptor

/-- The fragments that the members of a value object are made of. -/
def fragments (d : Descriptor) (depth : Nat) : List String :=
  [construction depth d.typeName d.hasDefaultValue,
   upToEquality depth d.typeName d.innerTypeName,
   bareEquality depth d.innerTypeName d.nullabilityMarker d.hasDefaultEqualityComparer,
   behindEquality depth d.typeName d.innerTypeName,
   identifiers depth d.typeName d.innerTypeName d.isGuidLike]

/-- The members at any depth are their fragments, in order. -/
theorem print_members (d : Descriptor) (depth : Nat) : d.members.print depth = String.join (d.fragments depth) := by
  simp [members, equalsMethods, fragments, construction, upToEquality, bareEquality, behindEquality, identifiers,
    print_append, String.append_assoc, String.join]

end Descriptor

/-- All that stands in a source file in front of the members. -/
def SourceFile.opening (namespaceName : Option String) (typeName inner : String) : String :=
  let plain : SourceFile := ⟨.plain typeName inner, namespaceName⟩
  (plain.header ++ declaration plain.descriptor).print 0 ++ "\x7b\n" ++ (field plain.descriptor).print 1

/-- The members of a source file are between what depends on names only and the closing brace of the type. -/
theorem SourceFile.render_eq_fragments (d : Descriptor) (namespaceName : Option String) :
    SourceFile.render ⟨d, namespaceName⟩ =
      opening namespaceName d.typeName d.innerTypeName ++ String.join (d.fragments 1) ++ "\x7d\n\n" := by
  rw [render, build_eq, SourceFile.outline, print_append, print, print, print_append 1 (field d), d.print_members]
  simp [← String.toList_inj, opening, header, declaration, field, Descriptor.plain]

/-- The fragments make up the members wherever they are written: alone, behind what a builder holds already and at its
depth, or in a source file. A setting changes the one fragment that is made from it and no other one. -/
theorem Descriptor.settings_change_own_fragments (d : Descriptor) :
    d.renderMembers = String.join (d.fragments 0)
    ∧ (∀ b : CodeBuilder, b.write d.members = ⟨b.depth, b.text ++ String.join (d.fragments b.depth)⟩)
    ∧ (∀ namespaceName, SourceFile.render ⟨d, namespaceName⟩ =
      SourceFile.opening namespaceName d.typeName d.innerTypeName ++ String.join (d.fragments 1) ++ "\x7d\n\n")
    ∧ ∀ (depth : Nat) (marker : String) (value comparer guid : Bool),
      fragments { d with nullabilityMarker := marker, hasDefaultValue := value, hasDefaultEqualityComparer := comparer,
                         isGuidLike := guid } depth =
        [construction depth d.typeName value,
         upToEquality depth d.typeName d.innerTypeName,
         margin depth ++ "public bool Equals(" ++ d.innerTypeName ++ marker ++ " other) => "
          ++ (if comparer then "InnerValueDefaultEqualityComparer.Equals(Value, other)" else "Value.Equals(other)")
          ++ ";\n",
         behindEquality depth d.typeName d.innerTypeName,
         if guid then
          margin depth ++ "public static " ++ d.typeName ++ " NewId() => From(" ++ d.innerTypeName
            ++ ".NewGuid());\n" ++ "\n"
         else ""]
      ∧ (construction depth d.typeName value = construction depth d.typeName d.hasDefaultValue ↔
        value = d.hasDefaultValue)
      ∧ (bareEquality depth d.innerTypeName marker comparer =
          bareEquality depth d.innerTypeName d.nullabilityMarker d.hasDefaultEqualityComparer ↔
        marker = d.nullabilityMarker ∧ comparer = d.hasDefaultEqualityComparer) := by
  refine ⟨?_, fun b => ?_, SourceFile.render_eq_fragments d, fun depth marker value comparer guid => ⟨?_, ?_, ?_⟩⟩
  · rw [renderMembers, build_eq, d.print_members]
  · rw [CodeBuilder.write_eq, d.print_members]
  · have hidentifiers : identifiers depth d.typeName d.innerTypeName guid = if guid then
        margin depth ++ "public static " ++ d.typeName ++ " NewId() => From(" ++ d.innerTypeName
          ++ ".NewGuid());\n" ++ "\n" else "" := by
      cases guid
      · exact identifiers_false ..
      · exact identifiers_true ..
    simp only [fragments, bareEquality_eq, hidentifiers]
  · exact construction_eq_iff
  · exact bareEquality_eq_iff

end ValueObjects
