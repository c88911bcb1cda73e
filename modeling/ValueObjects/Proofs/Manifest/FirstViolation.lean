import ValueObjects.Proofs.Manifest.Accepted
import ValueObjects.Proofs.Manifest.TypeExpressions

/-!
# The first violation

Everything that may be wrong with a manifest as one list, in the order in which it is looked for. A manifest is accepted
exactly if nothing of this is the case; otherwise the first entry of the list that is the case is reported.
-/

namespace ValueObjects

/-! ## Violations -/

/-- Something that may be wrong with a manifest. -/
inductive Violation
  | keyword (name : String) (role : Role)
  | malformed (name : String) (role : Role) (flaw : IdentifierFlaw)
  | badInner (valueObject inner : String) (flaw : TypeFlaw)
  | selfWrapping (valueObject inner : String)
deriving DecidableEq, Repr

namespace Violation

/-- What is said to be wrong is the case. -/
def Occurs : Violation → Prop
  | keyword name _ => name ∈ keywords
  | malformed name _ flaw => flaw.Spoils name
  | badInner _ inner flaw => flaw.Spoils inner
  | selfWrapping valueObject inner => inner = valueObject

instance decidableOccurs : (v : Violation) → Decidable v.Occurs
  | keyword name _ => inferInstanceAs (Decidable (name ∈ keywords))
  | malformed name _ flaw => inferInstanceAs (Decidable (flaw.Spoils name))
  | badInner _ inner flaw => inferInstanceAs (Decidable (flaw.Spoils inner))
  | selfWrapping valueObject inner => inferInstanceAs (Decidable (inner = valueObject))

/-- How a violation is reported. -/
def cause : Violation → Cause
  | keyword name role => .reservedKeyword name role
  | malformed name role flaw => .invalidIdentifier name role flaw
  | badInner valueObject inner flaw => .invalidInnerType valueObject inner flaw
  | selfWrapping valueObject _ => .inconsistent ("value object '" ++ valueObject ++ "' cannot wrap itself")

/-- Where a text shows a violation. What is wrong with a part of the namespace is shown at the whole of it. -/
def place (namespaceName : Option String) (text : String) : Violation → Option Span
  | keyword name .valueObject => Places.ofName? text name
  | keyword _ .namespaceSegment => namespaceName.bind (Places.ofValue? text "namespace")
  | malformed name .valueObject _ => Places.ofName? text name
  | malformed _ .namespaceSegment _ => namespaceName.bind (Places.ofValue? text "namespace")
  | badInner _ inner _ => Places.ofValue? text "inner" inner
  | selfWrapping valueObject _ => Places.ofName? text valueObject

/-- What may be wrong with a name. That it is a keyword comes before its form. -/
def ofName (role : Role) (name : String) : List Violation :=
  keyword name role :: IdentifierFlaw.inOrder.map (malformed name role)

/-- What may be wrong with a value object: its name, then its inner type, then that they are the same. -/
def ofValueObject (name : String) (s : ValueObjectSettings) : List Violation :=
  ofName .valueObject name ++ TypeFlaw.inOrder.map (badInner name s.inner) ++ [selfWrapping name s.inner]

end Violation

/-- What may be wrong with a manifest: the parts of its namespace from left to right, then its value objects in the
order of their declaration. -/
def Manifest.violations (m : Manifest) : List Violation :=
  (m.generator.namespaceName.toList.flatMap namespaceSegments).flatMap (Violation.ofName .namespaceSegment)
    ++ m.valueObjects.flatMap fun (name, settings) => Violation.ofValueObject name settings

/-- The report of a violation. -/
def ManifestText.refusal (t : ManifestText) (namespaceName : Option String) (v : Violation) : Diagnostic :=
  ⟨t.source, v.place namespaceName t.text, v.cause⟩

/-! ## Searching -/

/-- Report the first violation of a list that is the case. -/
def Violation.search (report : Violation → Diagnostic) (violations : List Violation) : Except Diagnostic Unit :=
  match violations.find? (·.Occurs) with
  | some v => .error (report v)
  | none => .ok ()

namespace Violation

variable {report : Violation → Diagnostic}

theorem search_append (vs ws : List Violation) :
    search report (vs ++ ws) = (do search report vs; search report ws) := by
  unfold search
  rw [List.find?_append]
  cases vs.find? (·.Occurs) <;> rfl

theorem search_flatMap {α : Type} (f : α → List Violation) (l : List α) :
    search report (l.flatMap f) = l.forM fun a => search report (f a) := by
  induction l with
  | nil => rfl
  | cons a l ih =>
    rw [List.flatMap_cons, search_append, ih]
    rfl

theorem search_eq_error {violations : List Violation} {d : Diagnostic} :
    search report violations = .error d ↔ ∃ before v after, violations = before ++ v :: after
      ∧ (∀ w ∈ before, ¬ w.Occurs) ∧ v.Occurs ∧ d = report v := by
  have hfind : search report violations = .error d ↔ ∃ v, violations.find? (·.Occurs) = some v ∧ d = report v := by
    unfold search
    cases violations.find? (·.Occurs) <;> simp [eq_comm]
  simp only [hfind, List.find?_eq_some_iff_append, decide_eq_true_eq, Bool.not_eq_true', decide_eq_false_iff_not]
  constructor
  · rintro ⟨v, ⟨hv, before, after, hsplit, hbefore⟩, hd⟩
    exact ⟨before, v, after, hsplit, hbefore, hv, hd⟩
  · rintro ⟨before, v, after, hsplit, hbefore, hv, hd⟩
    exact ⟨v, ⟨hv, before, after, hsplit, hbefore⟩, hd⟩

/-- A search finds nothing if nothing is the case. -/
theorem search_eq_ok {violations : List Violation} :
    search report violations = .ok () ↔ ∀ v ∈ violations, ¬ v.Occurs := by
  have hfind : search report violations = .ok () ↔ violations.find? (·.Occurs) = none := by
    unfold search
    cases violations.find? (·.Occurs) <;> simp
  simp [hfind]

/-- A search reports the cause that is found if all its violations are reported at one place. -/
theorem search_eq_elim {violations : List Violation} {source : String} {span : Option Span}
    (hreport : ∀ v ∈ violations, report v = ⟨source, span, v.cause⟩) :
    search report violations =
      ((violations.find? (·.Occurs)).map cause).elim (.ok ()) fun c => .error ⟨source, span, c⟩ := by
  unfold search
  cases hfind : violations.find? (·.Occurs) with
  | none => rfl
  | some v => simp [hreport v (List.mem_of_find?_eq_some hfind)]

/-! ## Single checks -/

theorem find?_ofName (role : Role) (name : String) :
    ((ofName role name).find? (·.Occurs)).map cause = Cause.ofName? name role := by
  have hflaws : ((IdentifierFlaw.inOrder.map (malformed name role)).find? (·.Occurs)).map cause =
      (identifierFlaw? name).map (.invalidIdentifier name role) := by
    rw [identifierFlaw?_eq_find?, List.find?_map, Option.map_map]
    rfl
  by_cases hkeyword : name ∈ keywords
  · have hoccurs : (keyword name role).Occurs := hkeyword
    simp [ofName, Cause.ofName?, hoccurs, mem_keywords.mp hkeyword, cause]
  · have hoccurs : ¬ (keyword name role).Occurs := hkeyword
    rw [ofName, List.find?_cons_of_neg (by simpa using hoccurs), hflaws]
    simp [Cause.ofName?, mt mem_keywords.mpr hkeyword]

theorem find?_badInner (valueObject inner : String) :
    ((TypeFlaw.inOrder.map (badInner valueObject inner)).find? (·.Occurs)).map cause =
      (typeFlaw? inner).map (.invalidInnerType valueObject inner) := by
  rw [typeFlaw?_eq_find?, List.find?_map, Option.map_map]
  rfl

end Violation

namespace ManifestText

open Violation

variable {t : ManifestText} {namespaceName : Option String}

theorem checkTypeName_eq_search (name : String) :
    t.checkTypeName name = search (t.refusal namespaceName) (ofName .valueObject name) := by
  have hplace : ∀ v ∈ ofName .valueObject name,
      t.refusal namespaceName v = ⟨t.source, Places.ofName? t.text name, v.cause⟩ := by
    intro v hv
    simp only [ofName, List.mem_cons, List.mem_map] at hv
    rcases hv with rfl | ⟨flaw, -, rfl⟩ <;> rfl
  rw [search_eq_elim hplace, find?_ofName, checkTypeName]
  cases Cause.ofName? name .valueObject <;> rfl

theorem checkNamespace_eq_search (name : String) :
    t.checkNamespace name =
      search (t.refusal (some name)) ((namespaceSegments name).flatMap (ofName .namespaceSegment)) := by
  have hplace : ∀ v ∈ (namespaceSegments name).flatMap (ofName .namespaceSegment),
      t.refusal (some name) v = ⟨t.source, Places.ofValue? t.text "namespace" name, v.cause⟩ := by
    intro v hv
    simp only [List.mem_flatMap, ofName, List.mem_cons, List.mem_map] at hv
    rcases hv with ⟨segment, -, rfl | ⟨flaw, -, rfl⟩⟩ <;> rfl
  rw [search_eq_elim hplace, List.find?_flatMap, List.map_findSome?, checkNamespace]
  simp only [Function.comp_def, find?_ofName]
  cases (namespaceSegments name).findSome? (Cause.ofName? · .namespaceSegment) <;> rfl

theorem checkInnerType_eq_search (valueObject inner : String) :
    t.checkInnerType valueObject inner =
      search (t.refusal namespaceName) (TypeFlaw.inOrder.map (badInner valueObject inner)) := by
  have hplace : ∀ v ∈ TypeFlaw.inOrder.map (badInner valueObject inner),
      t.refusal namespaceName v = ⟨t.source, Places.ofValue? t.text "inner" inner, v.cause⟩ := by
    intro v hv
    obtain ⟨flaw, -, rfl⟩ := List.mem_map.mp hv
    rfl
  rw [search_eq_elim hplace, find?_badInner, checkInnerType]
  cases typeFlaw? inner <;> rfl

theorem checkValueObject_eq_search (name : String) (s : ValueObjectSettings) :
    t.checkValueObject name s = search (t.refusal namespaceName) (ofValueObject name s) := by
  have hself : search (t.refusal namespaceName) [selfWrapping name s.inner] =
      if s.inner = name then
        .error (t.inconsistency ("value object '" ++ name ++ "' cannot wrap itself") name)
      else .ok () := by
    unfold search
    by_cases hinner : s.inner = name
    · have hoccurs : (selfWrapping name s.inner).Occurs := hinner
      rw [List.find?_cons_of_pos (by simpa using hoccurs), if_pos hinner]
      rfl
    · have hoccurs : ¬ (selfWrapping name s.inner).Occurs := hinner
      rw [List.find?_cons_of_neg (by simpa using hoccurs), if_neg hinner]
      rfl
  rw [ofValueObject, search_append, search_append, ← checkTypeName_eq_search, ← checkInnerType_eq_search, hself,
    bind_assoc]
  rfl

/-- A manifest is checked by searching everything that may be wrong with it. -/
theorem checkManifest_eq_search (m : Manifest) :
    t.checkManifest m = search (t.refusal m.generator.namespaceName) m.violations := by
  have hvalueObjects : (m.valueObjects.forM fun (name, settings) => t.checkValueObject name settings) =
      search (t.refusal m.generator.namespaceName)
        (m.valueObjects.flatMap fun (name, settings) => ofValueObject name settings) := by
    rw [search_flatMap]
    congr 1
    funext ⟨name, settings⟩
    exact checkValueObject_eq_search name settings
  rw [checkManifest, hvalueObjects, Manifest.violations, search_append]
  cases m.generator.namespaceName with
  | none => rfl
  | some name =>
    have hsegments : [name].flatMap namespaceSegments = namespaceSegments name := by simp
    rw [Option.toList_some, hsegments, ← checkNamespace_eq_search]
    rfl

/-! ## Acceptance and the report -/

theorem fits_iff {name : String} {s : ValueObjectSettings} :
    s.Fits name ↔ IsIdentifier name ∧ IsTypeExpression s.inner ∧ s.inner ≠ name := by
  rw [← typeFlaw?_eq_none]
  exact ⟨fun h => ⟨h.isIdentifier, h.inner, h.inner_ne⟩, fun ⟨hname, hinner, hne⟩ => ⟨hname, hinner, hne⟩⟩

/-- A manifest that can be decoded is accepted as it is exactly if the parts of its namespace and the names of its
value objects are identifiers, the inner types are type expressions, and none of them is the name itself. Otherwise the
first violation is reported: nothing in front of it in the list is the case. -/
theorem load_reports_first_violation {m : Manifest} (h : t.decode = .ok m) :
    (∀ m', t.load = .ok m' ↔ m' = m
      ∧ (∀ name, m.generator.namespaceName = some name → ∀ segment ∈ namespaceSegments name, IsIdentifier segment)
      ∧ ∀ e ∈ m.valueObjects, IsIdentifier e.1 ∧ IsTypeExpression e.2.inner ∧ e.2.inner ≠ e.1)
    ∧ ∀ d, t.load = .error d ↔ ∃ before v after, m.violations = before ++ v :: after
      ∧ (∀ w ∈ before, ¬ w.Occurs) ∧ v.Occurs ∧ d = t.refusal m.generator.namespaceName v := by
  constructor
  · intro m'
    simp only [load_eq_ok, h, Except.ok.injEq, ← fits_iff]
    constructor
    · rintro ⟨rfl, hcheck⟩
      exact ⟨rfl, checkManifest_eq_ok.mp hcheck⟩
    · rintro ⟨rfl, haccepted⟩
      exact ⟨rfl, checkManifest_eq_ok.mpr haccepted⟩
  · intro d
    -- nothing but the checks of the manifest can fail behind its decoding
    have hload : t.load = .error d ↔ t.checkManifest m = .error d := by
      rw [load, h]
      cases hcheck : t.checkManifest m <;> simp [bind, Except.bind, hcheck, pure, Except.pure]
    rw [hload, checkManifest_eq_search, search_eq_error]

/-- A text with two faulty value objects, in front of which nothing is wrong. -/
def openBracketText : ManifestText :=
  ⟨"tvo.toml", "[generator]\nnamespace = \"A.B\"\n[value_objects.Id]\ninner = \"Guid\"\n"
    ++ "[value_objects.Ids]\ninner = \"List<Id\"\n[value_objects.class]\ninner = \"class\"\n"⟩

/-- What the text declares. -/
def openBracketManifest : Manifest :=
  ⟨⟨some "A.B", defaultOutput⟩,
    [("Id", ⟨"Guid", none, false, false, none⟩), ("Ids", ⟨"List<Id", none, false, false, none⟩),
      ("class", ⟨"class", none, false, false, none⟩)]⟩

theorem load_openBracketText :
    openBracketText.decode = .ok openBracketManifest ∧ (∀ m, openBracketText.load ≠ .ok m)
      ∧ openBracketText.load =
        .error ⟨"tvo.toml", some ⟨93, 7⟩, .invalidInnerType "Ids" "List<Id" .unbalanced⟩ := by
  have hdecode : openBracketText.decode = .ok openBracketManifest := eq_ok_of_toOption (by decide +kernel)
  obtain ⟨haccepted, hrefused⟩ := load_reports_first_violation hdecode
  have herror := (hrefused ⟨"tvo.toml", some ⟨93, 7⟩, .invalidInnerType "Ids" "List<Id" .unbalanced⟩).mpr
    ⟨openBracketManifest.violations.take 26, .badInner "Ids" "List<Id" .unbalanced,
      openBracketManifest.violations.drop 27, by decide +kernel, by decide +kernel, by decide +kernel,
      by decide +kernel⟩
  refine ⟨hdecode, ?_, herror⟩
  intro m hload
  rw [herror] at hload
  cases hload

end ManifestText

end ValueObjects
