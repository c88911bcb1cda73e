import ValueObjects.Proofs.Manifest.Accepted
import ValueObjects.Proofs.Text.Split

/-!
# Names and namespaces

The names and the namespaces that pass, as a language: identifiers, and identifiers with dots between them. A refusal is
about the first part of a namespace that is no identifier, and it says the first thing that is wrong with that part.
-/

namespace ValueObjects

/-! ## Refused names -/

/-- What is wrong first with the form of a name. -/
inductive IdentifierFlaw.Found (name : String) : IdentifierFlaw → Prop
  | empty (h : name = "") : Found name .empty
  | badStart {c : Char} {cs : List Char} (hname : name.toList = c :: cs) (hc : ¬ isNameStart c) : Found name .badStart
  | badCharacter {c d : Char} {cs : List Char} (hname : name.toList = c :: cs) (hc : isNameStart c) (hd : d ∈ cs)
    (hbad : ¬ isNamePart d) : Found name .badCharacter

theorem identifierFlaw?_eq_some {name : String} {flaw : IdentifierFlaw} :
    identifierFlaw? name = some flaw ↔ flaw.Found name := by
  unfold identifierFlaw?
  cases hname : name.toList with
  | nil =>
    constructor
    · rintro ⟨⟩
      exact .empty (by simpa using hname)
    · rintro (h | ⟨h, -⟩ | ⟨h, -⟩)
      · rfl
      · rw [hname] at h
        cases h
      · rw [hname] at h
        cases h
  | cons c cs =>
    constructor
    · intro h
      dsimp only at h
      split at h
      · rename_i hc
        cases h
        exact .badStart hname (by simpa using hc)
      · rename_i hc
        split at h
        · cases h
        · rename_i hcs
          cases h
          obtain ⟨d, hd, hbad⟩ : ∃ d ∈ cs, ¬ isNamePart d := by simpa using hcs
          exact .badCharacter hname (by simpa using hc) hd hbad
    · rintro (h | ⟨h, hc⟩ | ⟨h, hc, hd, hbad⟩)
      · simp [h] at hname
      · obtain ⟨rfl, rfl⟩ := List.cons.inj (hname.symm.trans h)
        simp [hc]
      · obtain ⟨rfl, rfl⟩ := List.cons.inj (hname.symm.trans h)
        have hall : ¬ cs.all isNamePart := fun hall => hbad (List.all_eq_true.mp hall _ hd)
        simp [hc, hall]

/-- Why a name is refused: it is reserved, or else its form is wrong. -/
inductive Cause.Refuses (name : String) (role : Role) : Cause → Prop
  | keyword (h : name ∈ keywords) : Refuses name role (.reservedKeyword name role)
  | malformed {flaw : IdentifierFlaw} (hkeyword : name ∉ keywords) (h : flaw.Found name) :
    Refuses name role (.invalidIdentifier name role flaw)

theorem ofName?_eq_some {name : String} {role : Role} {cause : Cause} :
    Cause.ofName? name role = some cause ↔ cause.Refuses name role := by
  by_cases hkeyword : name ∈ keywords
  · rw [Cause.ofName?, if_pos (mem_keywords.mp hkeyword)]
    constructor
    · rintro ⟨⟩
      exact .keyword hkeyword
    · rintro (_ | ⟨hno, -⟩)
      · rfl
      · exact absurd hkeyword hno
  · rw [Cause.ofName?, if_neg (mt mem_keywords.mpr hkeyword)]
    constructor
    · intro h
      obtain ⟨flaw, hflaw, rfl⟩ := Option.map_eq_some_iff.mp h
      exact .malformed hkeyword (identifierFlaw?_eq_some.mp hflaw)
    · rintro (hyes | ⟨-, hflaw⟩)
      · exact absurd hyes hkeyword
      · rw [identifierFlaw?_eq_some.mpr hflaw]
        rfl

/-! ## Parts of a namespace -/

/-- A text consists of some parts with dots between them, and there is no dot in any part. -/
structure IsDotted (name : String) (parts : List String) : Prop where
  ne_nil : parts ≠ []
  dot_notMem : ∀ part ∈ parts, '.' ∉ part.toList
  intercalate_eq : ".".intercalate parts = name

/-- Every text consists of parts in one way. -/
theorem isDotted_iff {name : String} {parts : List String} : IsDotted name parts ↔ namespaceSegments name = parts := by
  have hdot : ".".toList = ['.'] := rfl
  constructor
  · rintro ⟨hne, hdots, rfl⟩
    have hsplit : (['.'].intercalate (parts.map String.toList)).splitOn '.' = parts.map String.toList :=
      List.splitOn_intercalate '.' (by simpa using hdots) (by simpa using hne)
    rw [namespaceSegments, Text.split_eq_splitOn, String.toList_intercalate, hdot, hsplit]
    simp
  · rintro rfl
    refine ⟨by simp [namespaceSegments, Text.split_ne_nil], ?_, ?_⟩
    · intro part hpart
      obtain ⟨cs, hcs, rfl⟩ := List.mem_map.mp hpart
      simpa using Text.notMem_of_mem_split hcs
    · rw [← String.toList_inj, String.toList_intercalate, hdot, namespaceSegments, List.map_map]
      simp [Function.comp_def, Text.split_eq_splitOn, List.intercalate_splitOn]

/-- Between two dots there is an empty part. -/
example : IsDotted "A..class" ["A", "", "class"] := isDotted_iff.mpr (by decide)

/-- The first part that is refused, with the parts in front of it. -/
theorem findSome?_ofName?_eq_some {names : List String} {role : Role} {cause : Cause} :
    names.findSome? (Cause.ofName? · role) = some cause ↔
      ∃ before name after, names = before ++ name :: after ∧ (∀ n ∈ before, IsIdentifier n) ∧ cause.Refuses name role := by
  simp only [List.findSome?_eq_some_iff, ofName?_eq_none, ofName?_eq_some]
  constructor
  · rintro ⟨before, name, after, hnames, hcause, hbefore⟩
    exact ⟨before, name, after, hnames, hbefore, hcause⟩
  · rintro ⟨before, name, after, hnames, hbefore, hcause⟩
    exact ⟨before, name, after, hnames, hcause, hbefore⟩

/-! ## Checks -/

namespace ManifestText

theorem checkNamespace_eq_error {t : ManifestText} {name : String} {d : Diagnostic} :
    t.checkNamespace name = .error d ↔
      ∃ cause, (namespaceSegments name).findSome? (Cause.ofName? · .namespaceSegment) = some cause
        ∧ d = ⟨t.source, Places.ofValue? t.text "namespace" name, cause⟩ := by
  unfold checkNamespace
  cases (namespaceSegments name).findSome? (Cause.ofName? · .namespaceSegment) <;> simp [eq_comm]

/-- A namespace passes exactly if it is made of identifiers. -/
theorem checkNamespace_eq_ok_iff_join {t : ManifestText} {name : String} :
    t.checkNamespace name = .ok () ↔
      ∃ names, names ≠ [] ∧ (∀ n ∈ names, IsIdentifier n) ∧ ".".intercalate names = name := by
  rw [checkNamespace_eq_ok]
  constructor
  · intro h
    have hdotted := isDotted_iff.mpr (Eq.refl (namespaceSegments name))
    exact ⟨namespaceSegments name, hdotted.ne_nil, h, hdotted.intercalate_eq⟩
  · rintro ⟨names, hne, hnames, hjoin⟩
    have hdotted : IsDotted name names := ⟨hne, fun n hn => (hnames n hn).dot_notMem, hjoin⟩
    rwa [isDotted_iff.mp hdotted]

/-- Which names and which namespaces pass, and why a namespace is refused: of its parts, the first one that is no
identifier is reported, for being reserved or else for what is wrong first with its form. -/
theorem names_pass_exactly (t : ManifestText) :
    (∀ name, t.checkTypeName name = .ok () ↔
      (∃ c cs, name.toList = c :: cs ∧ (c.isAlpha ∨ c = '_') ∧ ∀ d ∈ cs, d.isAlphanum ∨ d = '_') ∧ name ∉ keywords)
    ∧ (∀ name, t.checkNamespace name = .ok () ↔
      ∃ names, names ≠ [] ∧ (∀ n ∈ names, IsIdentifier n) ∧ ".".intercalate names = name)
    ∧ ∀ name d, t.checkNamespace name = .error d ↔
      ∃ before part after cause, IsDotted name (before ++ part :: after) ∧ (∀ n ∈ before, IsIdentifier n)
        ∧ ¬ IsIdentifier part ∧ cause.Refuses part .namespaceSegment
        ∧ d = ⟨t.source, Places.ofValue? t.text "namespace" name, cause⟩ := by
  refine ⟨fun name => ?_, fun name => checkNamespace_eq_ok_iff_join, fun name d => ?_⟩
  · rw [checkTypeName_eq_ok]
    simp [IsIdentifier, isNameStart, isNamePart]
  · simp only [checkNamespace_eq_error, findSome?_ofName?_eq_some, isDotted_iff]
    constructor
    · rintro ⟨cause, ⟨before, part, after, hparts, hbefore, hcause⟩, rfl⟩
      have hpart : ¬ IsIdentifier part := by
        rw [← ofName?_eq_none .namespaceSegment, ofName?_eq_some.mpr hcause]
        simp
      exact ⟨before, part, after, cause, hparts, hbefore, hpart, hcause, rfl⟩
    · rintro ⟨before, part, after, cause, hparts, hbefore, -, hcause, rfl⟩
      exact ⟨cause, ⟨before, part, after, hparts, hbefore, hcause⟩, rfl⟩

end ManifestText

end ValueObjects
