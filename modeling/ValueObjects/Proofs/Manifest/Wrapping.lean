import Mathlib.Data.Fin.Basic
import Mathlib.Logic.Relation
import ValueObjects.Proofs.Manifest.SourceFiles

/-!
# Wrapped value objects

Which declared value objects wrap each other. A value of a generated type contains the value that it wraps, so a value
object that wraps itself, directly or through others, has values without end. The check of a manifest looks for a value
object that wraps its own bare name, and passes over all other cycles.
-/

namespace ValueObjects

/-! ## The relation -/

/-- The ways to write a generated type in a type expression: by its bare name, or behind the namespace of all generated
types, with or without the root. -/
def GeneratorSettings.spellings (g : GeneratorSettings) (name : String) : List String :=
  name :: g.namespaceName.toList.flatMap fun ns => [ns ++ "." ++ name, "global::" ++ ns ++ "." ++ name]

namespace Manifest

/-- One declared value object wraps another, or itself. -/
def Wraps (m : Manifest) (name wrapped : String) : Prop :=
  ∃ s, (name, s) ∈ m.valueObjects ∧ m.declares wrapped ∧ s.inner ∈ m.generator.spellings wrapped

/-- One declared value object wraps another, or itself, and writes the namespace in front of its name. -/
def WrapsQualified (m : Manifest) (name wrapped : String) : Prop :=
  ∃ s, (name, s) ∈ m.valueObjects ∧ m.declares wrapped ∧ s.inner ∈ m.generator.spellings wrapped ∧ s.inner ≠ wrapped

/-- No value object wraps itself, directly or through others. -/
def Acyclic (m : Manifest) : Prop := ∀ name, ¬ Relation.TransGen m.Wraps name name

/-- A value object of a well-formed manifest does not wrap itself by its bare name. -/
theorem WellFormed.wrapsQualified {m : Manifest} (h : m.WellFormed) {name : String} (hwraps : m.Wraps name name) :
    m.WrapsQualified name name := by
  obtain ⟨s, hs, hdeclared, hspelling⟩ := hwraps
  exact ⟨s, hs, hdeclared, hspelling, (h.valueObjects _ hs).inner_ne⟩

theorem WrapsQualified.wraps {m : Manifest} {name wrapped : String} (h : m.WrapsQualified name wrapped) :
    m.Wraps name wrapped := by
  obtain ⟨s, hs, hdeclared, hspelling, -⟩ := h
  exact ⟨s, hs, hdeclared, hspelling⟩

end Manifest

/-! ## Spellings -/

/-- A character that spellings of generated types consist of. -/
def isSpellingPart (c : Char) : Bool := isNamePart c || c == '.' || c == ':'

theorem not_isBlank_of_isNamePart {c : Char} (h : isNamePart c) : ¬ Text.isBlank c := by
  -- the classes of characters by their code points
  have hclasses : (((decide (0x41 ≤ c.toNat ∧ c.toNat ≤ 0x5A) || (decide (0x61 ≤ c.toNat) && decide (c.toNat ≤ 0x7A)))
      || (decide (0x30 ≤ c.toNat) && decide (c.toNat ≤ 0x39))) || c == '_') = true := h
  simp only [Bool.or_eq_true, Bool.and_eq_true, decide_eq_true_eq, beq_iff_eq] at hclasses
  have hrange : 0x30 ≤ c.toNat ∧ c.toNat ≤ 0x7A := by
    rcases hclasses with hclasses | rfl
    · omega
    · decide
  simp only [Text.isBlank, Bool.or_eq_true, Bool.and_eq_true, decide_eq_true_eq, beq_iff_eq]
  omega

/-- A text without blanks and brackets is a type expression. -/
theorem isTypeExpression_of_isSpellingPart {s : String} (hne : s.toList ≠ []) (h : ∀ c ∈ s.toList, isSpellingPart c) :
    IsTypeExpression s := by
  have hblank : ∀ c, isSpellingPart c → ¬ Text.isBlank c := by
    intro c hc
    simp only [isSpellingPart, Bool.or_eq_true, beq_iff_eq] at hc
    rcases hc with (hc | rfl) | rfl
    · exact not_isBlank_of_isNamePart hc
    · decide
    · decide
  have hcharacter : ∀ c, isSpellingPart c → isTypeCharacter c := by
    intro c hc
    simp only [isSpellingPart, isNamePart, Bool.or_eq_true, beq_iff_eq] at hc
    rcases hc with ((hc | rfl) | rfl) | rfl
    · simp [isTypeCharacter, hc]
    all_goals decide
  refine ⟨hne, fun c hc => hblank c (h c (List.mem_of_head? hc)), fun c hc => hblank c (h c (List.mem_of_getLast? hc)),
    fun c hc => hcharacter c (h c hc), .of_notMem ?_ ?_⟩
  · exact fun hmem => absurd (h _ hmem) (by decide)
  · exact fun hmem => absurd (h _ hmem) (by decide)

section Spellings

variable {g : GeneratorSettings} {name s : String}

theorem mem_spellings : s ∈ g.spellings name ↔
    s = name ∨ ∃ ns, g.namespaceName = some ns ∧ (s = ns ++ "." ++ name ∨ s = "global::" ++ ns ++ "." ++ name) := by
  simp [GeneratorSettings.spellings]

/-- Only the bare name has no dot. -/
theorem dot_mem_of_spelling (h : s ∈ g.spellings name) (hne : s ≠ name) : '.' ∈ s.toList := by
  rcases mem_spellings.mp h with rfl | ⟨ns, -, rfl | rfl⟩
  · exact absurd rfl hne
  · simp
  · simp

/-- However a generated type is spelled, it is a type expression. -/
theorem isTypeExpression_of_spelling
    (hg : ∀ ns, g.namespaceName = some ns → ∀ segment ∈ namespaceSegments ns, IsIdentifier segment)
    (hname : IsIdentifier name) (h : s ∈ g.spellings name) : IsTypeExpression s := by
  have hpart : ∀ c ∈ name.toList, isSpellingPart c := by
    intro c hc
    simp [isSpellingPart, hname.isNamePart hc]
  have hspace : ∀ ns, g.namespaceName = some ns → ∀ c ∈ ns.toList, isSpellingPart c := by
    intro ns hns c hc
    rcases isNamePart_of_segments (hg ns hns) hc with rfl | hc
    · decide
    · simp [isSpellingPart, hc]
  have hroot : ∀ c ∈ "global::".toList, isSpellingPart c := by
    have hall : "global::".toList.all isSpellingPart := by decide
    exact List.all_eq_true.mp hall
  have hdot : isSpellingPart '.' := by decide
  rcases mem_spellings.mp h with rfl | ⟨ns, hns, rfl | rfl⟩
  · exact isTypeExpression_of_isSpellingPart hname.toList_ne_nil hpart
  · refine isTypeExpression_of_isSpellingPart (by simp) ?_
    simp only [String.toList_append, List.forall_mem_append]
    exact ⟨⟨hspace ns hns, by simp [hdot]⟩, hpart⟩
  · refine isTypeExpression_of_isSpellingPart (by simp) ?_
    simp only [String.toList_append, List.forall_mem_append]
    exact ⟨⟨⟨hroot, hspace ns hns⟩, by simp [hdot]⟩, hpart⟩

end Spellings

/-! ## Rings -/

/-- Value objects each of which wraps the next, and the last one the first, however the names are spelled. -/
structure Ring where
  generator : GeneratorSettings
  /-- How many members follow the first. -/
  rest : Nat
  name : Fin (rest + 1) → String
  settings : Fin (rest + 1) → ValueObjectSettings
  segments : ∀ ns, generator.namespaceName = some ns → ∀ segment ∈ namespaceSegments ns, IsIdentifier segment
  isIdentifier : ∀ i, IsIdentifier (name i)
  name_injective : name.Injective
  inner_mem : ∀ i, (settings i).inner ∈ generator.spellings (name (i + 1))

namespace Ring

variable (r : Ring)

/-- The manifest that declares the members of a ring. -/
def manifest : Manifest where
  generator := r.generator
  valueObjects := List.ofFn fun i => (r.name i, r.settings i)

/-- The ring is one value object that wraps its bare name. -/
def Bare : Prop := r.rest = 0 ∧ (r.settings 0).inner = r.name 0

theorem wraps (i : Fin (r.rest + 1)) : r.manifest.Wraps (r.name i) (r.name (i + 1)) := by
  refine ⟨r.settings i, List.mem_ofFn.mpr ⟨i, rfl⟩, ?_, r.inner_mem i⟩
  rw [Manifest.declares, List.any_eq_true]
  exact ⟨_, List.mem_ofFn.mpr ⟨i + 1, rfl⟩, by simp⟩

/-- From the first member of a ring one gets to all others. -/
theorem reflTransGen_wraps (i : Fin (r.rest + 1)) :
    Relation.ReflTransGen r.manifest.Wraps (r.name 0) (r.name i) := by
  induction i using Fin.induction with
  | zero => exact .refl
  | succ i ih =>
    have hstep := r.wraps i.castSucc
    rw [Fin.coeSucc_eq_succ] at hstep
    exact ih.tail hstep

/-- From the last member of a ring one gets back to the first. -/
theorem not_acyclic : ¬ r.manifest.Acyclic := by
  intro hacyclic
  have hback := r.wraps (Fin.last r.rest)
  rw [Fin.last_add_one] at hback
  exact hacyclic (r.name 0) (.tail' (r.reflTransGen_wraps (Fin.last r.rest)) hback)

/-- A member that wraps its own bare name is the only one. -/
theorem bare_of_inner_eq {i : Fin (r.rest + 1)} (h : (r.settings i).inner = r.name i) : r.Bare := by
  by_cases hbare : (r.settings i).inner = r.name (i + 1)
  · -- the next value object is this one
    have hloop : i + 1 = i := r.name_injective (hbare.symm.trans h)
    have hone : r.rest = 0 := by
      have hval := congrArg Fin.val hloop
      rw [Fin.val_add_one] at hval
      split at hval
      · rename_i hlast
        subst hlast
        exact hval.symm
      · omega
    have hfirst : i = 0 := by
      apply Fin.ext
      have hlt := i.isLt
      rw [Fin.val_zero]
      omega
    exact ⟨hone, hfirst ▸ h⟩
  · have hdot := dot_mem_of_spelling (r.inner_mem i) hbare
    exact absurd (h ▸ hdot) (r.isIdentifier i).dot_notMem

/-- The check of a manifest lets every ring pass but for one value object that wraps its bare name. -/
theorem checkManifest_eq_ok (t : ManifestText) : t.checkManifest r.manifest = .ok () ↔ ¬ r.Bare := by
  rw [ManifestText.checkManifest_eq_ok]
  constructor
  · rintro ⟨-, hvalueObjects⟩ ⟨-, hself⟩
    exact (hvalueObjects _ (List.mem_ofFn.mpr ⟨0, rfl⟩)).inner_ne hself
  · intro hbare
    refine ⟨r.segments, fun e he => ?_⟩
    obtain ⟨i, rfl⟩ := List.mem_ofFn.mp he
    have hexpression := isTypeExpression_of_spelling r.segments (r.isIdentifier (i + 1)) (r.inner_mem i)
    exact ⟨r.isIdentifier i, typeFlaw?_eq_none.mpr hexpression, fun hself => hbare (r.bare_of_inner_eq hself)⟩

end Ring

/-! ## Cycles of accepted manifests -/

namespace Manifest

/-- A manifest whose value objects do not wrap their own bare names has no cycle exactly if no value object wraps itself
by a name with the namespace and no two value objects wrap each other, directly or through others. -/
theorem WellFormed.acyclic_iff {m : Manifest} (h : m.WellFormed) :
    m.Acyclic ↔ (∀ name, ¬ m.WrapsQualified name name) ∧
      ∀ name other, Relation.TransGen m.Wraps name other → Relation.TransGen m.Wraps other name → name = other := by
  constructor
  · intro hacyclic
    refine ⟨fun name hself => hacyclic name (.single hself.wraps), ?_⟩
    intro name other hthere hback
    exact absurd (hthere.trans hback) (hacyclic name)
  · rintro ⟨hself, hpair⟩ name hcycle
    obtain ⟨next, hstep, hrest⟩ := Relation.TransGen.head'_iff.mp hcycle
    -- a cycle that leaves its first member comes back to it, so it has only that one
    have hloop : m.Wraps name name := by
      rcases Relation.reflTransGen_iff_eq_or_transGen.mp hrest with hsame | hback
      · exact hsame ▸ hstep
      · obtain rfl := hpair name next (.single hstep) hback
        exact hstep
    exact hself name (h.wrapsQualified hloop)

end Manifest

/-- An accepted manifest has no cycle exactly if no value object wraps itself by a name with the namespace and no two
value objects wrap each other, directly or through others. Neither is looked for: of all rings of value objects, of any
length and in any spelling, only one value object that wraps its bare name is refused. -/
theorem ManifestText.acyclic_iff_of_load (t : ManifestText) :
    (∀ m, t.load = .ok m → (m.Acyclic ↔ (∀ name, ¬ m.WrapsQualified name name) ∧
      ∀ name other, Relation.TransGen m.Wraps name other → Relation.TransGen m.Wraps other name → name = other))
    ∧ ∀ r : Ring, ¬ r.manifest.Acyclic ∧ (t.checkManifest r.manifest = .ok () ↔ ¬ r.Bare)
      ∧ (t.decode = .ok r.manifest → (t.load = .ok r.manifest ↔ ¬ r.Bare)) := by
  refine ⟨fun m h => (wellFormed_of_load h).acyclic_iff, fun r => ⟨r.not_acyclic, r.checkManifest_eq_ok t, ?_⟩⟩
  intro hdecode
  rw [load_eq_ok, r.checkManifest_eq_ok t]
  exact and_iff_right hdecode

/-- A text that declares two value objects that wrap each other. -/
def mutualText : ManifestText :=
  ⟨"tvo.toml", "[value_objects.Chicken]\ninner = \"Egg\"\n[value_objects.Egg]\ninner = \"Chicken\"\n"⟩

/-- What the text declares. -/
def mutualRing : Ring where
  generator := .standard
  rest := 1
  name := fun
    | 0 => "Chicken"
    | 1 => "Egg"
  settings := fun
    | 0 => ⟨"Egg", none, false, false, none⟩
    | 1 => ⟨"Chicken", none, false, false, none⟩
  segments _ hns := by cases hns
  isIdentifier i := (ofName?_eq_none .valueObject).mp (by revert i; decide)
  name_injective i j := by revert i j; decide
  inner_mem := by decide

theorem not_acyclic_mutualText : mutualText.decode = .ok mutualRing.manifest ∧ ¬ mutualRing.Bare
    ∧ mutualText.load = .ok mutualRing.manifest ∧ ¬ mutualRing.manifest.Acyclic
    ∧ ∃ name other, Relation.TransGen mutualRing.manifest.Wraps name other
      ∧ Relation.TransGen mutualRing.manifest.Wraps other name ∧ name ≠ other := by
  obtain ⟨hcycles, hrings⟩ := ManifestText.acyclic_iff_of_load mutualText
  obtain ⟨hcyclic, -, haccepted⟩ := hrings mutualRing
  have hdecode : mutualText.decode = .ok mutualRing.manifest := eq_ok_of_toOption (by decide +kernel)
  have hbare : ¬ mutualRing.Bare := fun h => absurd h.1 (by decide)
  have hload := (haccepted hdecode).mpr hbare
  have hunqualified : ∀ name, ¬ mutualRing.manifest.WrapsQualified name name := by
    rintro name ⟨s, -, -, hspelling, hne⟩
    exact hne (by simpa [mutualRing, Ring.manifest, GeneratorSettings.standard, mem_spellings] using hspelling)
  refine ⟨hdecode, hbare, hload, hcyclic, ?_⟩
  by_contra hnone
  push Not at hnone
  exact hcyclic ((hcycles _ hload).mpr ⟨hunqualified, hnone⟩)

/-- A text that declares a value object that wraps itself, by its name in its namespace. -/
def selfText : ManifestText :=
  ⟨"tvo.toml", "[generator]\nnamespace = \"App\"\n[value_objects.A]\ninner = \"App.A\"\n"⟩

theorem not_acyclic_selfText : ∃ m, selfText.load = .ok m ∧ ¬ m.Acyclic := by
  have hload : selfText.load = .ok ⟨⟨some "App", defaultOutput⟩, [("A", ⟨"App.A", none, false, false, none⟩)]⟩ :=
    eq_ok_of_toOption (by decide +kernel)
  refine ⟨_, hload, fun hacyclic => hacyclic "A" (.single ?_)⟩
  exact ⟨_, .head _, by decide, by decide⟩

end ValueObjects
