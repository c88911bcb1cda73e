import ValueObjects.Proofs.Rendering.Overloads
import ValueObjects.Proofs.Rendering.Traces
import ValueObjects.Report.Check

/-!
# Summaries of value objects

What the check of a manifest says about its value objects is what can be seen in their source files. Capabilities are
worked out for the summary and for the source file separately, from settings whose defaults depend on each other.
-/

namespace ValueObjects

/-! ## Capabilities -/

namespace ValueObjectSettings

variable {s : ValueObjectSettings} {name : String}

theorem mem_capabilities {capability : String} : capability ∈ s.capabilities ↔
    capability = "default value" ∧ s.defaultValue ∨ capability = "equality comparer" ∧ s.defaultEqualityComparer
      ∨ capability = "guid" ∧ s.isGuidLike := by
  cases hvalue : s.defaultValue <;> cases hcomparer : s.defaultEqualityComparer <;> cases hguid : s.isGuidLike <;>
    simp [capabilities, hvalue, hcomparer, hguid]

theorem defaultValue_mem_capabilities : "default value" ∈ s.capabilities ↔ (s.descriptor name).hasDefaultValue := by
  simp [mem_capabilities, descriptor]

theorem equalityComparer_mem_capabilities :
    "equality comparer" ∈ s.capabilities ↔ (s.descriptor name).hasDefaultEqualityComparer := by
  simp [mem_capabilities, descriptor]

theorem guid_mem_capabilities : "guid" ∈ s.capabilities ↔ (s.descriptor name).isGuidLike := by
  simp [mem_capabilities, descriptor]

/-- A bare value may be absent if that is said, or if nothing is said and the summary does not mention identifiers. -/
theorem isNullable_iff : s.isNullable ↔ s.nullable = some true ∨ s.nullable = none ∧ "guid" ∉ s.capabilities := by
  have hguid : "guid" ∈ s.capabilities ↔ (s.descriptor "").isGuidLike := guid_mem_capabilities
  rw [hguid]
  cases hnullable : s.nullable <;> simp [isNullable, descriptor, hnullable]

end ValueObjectSettings

/-! ## Summaries -/

/-- A summary tells what a source file has in it. Whether a bare value may be absent is not part of the summary; it is
taken from the settings. -/
structure ValueObjectSummary.Tells (s : ValueObjectSummary) (nullable : Option Bool) (f : SourceFile) : Prop where
  name : f.descriptor.typeName = s.name
  inner : f.descriptor.innerTypeName = s.inner
  /-- The default constructor takes the default value. -/
  defaultValue : "default value" ∈ s.capabilities ↔ "Value = DefaultValue.Value;".toList <:+: f.render.toList
  /-- Or else it must not be used. -/
  forbidden : "default value" ∉ s.capabilities ↔
    (SourceFile.forbiddenConstructor s.name).map String.toList <:+: f.textLines
  obsolete : "default value" ∉ s.capabilities ↔ "[global::System.Obsolete($".toList <:+: f.render.toList
  comparer : "equality comparer" ∈ s.capabilities ↔
    "InnerValueDefaultEqualityComparer.Equals(Value, other)".toList <:+: f.render.toList
  newIdentifier : "guid" ∈ s.capabilities ↔ "NewId() => From(".toList <:+: f.render.toList
  /-- New identifiers are made in the last member and nowhere else. -/
  once : "guid" ∈ s.capabilities → ∃ front : String,
    f.render = front ++ "\tpublic static " ++ s.name ++ " NewId() => From(" ++ s.inner ++ ".NewGuid());\n\n\x7d\n\n"
      ∧ ∀ before after : List Char, f.render.toList = before ++ "NewId() => From(".toList ++ after →
        before = (front ++ "\tpublic static " ++ s.name ++ " ").toList
  /-- The second overload of equality takes a bare value. -/
  overloads : List.Forall₂ (fun parameters line => ("\tpublic bool Equals(" ++ parameters ++ ")").toList <+: line)
    [s.name ++ " other",
     (if nullable = some true ∨ nullable = none ∧ "guid" ∉ s.capabilities then s.inner ++ "?" else s.inner) ++ " other",
     s.name ++ " other, global::System.Collections.Generic.IEqualityComparer<" ++ s.inner ++ "> comparer"]
    (f.textLines.filter ("\tpublic bool Equals(".toList.isPrefixOf ·))

theorem SourceFile.Accepted.tells {name : String} {settings : ValueObjectSettings} {namespaceName : Option String}
    (h : SourceFile.Accepted ⟨settings.descriptor name, namespaceName⟩) :
    ValueObjectSummary.Tells ⟨name, settings.inner, settings.capabilities⟩ settings.nullable
      ⟨settings.descriptor name, namespaceName⟩ := by
  have hvalue : "default value" ∈ settings.capabilities ↔ (settings.descriptor name).hasDefaultValue :=
    ValueObjectSettings.defaultValue_mem_capabilities
  have hcomparer :
      "equality comparer" ∈ settings.capabilities ↔ (settings.descriptor name).hasDefaultEqualityComparer :=
    ValueObjectSettings.equalityComparer_mem_capabilities
  have hguid : "guid" ∈ settings.capabilities ↔ (settings.descriptor name).isGuidLike :=
    ValueObjectSettings.guid_mem_capabilities
  have hnovalue : "default value" ∉ settings.capabilities ↔ (settings.descriptor name).hasDefaultValue = false := by
    rw [hvalue, Bool.not_eq_true]
  refine ⟨rfl, rfl, ?_, ?_, ?_, ?_, ?_, ?_, ?_⟩
  · exact hvalue.trans (h.infix_render_iff .defaultValue).symm
  · exact hnovalue.trans h.forbiddenConstructor_iff.symm
  · rw [hnovalue, ← Bool.not_eq_true']
    exact (h.infix_render_iff .forbiddenConstructor).symm
  · exact hcomparer.trans (h.infix_render_iff .equalityComparer).symm
  · exact hguid.trans (h.infix_render_iff .newIdentifier).symm
  · intro hmem
    exact ⟨_, SourceFile.render_of_isGuidLike (hguid.mp hmem), fun _ _ => h.newIdentifier_once (hguid.mp hmem)⟩
  · have hbare : (if settings.nullable = some true ∨ settings.nullable = none ∧ "guid" ∉ settings.capabilities then
        settings.inner ++ "?" else settings.inner) =
        (settings.descriptor name).innerTypeName ++ (settings.descriptor name).nullabilityMarker := by
      rw [ValueObjectSettings.descriptor]
      simp only [← ValueObjectSettings.isNullable_iff]
      split <;> simp
    rw [hbare]
    exact h.overloads

/-! ## Manifests -/

namespace Manifest

variable {m : Manifest}

/-- The summary of a manifest has the value objects that files are generated for, in the same order. -/
theorem check_valueObjects (m : Manifest) (config output : Path) :
    (m.check config output).valueObjects.map (fun s => (s.name, s.inner)) =
      m.sourceFiles.map fun f => (f.descriptor.typeName, f.descriptor.innerTypeName) := by
  simp [check, sourceFiles, descriptors, ValueObjectSettings.descriptor, Function.comp_def]

/-- The check of an accepted manifest tells what its source files have in them. -/
theorem check_tells_of_load {t : ManifestText} (hm : t.load = .ok m) (config output : Path) :
    (m.check config output).valueObjects.map (fun s => (s.name, s.inner)) =
        m.sourceFiles.map (fun f => (f.descriptor.typeName, f.descriptor.innerTypeName))
      ∧ ∀ (i : Nat) (name : String) (settings : ValueObjectSettings), m.valueObjects[i]? = some (name, settings) →
        ∃ (s : ValueObjectSummary) (f : SourceFile), (m.check config output).valueObjects[i]? = some s
          ∧ m.sourceFiles[i]? = some f ∧ s.name = name ∧ s.Tells settings.nullable f := by
  refine ⟨m.check_valueObjects config output, fun i name settings hi => ?_⟩
  have hfile : m.sourceFiles[i]? = some ⟨settings.descriptor name, m.generator.namespaceName⟩ := by
    simp [sourceFiles, descriptors, hi]
  have haccepted := (ManifestText.wellFormed_of_load hm).accepted (List.mem_of_getElem? hfile)
  exact ⟨⟨name, settings.inner, settings.capabilities⟩, _, by simp [check, hi], hfile, rfl, haccepted.tells⟩

/-- A text that declares an identifier, and a value object whose type makes a parameter look like a comparison. -/
def pairText : ManifestText :=
  ⟨"tvo.toml", "[value_objects.OrderId]\ninner = \"Guid\"\n"
    ++ "[value_objects.Pair]\ninner = \"Value,\"\nnullable = false\ndefault_value = true\n"⟩

theorem check_tells_pair : ∃ m f, pairText.load = .ok m ∧ m.sourceFiles[1]? = some f
    ∧ (⟨"Pair", "Value,", ["default value"]⟩ : ValueObjectSummary).Tells (some false) f := by
  have hload : pairText.load = .ok ⟨.standard, [("OrderId", ⟨"Guid", none, false, false, none⟩),
      ("Pair", ⟨"Value,", some false, true, false, none⟩)]⟩ := eq_ok_of_toOption (by decide +kernel)
  obtain ⟨s, f, hs, hf, -, htells⟩ := (check_tells_of_load hload ⟨"tvo.toml"⟩ defaultOutput).2 1 _ _ rfl
  obtain rfl : ⟨"Pair", "Value,", ["default value"]⟩ = s := Option.some.inj hs
  obtain rfl : ⟨⟨"Pair", "Value,", "", true, false, false⟩, none⟩ = f := Option.some.inj hf
  exact ⟨_, _, hload, hf, htells⟩

end Manifest

end ValueObjects
