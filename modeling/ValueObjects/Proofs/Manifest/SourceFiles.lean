import ValueObjects.Proofs.Manifest.Accepted
import ValueObjects.Proofs.Manifest.TypeExpressions
import ValueObjects.Proofs.Text.Split

/-!
# Source files of accepted manifests

The texts that a source file is made of. For an accepted manifest all of them consist of a few harmless characters,
which have no slash and no end of a line among them, and no two files have the same name.
-/

namespace ValueObjects

/-! ## Harmless texts -/

/-- Decide whether a character neither ends anything in the generated language nor begins something else: letters and
digits, dots and colons, what is around type arguments and array bounds, and the mark of a type that may be absent. -/
def isHarmless (c : Char) : Bool := c.isAlphanum || "_.:<>, []?".toList.contains c

/-- A text that consists of what names, types and namespaces are made of. -/
def Harmless (s : String) : Prop := ∀ c ∈ s.toList, isHarmless c

theorem Harmless.notMem {s : String} (h : Harmless s) {c : Char} (hc : isHarmless c = false) : c ∉ s.toList := by
  intro hmem
  rw [h c hmem] at hc
  cases hc

theorem isHarmless_of_isNamePart {c : Char} (h : isNamePart c) : isHarmless c := by
  simp only [isNamePart, Bool.or_eq_true, beq_iff_eq] at h
  rcases h with h | rfl
  · simp [isHarmless, h]
  · decide

theorem isHarmless_of_isTypeCharacter {c : Char} (h : isTypeCharacter c) : isHarmless c := by
  simp only [isTypeCharacter, Bool.or_eq_true] at h
  rcases h with h | h
  · simp [isHarmless, h]
  · have hall : "_.:<>, []".toList.all isHarmless := by decide
    exact List.all_eq_true.mp hall c (List.contains_iff_mem.mp h)

theorem IsIdentifier.harmless {name : String} (h : IsIdentifier name) : Harmless name := by
  intro c hc
  apply isHarmless_of_isNamePart
  exact h.isNamePart hc

/-- A namespace consists of names and dots. -/
theorem isNamePart_of_segments {name : String} (h : ∀ segment ∈ namespaceSegments name, IsIdentifier segment) {c : Char}
    (hc : c ∈ name.toList) : c = '.' ∨ isNamePart c := by
  have hsplit : c = '.' ∨ ∃ part ∈ Text.split '.' name.toList, c ∈ part := Text.mem_split hc
  refine hsplit.imp_right ?_
  rintro ⟨part, hpart, hc⟩
  exact (h (String.ofList part) (List.mem_map_of_mem hpart)).isNamePart (by simpa using hc)

theorem harmless_of_segments {name : String} (h : ∀ segment ∈ namespaceSegments name, IsIdentifier segment) :
    Harmless name := by
  intro c hc
  rcases isNamePart_of_segments h hc with rfl | hpart
  · decide
  · exact isHarmless_of_isNamePart hpart

theorem harmless_of_typeFlaw? {expression : String} (h : typeFlaw? expression = none) : Harmless expression := by
  intro c hc
  exact isHarmless_of_isTypeCharacter ((typeFlaw?_eq_none.mp h).characters c hc)

/-! ## Accepted source files -/

/-- What is known about the source file of an accepted value object. -/
structure SourceFile.Accepted (f : SourceFile) : Prop where
  typeName : IsIdentifier f.descriptor.typeName
  innerTypeName : typeFlaw? f.descriptor.innerTypeName = none
  inner_ne : f.descriptor.innerTypeName ≠ f.descriptor.typeName
  marker : f.descriptor.nullabilityMarker = "" ∨ f.descriptor.nullabilityMarker = "?"
  segments : ∀ name, f.namespaceName = some name → ∀ segment ∈ namespaceSegments name, IsIdentifier segment

namespace SourceFile.Accepted

variable {f : SourceFile}

theorem harmless_typeName (h : f.Accepted) : Harmless f.descriptor.typeName := h.typeName.harmless

theorem harmless_innerTypeName (h : f.Accepted) : Harmless f.descriptor.innerTypeName :=
  harmless_of_typeFlaw? h.innerTypeName

theorem harmless_marker (h : f.Accepted) : Harmless f.descriptor.nullabilityMarker := by
  rcases h.marker with hm | hm
  · simp [Harmless, hm]
  · rw [hm]
    intro c hc
    obtain rfl : c = '?' := by simpa using hc
    decide

theorem harmless_namespaceName (h : f.Accepted) {name : String} (hname : f.namespaceName = some name) :
    Harmless name :=
  harmless_of_segments (h.segments name hname)

end SourceFile.Accepted

namespace Manifest

variable {m : Manifest}

/-- The source file of a declared value object. -/
def declaredFile (m : Manifest) (e : String × ValueObjectSettings) : SourceFile :=
  ⟨e.2.descriptor e.1, m.generator.namespaceName⟩

theorem sourceFiles_eq_map (m : Manifest) : m.sourceFiles = m.valueObjects.map m.declaredFile := by
  rw [sourceFiles, descriptors, List.map_map]
  rfl

theorem declaredFile_mem {e : String × ValueObjectSettings} (he : e ∈ m.valueObjects) :
    m.declaredFile e ∈ m.sourceFiles :=
  m.sourceFiles_eq_map ▸ List.mem_map_of_mem he

theorem map_sourceFiles {α : Type} (m : Manifest) (g : SourceFile → α) :
    m.sourceFiles.map g = m.valueObjects.map fun e => g (m.declaredFile e) := by
  rw [sourceFiles_eq_map, List.map_map]
  rfl

theorem forall_mem_sourceFiles {p : SourceFile → Prop} :
    (∀ f ∈ m.sourceFiles, p f) ↔ ∀ e ∈ m.valueObjects, p (m.declaredFile e) := by
  rw [sourceFiles_eq_map, List.forall_mem_map]

/-- A file has the name of its value object. -/
theorem map_fileName_sourceFiles (m : Manifest) :
    m.sourceFiles.map SourceFile.fileName = m.valueObjects.map (·.1 ++ ".g.cs") :=
  m.map_sourceFiles SourceFile.fileName

theorem WellFormed.accepted (h : m.WellFormed) {f : SourceFile} (hf : f ∈ m.sourceFiles) : f.Accepted := by
  rw [sourceFiles_eq_map] at hf
  obtain ⟨e, he, rfl⟩ := List.mem_map.mp hf
  obtain ⟨hname, hinner, hne⟩ := h.valueObjects e he
  refine ⟨hname, hinner, hne, ?_, h.segments⟩
  cases hnullable : e.2.isNullable <;> simp [declaredFile, ValueObjectSettings.descriptor, hnullable]

/-- Value objects with distinct names have files with distinct names. -/
theorem WellFormed.nodup_fileName (h : m.WellFormed) : (m.sourceFiles.map SourceFile.fileName).Nodup := by
  have hnames : m.sourceFiles.map SourceFile.fileName = (m.valueObjects.map (·.1)).map (· ++ ".g.cs") := by
    rw [map_fileName_sourceFiles, List.map_map]
    rfl
  rw [hnames]
  apply List.Pairwise.map _ _ h.names
  intro a b hne heq
  apply hne
  simpa [← String.toList_inj] using heq

end Manifest

end ValueObjects
