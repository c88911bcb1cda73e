import ValueObjects.Proofs.Generate.Reports
import ValueObjects.Proofs.PathComponents

/-!
# Files stay in their directory

Where the generated files of an accepted manifest are, by their paths alone: each is one component behind the directory
that they are generated in, whatever that is and however it is written, and no two of them have the same path.
-/

namespace ValueObjects

/-! ## Files in a directory -/

/-- A path is that of a file with a name in a directory. -/
structure Path.IsFileIn (p base : Path) (name : String) : Prop where
  /-- The directory is left as it is written. -/
  text : p.text = base.text ++ name ∨ p.text = base.text ++ "/" ++ name
  components : p.components = base.components ++ [name]
  parent : ∃ q, p.parent? = some q ∧ q.components = base.components
  absolute : p.isAbsolute ↔ base.isAbsolute
  /-- The name is one name, which leads to no other directory. -/
  separator : '/' ∉ name.toList
  name_ne : name ≠ "" ∧ name ≠ "." ∧ name ≠ ".."

/-- A name without a slash that is no name of dots is that of a file in any directory it is joined to. -/
theorem Path.isFileIn_join {name : String} (hname : '/' ∉ name.toList) (hdots : ¬ FileSystem.isDotName name)
    (base : Path) : (base.join ⟨name⟩).IsFileIn base name := by
  simp only [FileSystem.isDotName, not_or] at hdots
  have hcomponent : isComponent name := by simp [isComponent, hdots]
  refine ⟨?_, components_join hname hcomponent, parent?_join hname hcomponent, ?_, hname, hdots⟩
  · by_cases hbase : base.endsOpen
    · exact .inl (text_join_of_endsOpen (not_isAbsolute_of_notMem hname) hbase)
    · exact .inr (text_join_of_not_endsOpen (not_isAbsolute_of_notMem hname) hbase)
  · rw [isAbsolute_join hname]

/-! ## Generated files -/

namespace Manifest

/-- The source files of an accepted manifest are in the directory that they are generated in, each under the name of its
value object, and at different paths. -/
theorem paths_stay_inside {t : ManifestText} {m : Manifest} (hload : t.load = .ok m) (base : Path) :
    m.sourceFiles.map SourceFile.fileName = m.valueObjects.map (·.1 ++ ".g.cs")
      ∧ (∀ f ∈ m.sourceFiles, (f.path base).IsFileIn base f.fileName)
      ∧ (m.sourceFiles.map fun f => (f.path base).components).Nodup := by
  have hm := ManifestText.wellFormed_of_load hload
  have hinside : ∀ f ∈ m.sourceFiles, (f.path base).IsFileIn base f.fileName := by
    intro f hf
    exact Path.isFileIn_join (hm.accepted hf).isPlain f.not_isDotName_fileName base
  refine ⟨map_fileName_sourceFiles m, hinside, ?_⟩
  -- the paths differ in their last component, which is the name of the file
  have hcomponents : m.sourceFiles.map (fun f => (f.path base).components) =
      (m.sourceFiles.map SourceFile.fileName).map (base.components ++ [·]) := by
    rw [List.map_map]
    exact List.map_congr_left fun f hf => (hinside f hf).components
  rw [hcomponents]
  refine List.Pairwise.map _ (fun a b hne heq => hne ?_) hm.nodup_fileName
  simpa using heq

/-- A text that declares two value objects whose names differ in one letter. -/
def tagText : ManifestText :=
  ⟨"tvo.toml", "[value_objects.Tag]\ninner = \"int\"\n[value_objects.tag]\ninner = \"int\"\n"⟩

/-- What the text declares. -/
def tagManifest : Manifest :=
  ⟨⟨none, defaultOutput⟩, [("Tag", ⟨"int", none, false, false, none⟩), ("tag", ⟨"int", none, false, false, none⟩)]⟩

theorem paths_of_tags_stay_inside :
    tagText.load = .ok tagManifest
      ∧ tagManifest.sourceFiles.map (·.path ⟨"/srv/../out/./"⟩) =
        [⟨"/srv/../out/./Tag.g.cs"⟩, ⟨"/srv/../out/./tag.g.cs"⟩]
      ∧ (∀ f ∈ tagManifest.sourceFiles, (f.path ⟨"/srv/../out/./"⟩).IsFileIn ⟨"/srv/../out/./"⟩ f.fileName)
      ∧ (tagManifest.sourceFiles.map fun f => (f.path ⟨"/srv/../out/./"⟩).components).Nodup := by
  have hload : tagText.load = .ok tagManifest := eq_ok_of_toOption (by decide +kernel)
  obtain ⟨-, hinside, hnodup⟩ := paths_stay_inside hload ⟨"/srv/../out/./"⟩
  exact ⟨hload, by decide +kernel, hinside, hnodup⟩

end Manifest

end ValueObjects
