import ValueObjects.Files.Changes
import ValueObjects.Proofs.Generate.Reports
import ValueObjects.Proofs.Rendering.Injectivity

/-!
# Generating again

A second run in the same directory. A file that both runs are about is written again exactly if there is something new
to say about it, since its text tells everything that it was made from. Files of the first run alone stay.
-/

namespace ValueObjects

open FileSystem SourceFile

/-! ## Contents -/

namespace SourceFile

variable {base : Path} {here : Location} {files : List SourceFile} {fs more : FileSystem} {f : SourceFile}

theorem path_eq_of_fileName_eq {f g : SourceFile} (h : f.fileName = g.fileName) : f.path base = g.path base := by
  rw [path, path, h]

theorem fileName_eq_iff {f g : SourceFile} : f.fileName = g.fileName ↔ f.descriptor.typeName = g.descriptor.typeName := by
  rw [fileName_eq, fileName_eq, String.append_left_inj]

/-- In a directory that led somewhere before, every file is looked up by its path, in effect. -/
theorem Produced.isWritten_iff (h : Produced base here files fs more) (hf : f ∈ files) (hname : f.IsPlain)
    (hhere : ∃ there, fs.LeadsTo base there) :
    f.isWritten base here files fs = true ↔ ¬ fs.Holds (f.path base) f.render := by
  obtain ⟨there, hthere⟩ := hhere
  obtain rfl := (h.isMore.leadsTo hthere).unique (h.leadsTo (List.ne_nil_of_mem hf))
  rw [holds_iff_not_isStale hname hthere (h.located f hf), isWritten]
  split
  · simp [holds_iff_not_isStale hname hthere (h.located f hf)]
  · simp

/-- A file with another name than those of a run stays. -/
theorem Produced.holds_of_notMem (h : Produced base here files fs more) (hname : f.IsPlain)
    (hf : f.fileName ∉ files.map fileName) {content : String} (hholds : fs.Holds (f.path base) content) :
    more.Holds (f.path base) content := by
  obtain ⟨l, hlocate, hnode⟩ := holds_iff.mp hholds
  have hlocate := h.isMore.locate hlocate
  exact holds_iff.mpr ⟨l, hlocate, (h.file_iff_of_locate hname hf hlocate _).mpr hnode⟩

end SourceFile

/-! ## Second runs -/

namespace Manifest

variable {m n : Manifest} {base : Path} {here there : Location} {fs mid more : FileSystem}

/-- A file that both runs are about is written by the second one if it became another file. -/
theorem isWritten_again_iff (hm : m.WellFormed) (hn : n.WellFormed) (hfirst : Produced base here m.sourceFiles fs mid)
    (hsecond : Produced base there n.sourceFiles mid more) {f g : SourceFile} (hf : f ∈ m.sourceFiles)
    (hg : g ∈ n.sourceFiles) (hname : f.fileName = g.fileName) :
    g.isWritten base there n.sourceFiles mid = true ↔ f ≠ g := by
  have hhere : ∃ l, mid.LeadsTo base l := ⟨here, hfirst.leadsTo (List.ne_nil_of_mem hf)⟩
  have hholds : mid.Holds (g.path base) f.render := path_eq_of_fileName_eq hname ▸ hfirst.holds hf
  rw [hsecond.isWritten_iff hg (hn.accepted hg).isPlain hhere]
  refine not_congr ⟨fun hagain => ?_, fun heq => heq ▸ hfirst.holds hf⟩
  have hlines := (hm.accepted hf).singleLine.lines_eq_of_render_eq (hn.accepted hg).singleLine (hholds.unique hagain)
  exact eq_of_outline_lines hlines

/-- A second run of one manifest writes nothing. -/
theorem not_isWritten_again (hm : m.WellFormed) (hfirst : Produced base here m.sourceFiles fs mid)
    (hsecond : Produced base there m.sourceFiles mid more) :
    ∀ f ∈ m.sourceFiles, f.isWritten base there m.sourceFiles mid = false := by
  intro f hf
  have hagain := isWritten_again_iff hm hm hfirst hsecond hf hf rfl
  simpa using hagain

/-- What a second run in a directory does: the files that it writes, those that it leaves alone, and what becomes of
the files of the first one. -/
structure GeneratedAgain (m n : Manifest) (base : Path) (mid more : FileSystem) (noted : WrittenFiles) : Prop where
  /-- A file is written if its value object or the namespace is another one than before. -/
  written : ∀ name s s', (name, s) ∈ m.valueObjects → (name, s') ∈ n.valueObjects →
    (name ++ ".g.cs" ∈ noted.written ↔
      s.descriptor name ≠ s'.descriptor name ∨ m.generator.namespaceName ≠ n.generator.namespaceName)
  /-- Otherwise it is unchanged. -/
  unchanged : ∀ name s s', (name, s) ∈ m.valueObjects → (name, s') ∈ n.valueObjects →
    (name ++ ".g.cs" ∈ noted.unchanged ↔
      s.descriptor name = s'.descriptor name ∧ m.generator.namespaceName = n.generator.namespaceName)
  /-- A value object that is declared no more keeps its file. -/
  kept : ∀ name s, (name, s) ∈ m.valueObjects → (∀ s', (name, s') ∉ n.valueObjects) →
    more.Holds (base.join ⟨name ++ ".g.cs"⟩) (SourceFile.render ⟨s.descriptor name, m.generator.namespaceName⟩)
  /-- Without a change of the manifest nothing happens. -/
  same : m = n → noted.written = [] ∧ noted.unchanged = n.valueObjects.map (·.1 ++ ".g.cs") ∧ noted.skipped = []
    ∧ more = mid

/-- Two runs of the generator in one directory, both for accepted manifests. -/
theorem generate_again_writes_changes {t u : ManifestText} (hload : t.load = .ok m) (hload' : u.load = .ok n)
    {r r' : GenerateReport} (hrun : (m.generate base false : StateM FileSystem _).run fs = (.ok r, mid))
    (hrun' : (n.generate base false : StateM FileSystem _).run mid = (.ok r', more)) :
    ∃ noted, r'.result = .written noted ∧ GeneratedAgain m n base mid more noted := by
  have hm := ManifestText.wellFormed_of_load hload
  have hn := ManifestText.wellFormed_of_load hload'
  obtain ⟨here, hfirst, -, -⟩ := run_generate hm hrun
  obtain ⟨there, hsecond, rfl, hsame⟩ := run_generate hn hrun'
  have hagain : ∀ name s s', (name, s) ∈ m.valueObjects → (name, s') ∈ n.valueObjects →
      ((n.declaredFile (name, s')).isWritten base there n.sourceFiles mid = true ↔
        s.descriptor name ≠ s'.descriptor name ∨ m.generator.namespaceName ≠ n.generator.namespaceName) := by
    intro name s s' hs hs'
    rw [isWritten_again_iff hm hn hfirst hsecond (declaredFile_mem hs) (declaredFile_mem hs') rfl]
    simp only [declaredFile, ne_eq, SourceFile.mk.injEq, Decidable.not_and_iff_or_not]
  refine ⟨noted (.none base) n.sourceFiles (isWritten base there n.sourceFiles mid), rfl, ?_⟩
  constructor
  case written =>
    intro name s s' hs hs'
    exact (mem_written_noted hn.nodup_fileName (declaredFile_mem hs')).trans (hagain name s s' hs hs')
  case unchanged =>
    intro name s s' hs hs'
    refine (mem_unchanged_noted hn.nodup_fileName (declaredFile_mem hs')).trans ?_
    rw [← Bool.not_eq_true, hagain name s s' hs hs']
    simp
  case kept =>
    intro name s hs hnone
    have hf := declaredFile_mem hs
    apply hsecond.holds_of_notMem (hm.accepted hf).isPlain _ (hfirst.holds hf)
    intro hmem
    obtain ⟨g, hg, hname⟩ := List.mem_map.mp hmem
    rw [sourceFiles_eq_map] at hg
    obtain ⟨e, he, rfl⟩ := List.mem_map.mp hg
    obtain rfl : e.1 = name := fileName_eq_iff.mp hname
    exact hnone e.2 he
  case same =>
    rintro rfl
    have hnone := not_isWritten_again hm hfirst hsecond
    have hwritten : m.sourceFiles.filter (isWritten base there m.sourceFiles mid) = [] :=
      List.filter_eq_nil_iff.mpr fun f hf => by simp [hnone f hf]
    have hunchanged : m.sourceFiles.filter (!isWritten base there m.sourceFiles mid ·) = m.sourceFiles :=
      List.filter_eq_self.mpr fun f hf => by simp [hnone f hf]
    refine ⟨?_, ?_, rfl, hsame hnone⟩
    · simp [noted, WrittenFiles.none, hwritten]
    · simp only [noted, WrittenFiles.none, hunchanged, List.nil_append]
      exact map_fileName_sourceFiles m

/-- A text that declares one value object. -/
def countText : ManifestText := ⟨"tvo.toml", "[value_objects.Count]\ninner = \"int\"\n"⟩

/-- The same value object with a default value. -/
def startingCountText : ManifestText := ⟨"tvo.toml", "[value_objects.Count]\ninner = \"int\"\ndefault_value = true\n"⟩

/-- The manifest in the first text. -/
def count : Manifest := ⟨.standard, [("Count", ⟨"int", none, false, false, none⟩)]⟩

/-- The manifest in the second text. -/
def startingCount : Manifest := ⟨.standard, [("Count", ⟨"int", none, true, false, none⟩)]⟩

/-- Files as they are when the first manifest was used once. -/
def counted : FileSystem := ((count.generate ⟨"out"⟩ false : StateM FileSystem _).run .fresh).2

theorem generate_startingCount_writes_changes : ∃ r r' more noted, countText.load = .ok count
    ∧ startingCountText.load = .ok startingCount
    ∧ (count.generate ⟨"out"⟩ false : StateM FileSystem _).run .fresh = (.ok r, counted)
    ∧ (startingCount.generate ⟨"out"⟩ false : StateM FileSystem _).run counted = (.ok r', more)
    ∧ r'.result = .written noted ∧ "Count.g.cs" ∈ noted.written
    ∧ GeneratedAgain count startingCount ⟨"out"⟩ counted more noted := by
  have hload : countText.load = .ok count := eq_ok_of_toOption (by decide +kernel)
  have hload' : startingCountText.load = .ok startingCount := eq_ok_of_toOption (by decide +kernel)
  have hrun : (count.generate ⟨"out"⟩ false : StateM FileSystem _).run .fresh =
      (.ok ⟨1, none, .written ⟨⟨"out"⟩, ["Count.g.cs"], [], []⟩⟩, counted) :=
    Prod.ext (eq_ok_of_toOption (by decide +kernel)) rfl
  have hok : ((startingCount.generate ⟨"out"⟩ false : StateM FileSystem _).run counted).1.isOk := by
    let file : SourceFile := ⟨⟨"Count", "int", "?", true, false, false⟩, none⟩
    have hfiles : startingCount.sourceFiles = [file] := by decide +kernel
    have hdone : (((file.generated ⟨"out"⟩).replace : StateM FileSystem _).run counted).1.toOption = some () := by
      decide +kernel
    rw [generate, if_neg (by simp), run_bind, hfiles, writeFiles, run_bind, GeneratedFile.run_write,
      if_neg (by simp [generated, SourceFile.rule])]
    -- whether or not the text is the same, nothing is refused
    by_cases hholds : counted.Holds (file.generated ⟨"out"⟩).path (file.generated ⟨"out"⟩).content
    · rw [if_pos hholds]
      rfl
    · rw [if_neg hholds, eq_ok_of_toOption hdone]
      rfl
  obtain ⟨r', more, hrun'⟩ := exists_eq_ok_of_isOk hok
  obtain ⟨noted, hresult, hagain⟩ := generate_again_writes_changes hload hload' hrun hrun'
  have hwritten : "Count.g.cs" ∈ noted.written :=
    (hagain.written "Count" _ _ (.head _) (.head _)).mpr (.inl (by decide))
  exact ⟨_, r', more, noted, hload, hload', hrun, hrun', hresult, hwritten, hagain⟩

end Manifest

end ValueObjects
