import Mathlib.Data.List.Nodup
import ValueObjects.Files.Changes
import ValueObjects.Proofs.Generate.Reports

/-!
# Bringing a directory up to date

What the generator promises about the files that it leaves behind and about its report, whatever there was before: old
files with other contents, files that are no texts, or nothing at all.
-/

namespace ValueObjects

open FileSystem SourceFile

/-! ## Before and after -/

namespace SourceFile.Produced

variable {base : Path} {here : Location} {files : List SourceFile} {fs more : FileSystem}

/-- No file became a directory. -/
theorem directory_of_isThere (h : Produced base here files fs more) (l : Location)
    (hdir : more.node? l = some .directory) (hthere : (fs.node? l).isSome) : fs.node? l = some .directory := by
  by_cases hl : ∃ f ∈ files, l = here ++ [f.fileName]
  · obtain ⟨f, hf, rfl⟩ := hl
    rw [h.content f hf] at hdir
    cases hdir
  · have hother : ∀ f ∈ files, l ≠ here ++ [f.fileName] := fun f hf heq => hl ⟨f, hf, heq⟩
    rcases h.elsewhere l hother with hsame | ⟨hnone, -⟩
    · rw [← hsame, hdir]
    · rw [hnone] at hthere
      cases hthere

/-- In a directory that was there, what a path leads to is where it leads in the end. -/
theorem holds_iff_of_isDirectory (h : Produced base here files fs more) {f : SourceFile} (hf : f ∈ files)
    (hname : f.IsPlain) (hbase : fs.isDirectory base) :
    fs.Holds (f.path base) f.render ↔ f.isStale here fs = false := by
  -- the names that lead to the files are the first names of the directory's own path
  obtain ⟨l, hlocate, -⟩ := isDirectory_iff.mp hbase
  obtain ⟨-, hwalk⟩ := locate_eq_ok.mp hlocate
  obtain ⟨names, hnames⟩ := base.directoryNames_isPrefix
  rw [← hnames, walk_append_eq_ok] at hwalk
  obtain ⟨there, hthere, -⟩ := hwalk
  obtain rfl := (h.isMore.leadsTo hthere).unique (h.leadsTo (List.ne_nil_of_mem hf))
  exact holds_iff_not_isStale hname hthere (h.located f hf)

/-- Without `..` nothing is found in the end that could not be found before. -/
theorem holds_iff_of_notMem (h : Produced base here files fs more) {f : SourceFile} (hf : f ∈ files)
    (hname : f.IsPlain) (hdots : ".." ∉ base.parts) :
    fs.Holds (f.path base) f.render ↔ f.isStale here fs = false := by
  constructor
  · intro hholds
    obtain ⟨l, hlocate, hnode⟩ := holds_iff.mp hholds
    have heq := h.isMore.locate hlocate
    rw [h.located f hf, Except.ok.injEq] at heq
    rwa [not_isStale_iff, heq]
  · intro hfresh
    have hnode := not_isStale_iff.mp hfresh
    have hthere : (fs.node? here).isSome := isThere_of_isPrefix (List.prefix_append here [f.fileName]) (by simp [hnode])
    have hmore : more.LeadsTo base here := h.leadsTo (List.ne_nil_of_mem hf)
    -- the walk goes down only, through what was there before the run
    have hdots' : ".." ∉ base.directoryNames := fun hmem => hdots (base.directoryNames_isPrefix.subset hmem)
    have hhere : fs.LeadsTo base here := by
      unfold LeadsTo at hmore ⊢
      rw [h.isMore.start] at hmore
      exact walk_of_isThere h.directory_of_isThere hdots' hmore hthere
    exact (holds_iff_not_isStale hname hhere (h.located f hf)).mpr hfresh

end SourceFile.Produced

/-! ## The promise -/

/-- What a run of the generator did: from one file system to another, and by its report. -/
structure BroughtUpToDate (m : Manifest) (base : Path) (fs more : FileSystem) (r : GenerateReport)
    (noted : WrittenFiles) : Prop where
  /-- Every declared value object has its file with its text. -/
  content : ∀ e ∈ m.valueObjects, more.Holds (base.join ⟨e.1 ++ ".g.cs"⟩) (m.declaredFile e).render
  /-- Other files are what they were. -/
  otherFiles : ∀ l content, (∀ e ∈ m.valueObjects, more.locate (base.join ⟨e.1 ++ ".g.cs"⟩) ≠ .ok l) →
    (more.node? l = some (.file content) ↔ fs.node? l = some (.file content))
  oldDirectories : ∀ l, fs.node? l = some .directory → more.node? l = some .directory
  /-- A new directory is where there was nothing, and it is what a first part of the directory leads to. -/
  newDirectories : ∀ l, more.node? l = some .directory → fs.node? l ≠ some .directory →
    fs.node? l = none ∧ ∃ q : Path, q.IsLexicalPrefix base ∧ more.locate q = .ok l
  untouched : noted.written = [] → more = fs
  result : r.result = .written noted
  count : r.count = m.valueObjects.length
  /-- Every declared file is noted once, in its turn. -/
  distinct : (m.valueObjects.map (·.1 ++ ".g.cs")).Nodup
  written : noted.written.Sublist (m.valueObjects.map (·.1 ++ ".g.cs"))
  unchanged : noted.unchanged.Sublist (m.valueObjects.map (·.1 ++ ".g.cs"))
  skipped : noted.skipped = []
  disjoint : ∀ name ∈ noted.written, name ∉ noted.unchanged
  all : (noted.written ++ noted.unchanged).Perm (m.valueObjects.map (·.1 ++ ".g.cs"))
  /-- A file was written if it was not there with its text, in a directory without `..` or one that was there. The
  first file is looked up by its path in any directory. -/
  stale : ∀ e ∈ m.valueObjects, (".." ∉ base.parts ∨ fs.isDirectory base ∨ m.valueObjects.head? = some e) →
    (e.1 ++ ".g.cs" ∈ noted.written ↔ ¬ fs.Holds (base.join ⟨e.1 ++ ".g.cs"⟩) (m.declaredFile e).render)
  /-- Any other file was written if it was not where its path leads in the end. -/
  staleAtEnd : ∀ e ∈ m.valueObjects, m.valueObjects.head? ≠ some e →
    ∀ l, more.locate (base.join ⟨e.1 ++ ".g.cs"⟩) = .ok l →
      (e.1 ++ ".g.cs" ∈ noted.written ↔ fs.node? l ≠ some (.file (m.declaredFile e).render.toUTF8))
  /-- Every declared file has one line in the report. -/
  items : (r.lines.filter ReportLine.isItem).Perm
    (m.valueObjects.map fun e => ReportLine.ofFile (e.1 ++ ".g.cs") (decide (e.1 ++ ".g.cs" ∈ noted.written)))

namespace Manifest

/-- A file that is not the first one is looked up where its path leads in the end. -/
theorem mem_written_iff_isStale {m : Manifest} (hm : m.WellFormed) {base : Path} {here : Location} {fs : FileSystem}
    {f : SourceFile} (hf : f ∈ m.sourceFiles) (hfirst : m.sourceFiles.head? ≠ some f) :
    f.fileName ∈ (noted (.none base) m.sourceFiles (isWritten base here m.sourceFiles fs)).written ↔
      f.isStale here fs = true := by
  rw [mem_written_noted hm.nodup_fileName hf, isWritten, if_neg hfirst]

/-- The first file is looked up by its path. -/
theorem mem_written_iff_not_holds {m : Manifest} (hm : m.WellFormed) {base : Path} {here : Location} {fs : FileSystem}
    {f : SourceFile} (hf : f ∈ m.sourceFiles) (hfirst : m.sourceFiles.head? = some f) :
    f.fileName ∈ (noted (.none base) m.sourceFiles (isWritten base here m.sourceFiles fs)).written ↔
      ¬ fs.Holds (f.path base) f.render := by
  rw [mem_written_noted hm.nodup_fileName hf, isWritten, if_pos hfirst]
  simp

theorem path_declaredFile (m : Manifest) (base : Path) (e : String × ValueObjectSettings) :
    (m.declaredFile e).path base = base.join ⟨e.1 ++ ".g.cs"⟩ :=
  rfl

/-- The first file is that of the value object that is declared first. -/
theorem WellFormed.head?_sourceFiles {m : Manifest} (hm : m.WellFormed) {e : String × ValueObjectSettings}
    (he : e ∈ m.valueObjects) : m.sourceFiles.head? = some (m.declaredFile e) ↔ m.valueObjects.head? = some e := by
  rw [sourceFiles_eq_map, List.head?_map, Option.map_eq_some_iff]
  constructor
  · rintro ⟨first, hfirst, hfile⟩
    have hname : first.1 = e.1 := congrArg (·.descriptor.typeName) hfile
    rwa [List.inj_on_of_nodup_map hm.names (List.mem_of_head? hfirst) he hname] at hfirst
  · intro hfirst
    exact ⟨e, hfirst, rfl⟩

/-- Whenever the generator ends well for an accepted manifest, it kept its promise. -/
theorem generate_brings_up_to_date {t : ManifestText} {m : Manifest} (hload : t.load = .ok m) {base : Path}
    {fs more : FileSystem} {r : GenerateReport}
    (hrun : (m.generate base false : StateM FileSystem _).run fs = (.ok r, more)) :
    ∃ noted, BroughtUpToDate m base fs more r noted := by
  have hm := ManifestText.wellFormed_of_load hload
  obtain ⟨here, hproduced, rfl, hsame⟩ := run_generate hm hrun
  have hperm := noted_perm base m.sourceFiles (isWritten base here m.sourceFiles fs)
  have hnames := map_fileName_sourceFiles m
  refine ⟨noted (.none base) m.sourceFiles (isWritten base here m.sourceFiles fs), ?_⟩
  constructor
  case content =>
    intro e he
    rw [← path_declaredFile m]
    exact hproduced.holds (declaredFile_mem he)
  case otherFiles =>
    intro l content hl
    simp only [← path_declaredFile m] at hl
    exact hproduced.file_iff (forall_mem_sourceFiles.mpr hl) content
  case oldDirectories => exact hproduced.isMore.directory
  case newDirectories =>
    intro l hdir hnew
    exact hproduced.newDirectory hdir hnew
  case untouched =>
    intro hnone
    apply hsame
    intro f hf
    have hnot := mt (mem_written_noted hm.nodup_fileName hf).mpr (hnone ▸ List.not_mem_nil)
    simpa using hnot
  case result => rfl
  case count => rw [sourceFiles_eq_map, List.length_map]
  case distinct => exact hnames ▸ hm.nodup_fileName
  case written => exact hnames ▸ List.filter_sublist.map fileName
  case unchanged => exact hnames ▸ List.filter_sublist.map fileName
  case skipped => rfl
  case disjoint =>
    obtain ⟨-, -, hne⟩ := List.nodup_append.mp (hperm.nodup_iff.mpr hm.nodup_fileName)
    intro name hwritten hunchanged
    exact hne name hwritten name hunchanged rfl
  case all => exact hnames ▸ hperm
  case stale =>
    intro e he hlookup
    have hf := declaredFile_mem he
    rw [← path_declaredFile m]
    by_cases hfirst : m.sourceFiles.head? = some (m.declaredFile e)
    · exact mem_written_iff_not_holds hm hf hfirst
    · have hname := (hm.accepted hf).isPlain
      have hholds : fs.Holds ((m.declaredFile e).path base) (m.declaredFile e).render ↔
          (m.declaredFile e).isStale here fs = false := by
        rcases hlookup with hdots | hbase | h
        · exact hproduced.holds_iff_of_notMem hf hname hdots
        · exact hproduced.holds_iff_of_isDirectory hf hname hbase
        · exact absurd ((hm.head?_sourceFiles he).mpr h) hfirst
      refine (mem_written_iff_isStale hm hf hfirst).trans (Iff.trans ?_ (not_congr hholds.symm))
      simp
  case staleAtEnd =>
    intro e he hfirst l hl
    have hf := declaredFile_mem he
    rw [← path_declaredFile m] at hl
    obtain rfl := Except.ok.inj ((hproduced.located _ hf).symm.trans hl)
    refine (mem_written_iff_isStale hm hf (mt (hm.head?_sourceFiles he).mp hfirst)).trans ?_
    simp [isStale]
  case items =>
    have hskipped : (noted (.none base) m.sourceFiles (isWritten base here m.sourceFiles fs)).skipped = [] := rfl
    rw [GenerateReport.filter_isItem_lines rfl, hskipped, List.append_nil]
    refine (items_perm base m.sourceFiles (isWritten base here m.sourceFiles fs)).trans (.of_eq ?_)
    rw [map_sourceFiles]
    apply List.map_congr_left
    intro e he
    have hiff : (m.declaredFile e).fileName ∈ (noted (.none base) m.sourceFiles
        (isWritten base here m.sourceFiles fs)).written ↔
          (m.declaredFile e).isWritten base here m.sourceFiles fs = true :=
      mem_written_noted hm.nodup_fileName (declaredFile_mem he)
    refine congrArg (ReportLine.ofFile (e.1 ++ ".g.cs")) ?_
    rw [Bool.eq_iff_iff, decide_eq_true_iff]
    exact hiff.symm

/-! ## A detour -/

/-- A text that declares two value objects. -/
def twoText : ManifestText := ⟨"tvo.toml", "[value_objects.A]\ninner = \"int\"\n[value_objects.B]\ninner = \"int\"\n"⟩

/-- The manifest in that text. -/
def two : Manifest :=
  ⟨.standard, [("A", ⟨"int", none, false, false, none⟩), ("B", ⟨"int", none, false, false, none⟩)]⟩

theorem load_twoText : twoText.load = .ok two := eq_ok_of_toOption (by decide +kernel)

theorem generate_two_brings_up_to_date : ∃ more r noted, twoText.load = .ok two
    ∧ (two.generate ⟨"out"⟩ false : StateM FileSystem _).run .fresh = (.ok r, more)
    ∧ BroughtUpToDate two ⟨"out"⟩ .fresh more r noted := by
  have hok : ((two.generate ⟨"out"⟩ false : StateM FileSystem _).run .fresh).1.isOk := by decide +kernel
  obtain ⟨r, more, hrun⟩ := exists_eq_ok_of_isOk hok
  obtain ⟨noted, hnoted⟩ := generate_brings_up_to_date load_twoText hrun
  exact ⟨more, r, noted, load_twoText, hrun, hnoted⟩

/-- The first of the two files. -/
def twoFirst : SourceFile := ⟨⟨"A", "int", "?", false, false, false⟩, none⟩

/-- The second of the two files. -/
def twoSecond : SourceFile := ⟨⟨"B", "int", "?", false, false, false⟩, none⟩

/-- Both files in a directory, up to date. -/
def twoThere : FileSystem where
  root := .directory "out" (.file "A.g.cs" twoFirst.render.toUTF8 (.file "B.g.cs" twoSecond.render.toUTF8 .empty)) .empty
  workingDirectory := []

/-- A path to that directory by way of another one, which is not there. -/
def detour : Path := ⟨"new/../out"⟩

/-- Both files when the first one was written by way of the other directory. -/
def detourMade : FileSystem := (((twoFirst.generated detour).replace : StateM FileSystem _).run twoThere).2

theorem run_write_twoFirst :
    ((twoFirst.generated detour).write : StateM FileSystem _).run twoThere = (.ok .written, detourMade) := by
  have hnot : ¬ twoThere.Holds (twoFirst.generated detour).path (twoFirst.generated detour).content := by decide +kernel
  have hdone : (((twoFirst.generated detour).replace : StateM FileSystem _).run twoThere).1.toOption = some () := by
    decide +kernel
  rw [GeneratedFile.run_write, if_neg (by simp [generated, SourceFile.rule]), if_neg hnot, eq_ok_of_toOption hdone]
  rfl

theorem run_write_twoSecond :
    ((twoSecond.generated detour).write : StateM FileSystem _).run detourMade = (.ok .unchanged, detourMade) := by
  have hname : twoFirst.IsPlain := show '/' ∉ twoFirst.fileName.toList by decide +kernel
  obtain ⟨⟨here, -, hproduced⟩, -⟩ := run_write_ok hname run_write_twoFirst
  have hlocate : detourMade.locate (twoSecond.path detour) = .ok ["out", "B.g.cs"] :=
    eq_ok_of_toOption (by decide +kernel)
  have hold : twoThere.node? ["out", "B.g.cs"] = some (.file twoSecond.render.toUTF8) := rfl
  have hother : ∀ f ∈ [twoFirst], ["out", "B.g.cs"] ≠ here ++ [f.fileName] := by
    intro f hf heq
    rw [List.mem_singleton.mp hf] at heq
    have hlast := congrArg List.getLast? heq
    rw [List.getLast?_concat] at hlast
    exact absurd hlast (by decide +kernel)
  have hnode : detourMade.node? ["out", "B.g.cs"] = some (.file twoSecond.render.toUTF8) :=
    ((hproduced.elsewhere _ hother).file_iff _).mpr hold
  have hholds : detourMade.Holds (twoSecond.generated detour).path (twoSecond.generated detour).content :=
    holds_iff.mpr ⟨_, hlocate, hnode⟩
  rw [GeneratedFile.run_write, if_neg (by simp [generated, SourceFile.rule]), if_pos hholds]

/-- By way of a directory that is not there nothing can be found at first, but the second file is found as soon as the
first one is written. -/
theorem not_written_after_detour : ∃ more r noted, twoText.load = .ok two
    ∧ (two.generate detour false : StateM FileSystem _).run twoThere = (.ok r, more) ∧ r.result = .written noted
    ∧ twoSecond ∈ two.sourceFiles
    ∧ ¬ (twoSecond.fileName ∈ noted.written ↔ ¬ twoThere.Holds (twoSecond.path detour) twoSecond.render) := by
  have hfiles : two.sourceFiles = [twoFirst, twoSecond] := by decide +kernel
  have hnot : ¬ twoThere.Holds (twoSecond.path detour) twoSecond.render := by decide +kernel
  have hrun : (two.generate detour false : StateM FileSystem _).run twoThere =
      (.ok ⟨2, none, .written ⟨detour, ["A.g.cs"], ["B.g.cs"], []⟩⟩, detourMade) := by
    rw [generate, if_neg (by simp), run_bind, hfiles, writeFiles, run_bind, run_write_twoFirst]
    dsimp only
    rw [writeFiles, run_bind, run_write_twoSecond]
    rfl
  refine ⟨_, _, _, load_twoText, hrun, rfl, by simp [hfiles], ?_⟩
  simp only [hnot, not_false_eq_true, iff_true]
  decide +kernel

end Manifest

end ValueObjects
