import ValueObjects.Proofs.Generate.Run
import ValueObjects.Proofs.Manifest.SourceFiles

/-!
# Reports of runs

What the report of a run says about the files of an accepted manifest. Each of them is noted once, as written or as
unchanged, and keeps its turn among the others.
-/

namespace ValueObjects

open FileSystem SourceFile

theorem SourceFile.Accepted.isPlain {f : SourceFile} (h : f.Accepted) : f.IsPlain := by
  have hslash : '/' ∉ f.descriptor.typeName.toList := h.harmless_typeName.notMem (by decide)
  simp [IsPlain, fileName_eq, hslash]

namespace Manifest

/-- A run of the generator that ends well, for an accepted manifest. -/
theorem run_generate {m : Manifest} (hm : m.WellFormed) {base : Path} {fs more : FileSystem} {r : GenerateReport}
    (h : (m.generate base false : StateM FileSystem _).run fs = (.ok r, more)) :
    ∃ here, Produced base here m.sourceFiles fs more
      ∧ r = ⟨m.sourceFiles.length, m.generator.namespaceName,
          .written (noted (.none base) m.sourceFiles (isWritten base here m.sourceFiles fs))⟩
      ∧ ((∀ f ∈ m.sourceFiles, f.isWritten base here m.sourceFiles fs = false) → more = fs) := by
  unfold generate at h
  rw [if_neg (by simp), run_bind] at h
  cases hrun : (writeFiles base m.sourceFiles (.none base) : StateM FileSystem _).run fs with
  | mk result mid =>
    rw [hrun] at h
    cases result with
    | error failure => cases h
    | ok files =>
      cases h
      obtain ⟨here, hproduced, rfl, hsame⟩ :=
        run_writeFiles (fun f hf => (hm.accepted hf).isPlain) hm.nodup_fileName hrun
      exact ⟨here, hproduced, rfl, hsame⟩

/-! ## Notes -/

variable {base : Path} {files : List SourceFile} {p : SourceFile → Bool} {f : SourceFile}

/-- Files with distinct names are told apart by them. -/
theorem eq_of_fileName_eq (hnodup : (files.map fileName).Nodup) {g : SourceFile} (hf : f ∈ files) (hg : g ∈ files)
    (h : f.fileName = g.fileName) : f = g := by
  induction files with
  | nil => cases hf
  | cons first rest ih =>
    obtain ⟨hnew, hnodup⟩ := List.nodup_cons.mp hnodup
    rcases List.mem_cons.mp hf with rfl | hrest
    · rcases List.mem_cons.mp hg with rfl | hrest
      · rfl
      · exact absurd (h ▸ List.mem_map_of_mem hrest) hnew
    · rcases List.mem_cons.mp hg with rfl | hrest'
      · exact absurd (h ▸ List.mem_map_of_mem hrest) hnew
      · exact ih hnodup hrest hrest'

theorem mem_map_fileName_filter (hnodup : (files.map fileName).Nodup) (hf : f ∈ files) :
    f.fileName ∈ (files.filter p).map fileName ↔ p f = true := by
  constructor
  · intro h
    obtain ⟨g, hg, heq⟩ := List.mem_map.mp h
    obtain ⟨hg, hp⟩ := List.mem_filter.mp hg
    rwa [eq_of_fileName_eq hnodup hg hf heq] at hp
  · intro h
    exact List.mem_map_of_mem (List.mem_filter.mpr ⟨hf, h⟩)

theorem mem_written_noted (hnodup : (files.map fileName).Nodup) (hf : f ∈ files) :
    f.fileName ∈ (noted (.none base) files p).written ↔ p f = true := by
  simpa [noted, WrittenFiles.none] using mem_map_fileName_filter hnodup hf

theorem mem_unchanged_noted (hnodup : (files.map fileName).Nodup) (hf : f ∈ files) :
    f.fileName ∈ (noted (.none base) files p).unchanged ↔ p f = false := by
  simpa [noted, WrittenFiles.none] using mem_map_fileName_filter (p := (!p ·)) hnodup hf

/-- All files are noted. -/
theorem noted_perm (base : Path) (files : List SourceFile) (p : SourceFile → Bool) :
    ((noted (.none base) files p).written ++ (noted (.none base) files p).unchanged).Perm (files.map fileName) := by
  simp only [noted, WrittenFiles.none, List.nil_append, ← List.map_append]
  exact (List.filter_append_perm p files).map fileName

end Manifest

/-! ## Items -/

/-- Decide whether a line of a report is about one file. -/
def ReportLine.isItem : ReportLine → Bool
  | .item _ | .added _ => true
  | _ => false

/-- The line of a report about one file. -/
def ReportLine.ofFile (name : String) (written : Bool) : ReportLine :=
  if written then .added name else .item (name ++ " (unchanged)")

/-- Around its items a report has a heading, a blank, and what applies to all files. -/
theorem GenerateReport.filter_isItem_lines {r : GenerateReport} {files : WrittenFiles} (h : r.result = .written files) :
    r.lines.filter ReportLine.isItem =
      files.written.map .added ++ (files.unchanged ++ files.skipped).map fun name => .item (name ++ " (unchanged)") := by
  have hwritten : (files.written.map ReportLine.added).filter ReportLine.isItem = files.written.map .added :=
    List.filter_eq_self.mpr (by simp [ReportLine.isItem])
  have hother : ∀ names : List String, (names.map fun name => ReportLine.item (name ++ " (unchanged)")).filter
      ReportLine.isItem = names.map fun name => .item (name ++ " (unchanged)") :=
    fun names => List.filter_eq_self.mpr (by simp [ReportLine.isItem])
  have hnamespace : (ReportLine.namespaceLines r.namespaceName).filter ReportLine.isItem = [] := by
    cases r.namespaceName <;> simp [ReportLine.namespaceLines, ReportLine.isItem]
  simp only [lines, h, List.filter_append, hwritten, hother, hnamespace]
  simp [ReportLine.isItem]

/-- Each file has one line in a report, by whether it was written. -/
theorem Manifest.items_perm (base : Path) (files : List SourceFile) (p : SourceFile → Bool) :
    ((noted (.none base) files p).written.map ReportLine.added
      ++ (noted (.none base) files p).unchanged.map fun name => ReportLine.item (name ++ " (unchanged)")).Perm
      (files.map fun f => ReportLine.ofFile f.fileName (p f)) := by
  have hwritten : (noted (.none base) files p).written.map ReportLine.added =
      (files.filter p).map fun f => .ofFile f.fileName (p f) := by
    simp only [noted, WrittenFiles.none, List.nil_append, List.map_map]
    apply List.map_congr_left
    intro f hf
    simp [ReportLine.ofFile, (List.mem_filter.mp hf).2]
  have hunchanged : ((noted (.none base) files p).unchanged.map fun name => ReportLine.item (name ++ " (unchanged)")) =
      (files.filter (!p ·)).map fun f => .ofFile f.fileName (p f) := by
    simp only [noted, WrittenFiles.none, List.nil_append, List.map_map]
    apply List.map_congr_left
    intro f hf
    have hp : p f = false := by simpa using (List.mem_filter.mp hf).2
    simp [ReportLine.ofFile, hp]
  rw [hwritten, hunchanged, ← List.map_append]
  exact (List.filter_append_perm p files).map _

end ValueObjects
