import ValueObjects.Files.Changes
import ValueObjects.Proofs.Generate.Reports

/-!
# Dry runs

A dry run touches nothing and cannot fail. What it shows is what any run in any directory leaves there: the same files
in the same order with the same texts, whatever was there before.
-/

namespace ValueObjects

open FileSystem SourceFile

/-! ## Labelled texts -/

namespace ReportLine

/-- Read the labelled texts of a report: each label together with the text right behind it. -/
def labelled : List ReportLine → List (String × String)
  | .divider label :: .preformatted text :: rest => (label, text) :: labelled rest
  | _ :: rest => labelled rest
  | [] => []

end ReportLine

namespace PreviewFile

/-- The last text of a preview, behind those of its files. -/
def summary (files : List PreviewFile) : String :=
  toString files.length ++ " file" ++ ReportLine.plural files.length ++ " would be generated"

/-- A preview shows its files one after another, and their number behind them. -/
theorem labelled_lines (files : List PreviewFile) :
    ReportLine.labelled (lines files) = files.map (fun f => (f.name, f.content)) ++ [("Summary", summary files)] := by
  have hfiles : ∀ rest : List ReportLine,
      ReportLine.labelled ((files.flatMap fun f => [.divider f.name, .preformatted f.content]) ++ rest) =
        files.map (fun f => (f.name, f.content)) ++ ReportLine.labelled rest := by
    intro rest
    induction files with
    | nil => rfl
    | cons f files ih => simp [ReportLine.labelled, ih]
  exact hfiles _

/-- Besides the labelled texts there is nothing in a preview. -/
theorem length_lines (files : List PreviewFile) : (lines files).length = 2 * (files.length + 1) := by
  simp [lines, List.length_flatMap]
  omega

end PreviewFile

/-! ## Previews -/

namespace Manifest

/-- The file of a value object is named for it. -/
theorem map_name_preview (m : Manifest) : m.preview.map (·.name) = m.valueObjects.map (·.1 ++ ".g.cs") := by
  simp [preview, sourceFiles, descriptors, fileName_eq, ValueObjectSettings.descriptor]

theorem map_fileName_eq_map_name (m : Manifest) : m.sourceFiles.map fileName = m.preview.map (·.name) := by
  simp [preview]

/-- No file is taken for the summary. -/
theorem summary_notMem_preview (m : Manifest) : "Summary" ∉ m.preview.map (·.name) := by
  rw [map_name_preview, List.mem_map]
  rintro ⟨e, -, heq⟩
  have hlast := congrArg (·.toList.getLast?) heq
  simp at hlast

/-- What a dry run reports: each declared file once and in its turn, and how many there are. -/
structure Previewed (m : Manifest) (files : List PreviewFile) (r : GenerateReport) : Prop where
  result : r.result = .preview files
  count : r.count = files.length
  /-- There is one file for each declared value object. -/
  order : files.map (·.name) = m.valueObjects.map (·.1 ++ ".g.cs")
  once : (files.map (·.name)).Nodup
  shown : ReportLine.labelled r.lines = files.map (fun f => (f.name, f.content)) ++ [("Summary", PreviewFile.summary files)]
  /-- The summary is the only text that is not that of a file, and nothing else is in the report. -/
  notSummary : "Summary" ∉ files.map (·.name)
  nothingElse : r.lines.length = 2 * (files.length + 1)

/-- A run and a preview agree: on the files, and on what they contain afterwards. -/
structure AgreesWithPreview (base : Path) (files : List PreviewFile) (noted : WrittenFiles) (more : FileSystem) :
    Prop where
  /-- Each file of the preview is noted once, and no other file. -/
  reported : (noted.written ++ noted.unchanged ++ noted.skipped).Perm (files.map (·.name))
  content : ∀ f ∈ files, more.Holds (base.join ⟨f.name⟩) f.content

/-- A dry run ends well and changes nothing. -/
theorem run_generate_dryRun (m : Manifest) (base : Path) (fs : FileSystem) :
    (m.generate base true : StateM FileSystem _).run fs =
      (.ok ⟨m.sourceFiles.length, m.generator.namespaceName, .preview m.preview⟩, fs) :=
  rfl

theorem WellFormed.previewed {m : Manifest} (hm : m.WellFormed) :
    Previewed m m.preview ⟨m.sourceFiles.length, m.generator.namespaceName, .preview m.preview⟩ where
  result := rfl
  count := by simp [preview]
  order := map_name_preview m
  once := map_fileName_eq_map_name m ▸ hm.nodup_fileName
  shown := PreviewFile.labelled_lines m.preview
  notSummary := summary_notMem_preview m
  nothingElse := PreviewFile.length_lines m.preview

/-- What a run produced is what a preview shows. -/
theorem agreesWithPreview_of_produced {m : Manifest} {base : Path} {here : Location} {fs more : FileSystem}
    (h : Produced base here m.sourceFiles fs more) (p : SourceFile → Bool) :
    AgreesWithPreview base m.preview (noted (.none base) m.sourceFiles p) more where
  reported := by
    have hskipped : (noted (.none base) m.sourceFiles p).skipped = [] := rfl
    rw [hskipped, List.append_nil, ← map_fileName_eq_map_name]
    exact noted_perm base m.sourceFiles p
  content := by
    intro shown hshown
    obtain ⟨f, hf, rfl⟩ := List.mem_map.mp hshown
    exact h.holds hf

/-- The preview of an accepted manifest is the same in every directory and in front of every file system, and every run
that ends well agrees with it. -/
theorem dryRun_foretells_runs {t : ManifestText} {m : Manifest} (hload : t.load = .ok m) : ∃ files,
    (∀ base fs, ∃ r, (m.generate base true : StateM FileSystem _).run fs = (.ok r, fs) ∧ Previewed m files r)
    ∧ ∀ base fs more r, (m.generate base false : StateM FileSystem _).run fs = (.ok r, more) →
      ∃ noted, r.result = .written noted ∧ AgreesWithPreview base files noted more := by
  have hm := ManifestText.wellFormed_of_load hload
  refine ⟨m.preview, fun base fs => ⟨_, run_generate_dryRun m base fs, hm.previewed⟩, ?_⟩
  intro base fs more r hrun
  obtain ⟨here, hproduced, rfl, -⟩ := run_generate hm hrun
  exact ⟨_, rfl, agreesWithPreview_of_produced hproduced _⟩

/-- A text that declares an identifier and a name with a comparer of its own. -/
def shopText : ManifestText :=
  ⟨"tvo.toml", "[generator]\nnamespace = \"Shop\"\n[value_objects.OrderId]\ninner = \"Guid\"\n"
    ++ "[value_objects.CustomerName]\ninner = \"string\"\ndefault_equality_comparer = true\n"⟩

/-- What the text declares. -/
def shop : Manifest :=
  ⟨⟨some "Shop", defaultOutput⟩,
    [("OrderId", ⟨"Guid", none, false, false, none⟩), ("CustomerName", ⟨"string", none, false, true, none⟩)]⟩

theorem dryRun_foretells_shop : ∃ files more r r' noted, shopText.load = .ok shop
    ∧ (shop.generate ⟨"out"⟩ true : StateM FileSystem _).run .fresh = (.ok r, .fresh) ∧ Previewed shop files r
    ∧ (shop.generate ⟨"out"⟩ false : StateM FileSystem _).run .fresh = (.ok r', more)
    ∧ r'.result = .written noted ∧ AgreesWithPreview ⟨"out"⟩ files noted more := by
  have hload : shopText.load = .ok shop := eq_ok_of_toOption (by decide +kernel)
  have hok : ((shop.generate ⟨"out"⟩ false : StateM FileSystem _).run .fresh).1.isOk := by decide +kernel
  obtain ⟨r', more, hrun⟩ := exists_eq_ok_of_isOk hok
  obtain ⟨files, hdry, hruns⟩ := dryRun_foretells_runs hload
  obtain ⟨r, hdry, hpreviewed⟩ := hdry ⟨"out"⟩ .fresh
  obtain ⟨noted, hresult, hagrees⟩ := hruns ⟨"out"⟩ .fresh more r' hrun
  exact ⟨files, more, r, r', noted, hload, hdry, hpreviewed, hrun, hresult, hagrees⟩

end Manifest

end ValueObjects
