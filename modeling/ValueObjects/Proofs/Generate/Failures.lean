import ValueObjects.CommandLine.Run
import ValueObjects.Proofs.Generate.Reports
import ValueObjects.Proofs.Manifest.FirstViolation
import ValueObjects.Proofs.Manifest.Sources

/-!
# Failed runs

What is left when the generator fails. Without a manifest nothing is touched at all. A file that cannot be written ends
the run: the files in front of it are there with their texts, and otherwise at most directories on the way were made.
-/

namespace ValueObjects

open FileSystem SourceFile

/-! ## One file -/

namespace SourceFile

/-- A file that cannot be brought up to date leaves at most new directories behind. -/
theorem run_write_error {base : Path} {f : SourceFile} {fs more : FileSystem} {failure : WriteFailure}
    (hname : f.IsPlain) (h : ((f.generated base).write : StateM FileSystem _).run fs = (.error failure, more)) :
    AddsDirectories base fs more := by
  have hrule : (fs.isThere (f.generated base).path && (f.generated base).rule == .ifMissing) = false := by
    simp [generated, rule]
  have hfront (parent : Path) (hparent : (base.join ⟨f.fileName⟩).parent? = some parent) :
      parent.parent? = none ∨ parent.IsLexicalPrefix base := Path.isLexicalPrefix_of_parent?_join hname hparent
  rw [GeneratedFile.run_write, hrule, if_neg (by simp)] at h
  split at h
  · cases h
  · cases hrun : ((f.generated base).replace : StateM FileSystem _).run fs with
    | mk result mid =>
      rw [hrun] at h
      obtain ⟨made, hadds, ⟨⟨cause, rfl⟩, rfl⟩ | ⟨rfl, -⟩⟩ :=
        GeneratedFile.run_replace (f := f.generated base) hfront hrun
      · cases h
        exact hadds
      · cases h

/-! ## Progress -/

/-- Without any file only directories are new. -/
theorem Produced.of_addsDirectories {base : Path} {fs more : FileSystem} (here : Location)
    (h : AddsDirectories base fs more) : Produced base here [] fs more where
  isMore := h.isMore
  leadsTo hne := absurd rfl hne
  located := by simp
  content := by simp
  elsewhere l _ := h.added l

/-- Files are produced where the directory led before. -/
theorem Produced.of_leadsTo {base : Path} {here there : Location} {files : List SourceFile} {fs more : FileSystem}
    (h : Produced base here files fs more) (hthere : fs.LeadsTo base there) : Produced base there files fs more := by
  cases files with
  | nil => exact .of_addsDirectories there ⟨h.isMore, fun l => h.elsewhere l (by simp)⟩
  | cons f rest =>
    obtain rfl := (h.isMore.leadsTo hthere).unique (h.leadsTo (by simp))
    exact h

end SourceFile

/-! ## Runs that stop -/

namespace Manifest

/-- A run that fails stops in front of one of its files, and has produced the files before that one. -/
theorem run_writeFiles_error {base : Path} {files : List SourceFile} {w : WrittenFiles} {fs more : FileSystem}
    {failure : GenerateFailure} (hplain : ∀ f ∈ files, f.IsPlain) (hnodup : (files.map fileName).Nodup)
    (h : (writeFiles base files w : StateM FileSystem _).run fs = (.error failure, more)) :
    ∃ done f rest here, files = done ++ f :: rest ∧ failure.fileName = f.fileName
      ∧ Produced base here done fs more := by
  induction files generalizing w fs with
  | nil => cases h
  | cons f rest ih =>
    rw [writeFiles, run_bind] at h
    cases hrun : ((f.generated base).write : StateM FileSystem _).run fs with
    | mk result mid =>
      rw [hrun] at h
      cases result with
      | error cause =>
        cases h
        have hadds := run_write_error (hplain f (by simp)) hrun
        exact ⟨[], f, rest, [], rfl, rfl, .of_addsDirectories [] hadds⟩
      | ok outcome =>
        -- the first file settles where the directory leads for all that are produced after it
        obtain ⟨⟨here, hhere, hfirst⟩, -⟩ := run_write_ok (hplain f (by simp)) hrun
        obtain ⟨hnew, hnodup⟩ := List.nodup_cons.mp hnodup
        obtain ⟨done, g, later, there, rfl, hfailed, hdone⟩ := ih (fun g hg => hplain g (by simp [hg])) hnodup h
        have hdistinct : f.fileName ∉ done.map fileName := fun hmem => hnew (by simp [hmem])
        exact ⟨f :: done, g, later, here, rfl, hfailed, hfirst.cons (hdone.of_leadsTo hhere) hdistinct⟩

/-- A run of the generator that fails, for an accepted manifest. -/
theorem run_generate_error {m : Manifest} (hm : m.WellFormed) {base : Path} {dryRun : Bool} {fs more : FileSystem}
    {failure : GenerateFailure}
    (h : (m.generate base dryRun : StateM FileSystem _).run fs = (.error failure, more)) :
    ∃ done f rest here, m.sourceFiles = done ++ f :: rest ∧ failure.fileName = f.fileName
      ∧ Produced base here done fs more := by
  cases dryRun with
  | true => cases h
  | false =>
    unfold generate at h
    rw [if_neg (by simp), run_bind] at h
    cases hrun : (writeFiles base m.sourceFiles (.none base) : StateM FileSystem _).run fs with
    | mk result mid =>
      rw [hrun] at h
      cases result with
      | ok files => cases h
      | error cause =>
        cases h
        exact run_writeFiles_error (fun f hf => (hm.accepted hf).isPlain) hm.nodup_fileName hrun

/-- What is left of a run that stopped in front of its `k`-th file, counted from zero. -/
structure StoppedAt (m : Manifest) (base : Path) (k : Nat) (failure : GenerateFailure) (fs more : FileSystem) :
    Prop where
  lt : k < m.valueObjects.length
  failed : (m.sourceFiles.map fileName)[k]? = some failure.fileName
  /-- The files in front of it are there with their texts. -/
  content : ∀ f ∈ m.sourceFiles.take k, more.Holds (f.path base) f.render
  /-- All other files are what they were. -/
  otherFiles : ∀ l content, (∀ f ∈ m.sourceFiles.take k, more.locate (f.path base) ≠ .ok l) →
    (more.node? l = some (.file content) ↔ fs.node? l = some (.file content))
  /-- Among them are the file that could not be written and those behind it. -/
  laterFiles : ∀ f ∈ m.sourceFiles.drop k, ∀ l, more.locate (f.path base) = .ok l → ∀ content,
    (more.node? l = some (.file content) ↔ fs.node? l = some (.file content))
  oldDirectories : ∀ l, fs.node? l = some .directory → more.node? l = some .directory
  /-- A new directory is where there was nothing, and it is what a first part of the directory leads to. -/
  newDirectories : ∀ l, more.node? l = some .directory → fs.node? l ≠ some .directory →
    fs.node? l = none ∧ ∃ q : Path, q.IsLexicalPrefix base ∧ more.locate q = .ok l

/-- A run that fails stops in front of one of the declared files. -/
theorem stoppedAt_of_run_generate {m : Manifest} (hm : m.WellFormed) {base : Path} {dryRun : Bool}
    {fs more : FileSystem} {failure : GenerateFailure}
    (h : (m.generate base dryRun : StateM FileSystem _).run fs = (.error failure, more)) :
    ∃ k, StoppedAt m base k failure fs more := by
  obtain ⟨done, f, rest, here, hfiles, hfailed, hdone⟩ := run_generate_error hm h
  have htake : m.sourceFiles.take done.length = done := by simp [hfiles]
  have hdrop : m.sourceFiles.drop done.length = f :: rest := by simp [hfiles]
  have hlength : m.sourceFiles.length = m.valueObjects.length := by simp [sourceFiles, descriptors]
  refine ⟨done.length, ?lt, ?failed, ?content, ?otherFiles, ?laterFiles, hdone.isMore.directory,
    fun l => hdone.newDirectory⟩
  case lt =>
    rw [← hlength, hfiles]
    simp
  case failed => simp [hfiles, hfailed]
  case content =>
    intro g hg
    exact hdone.holds (htake ▸ hg)
  case otherFiles =>
    intro l content hl
    exact hdone.file_iff (htake ▸ hl) content
  case laterFiles =>
    intro g hg l hl content
    rw [hdrop] at hg
    have hnodup := hm.nodup_fileName
    rw [hfiles, List.map_append, List.nodup_append] at hnodup
    have hnew : g.fileName ∉ done.map fileName := fun hmem =>
      hnodup.2.2 _ hmem _ (List.mem_map_of_mem hg) rfl
    have hmem : g ∈ m.sourceFiles := hfiles ▸ List.mem_append_right done hg
    exact hdone.file_iff_of_locate (hm.accepted hmem).isPlain hnew hl content

end Manifest

/-! ## Manifests that cannot be used -/

namespace ManifestText

/-- A manifest is refused exactly if its text cannot be decoded or anything is wrong with what it declares. -/
theorem exists_load_eq_error {t : ManifestText} :
    (∃ d, t.load = .error d) ↔ (∃ d, t.decode = .error d) ∨ ∃ m, t.decode = .ok m ∧ ∃ v ∈ m.violations, v.Occurs := by
  cases hdecode : t.decode with
  | error d => simp [load, hdecode, bind, Except.bind]
  | ok m =>
    have hload : (∃ d, t.load = .error d) ↔ ¬ t.checkManifest m = .ok () := by
      rw [load, hdecode]
      cases hcheck : t.checkManifest m <;> simp [bind, Except.bind, hcheck, pure, Except.pure]
    rw [hload, checkManifest_eq_search, Violation.search_eq_ok]
    simp

end ManifestText

namespace ManifestFile

/-- Why a file cannot be used as a manifest. -/
inductive Unusable (fs : FileSystem) (config : Path) : Prop
  /-- There is no text to be read at the path. -/
  | unreadable (h : ∀ content, ¬ fs.Holds config content)
  | undecodable {content : String} {d : Diagnostic} (hread : fs.Holds config content)
    (h : ManifestText.decode ⟨config.text, content⟩ = .error d)
  /-- Anything that is declared is wrong, be it the last thing. -/
  | invalid {content : String} {m : Manifest} {v : Violation} (hread : fs.Holds config content)
    (hdecode : ManifestText.decode ⟨config.text, content⟩ = .ok m) (hv : v ∈ m.violations) (h : v.Occurs)

/-- Reading a manifest depends on the text in its file, if there is one, and changes nothing. -/
theorem run_read (fs : FileSystem) (config : Path) :
    (∃ content, fs.Holds config content
      ∧ (read config : StateM FileSystem _).run fs = (ofContent config content, fs))
    ∨ (∀ content, ¬ fs.Holds config content)
      ∧ ∃ fault, (read config : StateM FileSystem _).run fs = (.error (.unreadable config fault), fs) := by
  rcases holds_or_unreadable fs config with ⟨content, hread⟩ | ⟨fault, hunreadable⟩
  · exact .inl ⟨content, hread, run_read_of_holds _ hread⟩
  · exact .inr ⟨hunreadable.not_holds, fault, run_read_of_unreadable _ hunreadable⟩

theorem ofContent_eq_error {config : Path} {content : String} :
    (∃ e, ofContent config content = .error e) ↔ ∃ d, ManifestText.load ⟨config.text, content⟩ = .error d := by
  unfold ofContent
  cases ManifestText.load ⟨config.text, content⟩ <;> simp

/-- What is read from a file is an accepted manifest. -/
theorem load_of_ofContent {config : Path} {content : String} {file : ManifestFile}
    (h : ofContent config content = .ok file) : ManifestText.load ⟨config.text, content⟩ = .ok file.manifest := by
  unfold ofContent at h
  split at h
  · rename_i m hload
    cases h
    exact hload
  · cases h

/-- No manifest is read exactly if the file cannot be used. -/
theorem unusable_iff {fs : FileSystem} {config : Path} :
    Unusable fs config ↔ ∃ e, (read config : StateM FileSystem _).run fs = (.error e, fs) := by
  rcases run_read fs config with ⟨content, hread, hrun⟩ | ⟨hnone, fault, hrun⟩
  · have herror : (∃ e, (ofContent config content, fs) = ((.error e, fs) : Except LoadError ManifestFile × _)) ↔
        ∃ e, ofContent config content = .error e := by simp
    rw [hrun, herror, ofContent_eq_error, ManifestText.exists_load_eq_error]
    -- whatever the reason is, it is about the text that is there
    constructor
    · rintro (h | ⟨hother, h⟩ | ⟨hother, hdecode, hv, h⟩)
      · exact absurd hread (h content)
      · exact .inl ⟨_, hother.unique hread ▸ h⟩
      · exact .inr ⟨_, hother.unique hread ▸ hdecode, _, hv, h⟩
    · rintro (⟨d, h⟩ | ⟨m, hdecode, v, hv, h⟩)
      · exact .undecodable hread h
      · exact .invalid hread hdecode hv h
  · exact ⟨fun _ => ⟨_, hrun⟩, fun _ => .unreadable hnone⟩

/-- Whatever is read from a file is an accepted manifest. -/
theorem wellFormed_of_run_read {fs : FileSystem} {config : Path} {file : ManifestFile}
    (h : (read config : StateM FileSystem _).run fs = (.ok file, fs)) : file.manifest.WellFormed := by
  rcases run_read fs config with ⟨content, -, hrun⟩ | ⟨-, fault, hrun⟩
  · rw [hrun] at h
    exact ManifestText.wellFormed_of_load (load_of_ofContent (congrArg Prod.fst h))
  · rw [hrun] at h
    cases h

end ManifestFile

/-! ## The command -/

namespace CommandLine

open Manifest

/-- The command to generate files. -/
theorem run_generate_of_read {config : Path} {output : Option Path} {dryRun : Bool} {fs more : FileSystem}
    {file : ManifestFile} (hread : (ManifestFile.read config : StateM FileSystem _).run fs = (.ok file, fs))
    {failure : GenerateFailure}
    (h : (file.manifest.generate (output.getD file.outputDirectory) dryRun : StateM FileSystem _).run fs =
      (.error failure, more)) :
    ((Command.generate config output dryRun).run : StateM FileSystem Outcome).run fs =
      (.failure (generateFailureText failure), more) := by
  rw [Command.run, withManifest, run_bind, hread]
  dsimp only
  rw [run_bind, h]
  rfl

theorem run_generate_of_unusable {config : Path} {output : Option Path} {dryRun : Bool} {fs : FileSystem}
    {e : LoadError} (hread : (ManifestFile.read config : StateM FileSystem _).run fs = (.error e, fs)) :
    ((Command.generate config output dryRun).run : StateM FileSystem Outcome).run fs =
      (.failure (loadErrorText e), fs) := by
  rw [Command.run, withManifest, run_bind, hread]
  rfl

/-- The command to generate files either fails for want of a manifest, with nothing touched, or stops in front of a
file that cannot be written. Both are shown by its number, and nothing is printed on the standard output. -/
theorem generate_fails_cleanly (config : Path) (output : Option Path) (dryRun : Bool) (fs : FileSystem) :
    (ManifestFile.Unusable fs config → ∃ errors,
      ((Command.generate config output dryRun).run : StateM FileSystem Outcome).run fs = (⟨1, "", errors⟩, fs))
    ∧ ∀ file : ManifestFile, (ManifestFile.read config : StateM FileSystem _).run fs = (.ok file, fs) →
      ∀ failure more, (file.manifest.generate (output.getD file.outputDirectory) dryRun : StateM FileSystem _).run fs =
        (.error failure, more) →
      (∃ k, StoppedAt file.manifest (output.getD file.outputDirectory) k failure fs more) ∧ ∃ errors,
        ((Command.generate config output dryRun).run : StateM FileSystem Outcome).run fs = (⟨1, "", errors⟩, more) := by
  constructor
  · intro hunusable
    obtain ⟨e, hread⟩ := ManifestFile.unusable_iff.mp hunusable
    exact ⟨_, run_generate_of_unusable hread⟩
  · intro file hread failure more hrun
    have hm := ManifestFile.wellFormed_of_run_read hread
    exact ⟨stoppedAt_of_run_generate hm hrun, _, run_generate_of_read hread hrun⟩

/-- A text that declares two value objects. -/
def pointText : String := "[value_objects.X]\ninner = \"int\"\n[value_objects.Y]\ninner = \"int\"\n"

/-- What the text declares. -/
def point : Manifest :=
  ⟨.standard, [("X", ⟨"int", none, false, false, none⟩), ("Y", ⟨"int", none, false, false, none⟩)]⟩

/-- A working directory with that text, and with a directory in the place of the second file. -/
def blocked : FileSystem where
  root := .file "tvo.toml" pointText.toUTF8 (.directory "Generated" (.directory "Y.g.cs" .empty .empty) .empty)
  workingDirectory := []

/-- A text that declares two value objects, the last one of which has a reserved name. -/
def switchText : String := "[value_objects.On]\ninner = \"bool\"\n[value_objects.switch]\ninner = \"bool\"\n"

/-- A working directory with that text. -/
def misnamed : FileSystem := ⟨.file "tvo.toml" switchText.toUTF8 .empty, []⟩

theorem generate_misnamed_and_blocked_fails_cleanly :
    (ManifestFile.Unusable misnamed defaultConfig ∧ ∃ errors,
      ((Command.generate defaultConfig none false).run : StateM FileSystem Outcome).run misnamed =
        (⟨1, "", errors⟩, misnamed))
    ∧ ∃ file failure more, (ManifestFile.read defaultConfig : StateM FileSystem _).run blocked = (.ok file, blocked)
      ∧ (file.manifest.generate file.outputDirectory false : StateM FileSystem _).run blocked = (.error failure, more)
      ∧ failure.fileName = "Y.g.cs"
      ∧ (∃ k, StoppedAt file.manifest file.outputDirectory k failure blocked more) ∧ ∃ errors,
        ((Command.generate defaultConfig none false).run : StateM FileSystem Outcome).run blocked =
          (⟨1, "", errors⟩, more) := by
  constructor
  · have hread : misnamed.Holds defaultConfig switchText := rfl
    have hdecode : ManifestText.decode ⟨"tvo.toml", switchText⟩ = .ok ⟨.standard,
        [("On", ⟨"bool", none, false, false, none⟩), ("switch", ⟨"bool", none, false, false, none⟩)]⟩ :=
      eq_ok_of_toOption (by decide +kernel)
    have hunusable : ManifestFile.Unusable misnamed defaultConfig :=
      .invalid (v := .keyword "switch" .valueObject) hread hdecode (by decide +kernel) (by decide +kernel)
    exact ⟨hunusable, (generate_fails_cleanly defaultConfig none false misnamed).1 hunusable⟩
  · let file : ManifestFile := ⟨defaultConfig, pointText, point⟩
    let failure : GenerateFailure := ⟨"Y.g.cs", .writeFile, ⟨"Generated/Y.g.cs"⟩, .isADirectory⟩
    have hread : (ManifestFile.read defaultConfig : StateM FileSystem _).run blocked = (.ok file, blocked) := by
      have hholds : blocked.Holds defaultConfig pointText := rfl
      have hcontent : ManifestFile.ofContent defaultConfig pointText = .ok file := eq_ok_of_toOption (by decide +kernel)
      rw [ManifestFile.run_read_of_holds _ hholds, hcontent]
    have hrefused : refusal? ((file.manifest.generate file.outputDirectory false : StateM FileSystem _).run blocked).1 =
        some failure := by decide +kernel
    obtain ⟨more, hrun⟩ := exists_eq_error_of_refusal? hrefused
    obtain ⟨hstopped, hfailed⟩ := (generate_fails_cleanly defaultConfig none false blocked).2 file hread failure more hrun
    exact ⟨file, failure, more, hread, hrun, rfl, hstopped, hfailed⟩

end CommandLine

end ValueObjects
