import ValueObjects.Files.Changes
import ValueObjects.Proofs.Files.Directories

/-!
# Outcomes of writing

What the outcome of writing a generated file tells about the state before and after. A file that is written under a rule
that overwrites is unchanged the next time, and one that may only be made where nothing is settles what is at its path
with the first attempt.
-/

namespace ValueObjects

open FileAccess

/-! ## Refused files -/

/-- Whether a file can be written does not depend on its content. -/
theorem FileSystem.write_error_of_content {fs : FileSystem} {p : Path} {content : ByteArray} {fault : Fault}
    (h : fs.write p content = .error fault) (other : ByteArray) : fs.write p other = .error fault := by
  unfold FileSystem.write at h ⊢
  cases hplace : fs.place p with
  | error cause =>
    rw [hplace] at h
    exact h
  | ok place =>
    rw [hplace] at h
    cases place with
    | directory => exact h
    | named parent name =>
      simp only [bind, Except.bind] at h ⊢
      split at h
      · rename_i hslashed
        rw [if_pos hslashed]
        exact h
      rename_i hslashed
      rw [if_neg hslashed]
      split at h
      · rename_i hlong
        rw [if_pos hlong]
        exact h
      rename_i hlong
      rw [if_neg hlong]
      split at h
      · exact h
      · cases h

namespace GeneratedFile

open FileSystem

variable {f g : GeneratedFile} {fs more : FileSystem}

/-- A content that is refused leaves nothing behind, and another content at the same path is refused as well. -/
theorem run_writeContent_error_again (hpath : g.path = f.path) {failure : WriteFailure}
    (h : (replace.writeContent f : StateM FileSystem _).run fs = (.error failure, more)) :
    more = fs ∧ (replace.writeContent g : StateM FileSystem _).run fs = (.error failure, fs) := by
  rw [run_writeContent_eq] at h ⊢
  cases hwrite : fs.write f.path f.content.toUTF8 with
  | ok changed =>
    rw [hwrite] at h
    cases h
  | error fault =>
    rw [hwrite] at h
    cases h
    rw [hpath, write_error_of_content hwrite]
    exact ⟨rfl, rfl⟩

/-- A file that could not be replaced cannot be replaced later either, whatever its content, and nothing more is left
behind. -/
theorem run_replace_error_again (hpath : g.path = f.path) {failure : WriteFailure}
    (h : (f.replace : StateM FileSystem _).run fs = (.error failure, more)) :
    ∃ again, (g.replace : StateM FileSystem _).run more = (.error again, more) := by
  cases hparent : f.path.parent? with
  | none =>
    rw [run_replace_of_root hparent] at h
    obtain ⟨rfl, hagain⟩ := run_writeContent_error_again hpath h
    exact ⟨failure, by rw [run_replace_of_root (hpath ▸ hparent), hagain]⟩
  | some parent =>
    have hsame : g.path.parent? = some parent := hpath ▸ hparent
    rw [run_replace_of_parent hparent] at h
    cases hmade : (createDirectories parent : StateM FileSystem _).run fs with
    | mk result mid =>
      rw [hmade] at h
      cases result with
      | error fault =>
        cases h
        obtain ⟨again, hagain⟩ := run_createDirectories_error_again hmade
        exact ⟨⟨.createDirectory, parent, again⟩, by rw [run_replace_of_parent hsame, hagain]⟩
      | ok u =>
        obtain ⟨rfl, hagain⟩ := run_writeContent_error_again hpath h
        refine ⟨failure, ?_⟩
        rw [run_replace_of_parent hsame, run_createDirectories_ok_again hmade]
        exact hagain

/-! ## Outcomes -/

/-- What is left of a file that was written: its content at its path, with all directories in front of it. Nothing else
is different from before, but that such directories may be new. -/
structure Replaced (f : GeneratedFile) (fs more : FileSystem) : Prop where
  holds : more.Holds f.path f.content
  parents : ∀ names, names <+: f.path.parts → names ≠ f.path.parts →
    ∃ l, more.walk (more.start f.path) names = .ok l ∧ more.node? l = some .directory
  elsewhere : ∃ here, more.locate f.path = .ok here ∧ fs.node? here ≠ some .directory
    ∧ ∀ l, l ≠ here → KeptOrAdded f.path fs more l

theorem replaced_of_run_replace (h : (f.replace : StateM FileSystem _).run fs = (.ok (), more)) :
    f.Replaced fs more ∧ more.workingDirectory = fs.workingDirectory := by
  obtain ⟨mid, hadds, ⟨⟨failure, hfailure⟩, -⟩ | ⟨-, hwrite⟩⟩ :=
    run_replace (fun parent => Path.isLexicalPrefix_of_parent?) h
  · cases hfailure
  obtain ⟨parent, name, -, hold, hputs, hlocate⟩ := write_eq_ok hwrite
  have hextends : mid.Extends more := hputs.extends hold
  refine ⟨⟨holds_iff.mpr ⟨_, hlocate, hputs.here⟩, fun names => directory_of_locate hlocate, _, hlocate, ?_, ?_⟩, ?_⟩
  · intro hdir
    exact hold (hadds.isMore.directory _ hdir)
  · intro l hl
    exact (hadds.added l).trans hextends (.inl (hputs.elsewhere l hl))
  · rw [hputs.workingDirectory, hadds.isMore.workingDirectory]

/-- What the outcome of writing a file tells about the states before and after. -/
structure Tells (f : GeneratedFile) (fs : FileSystem) (result : Except WriteFailure WriteOutcome)
    (more : FileSystem) : Prop where
  skipped_iff : result = .ok .skipped ↔ f.rule = .ifMissing ∧ fs.Occupied f.path
  unchanged_iff : result = .ok .unchanged ↔
    ¬ (f.rule = .ifMissing ∧ fs.Occupied f.path) ∧ fs.Holds f.path f.content
  untouched : result = .ok .skipped ∨ result = .ok .unchanged → more = fs
  written : result = .ok .written → f.Replaced fs more
  /-- No file was made, changed or removed by an attempt that failed. -/
  failed : ∀ failure, result = .error failure →
    ∀ l content, (more.node? l = some (.file content) ↔ fs.node? l = some (.file content))
  workingDirectory : more.workingDirectory = fs.workingDirectory

theorem tells_run_write (f : GeneratedFile) (fs : FileSystem) :
    f.Tells fs ((f.write : StateM FileSystem _).run fs).1 ((f.write : StateM FileSystem _).run fs).2 := by
  have hskip : (fs.isThere f.path && f.rule == .ifMissing) = true ↔ f.rule = .ifMissing ∧ fs.Occupied f.path := by
    rw [Bool.and_eq_true, beq_iff_eq, isThere_iff, and_comm]
  rw [run_write]
  by_cases hskipped : f.rule = .ifMissing ∧ fs.Occupied f.path
  · rw [if_pos (hskip.mpr hskipped)]
    exact ⟨by simp [hskipped], by simp [hskipped], by simp, by simp, by simp, rfl⟩
  rw [if_neg (mt hskip.mp hskipped)]
  by_cases hholds : fs.Holds f.path f.content
  · rw [if_pos hholds]
    exact ⟨by simp [hskipped], by simp [hskipped, hholds], by simp, by simp, by simp, rfl⟩
  rw [if_neg hholds]
  cases hrun : (f.replace : StateM FileSystem _).run fs with
  | mk result more =>
    cases result with
    | ok u =>
      obtain ⟨hreplaced, hworking⟩ := replaced_of_run_replace hrun
      exact ⟨by simp [hskipped, Except.map], by simp [hholds, Except.map], by simp [Except.map], fun _ => hreplaced,
        by simp [Except.map], hworking⟩
    | error failure =>
      obtain ⟨mid, hadds, ⟨-, rfl⟩ | ⟨hok, -⟩⟩ := run_replace (fun parent => Path.isLexicalPrefix_of_parent?) hrun
      · exact ⟨by simp [hskipped, Except.map], by simp [hholds, Except.map], by simp [Except.map],
          by simp [Except.map], fun _ _ l => (hadds.added l).file_iff, hadds.isMore.workingDirectory⟩
      · cases hok

/-! ## Writing again -/

/-- A file that has its content is unchanged when it is written again. -/
theorem run_write_of_holds (hrule : f.rule = .always) (h : fs.Holds f.path f.content) :
    (f.write : StateM FileSystem _).run fs = (.ok .unchanged, fs) := by
  rw [run_write, if_neg (by simp [hrule]), if_pos h]

/-- At a path there is something, or no file can be put there. -/
def Settled (fs : FileSystem) (p : Path) : Prop :=
  fs.Occupied p ∨ ∀ g : GeneratedFile, g.path = p → ∃ again, (g.replace : StateM FileSystem _).run fs = (.error again, fs)

theorem settled_of_holds {p : Path} {content : String} (h : fs.Holds p content) : Settled fs p := by
  obtain ⟨l, hlocate, hfile⟩ := holds_iff.mp h
  exact .inl ⟨l, _, hlocate, hfile⟩

/-- A file that may only be made where nothing is changes nothing at a settled path. -/
theorem run_write_of_settled (hrule : f.rule = .ifMissing) (h : Settled fs f.path) :
    ((f.write : StateM FileSystem _).run fs).2 = fs := by
  rw [run_write]
  split
  · rfl
  rename_i hskip
  split
  · rfl
  · rcases h with hoccupied | hrefused
    · exact absurd (by simp [isThere_iff.mpr hoccupied, hrule]) hskip
    · obtain ⟨again, hagain⟩ := hrefused f rfl
      rw [hagain]

/-- An attempt settles the path, even if it fails. -/
theorem settled_of_run_write (f : GeneratedFile) (fs : FileSystem) :
    Settled ((f.write : StateM FileSystem _).run fs).2 f.path := by
  rw [run_write]
  split
  · rename_i hskip
    exact .inl (isThere_iff.mp (Bool.and_eq_true_iff.mp hskip).1)
  split
  · rename_i hholds
    exact settled_of_holds hholds
  cases hrun : (f.replace : StateM FileSystem _).run fs with
  | mk result more =>
    cases result with
    | ok u => exact settled_of_holds (replaced_of_run_replace hrun).1.holds
    | error failure => exact .inr fun g hpath => run_replace_error_again hpath hrun

theorem run_mapM_write_of_settled {p : Path} {files : List GeneratedFile}
    (hfiles : ∀ g ∈ files, g.path = p ∧ g.rule = .ifMissing) (h : Settled fs p) :
    ((files.mapM fun g => g.write : StateM FileSystem _).run fs).2 = fs := by
  induction files with
  | nil => rfl
  | cons g files ih =>
    obtain ⟨⟨rfl, hrule⟩, hrest⟩ := List.forall_mem_cons.mp hfiles
    rw [List.mapM_cons, run_bind, run_write_of_settled hrule h, run_bind]
    exact ih hrest

/-- The outcome of writing a file tells what happened. After a success under a rule that overwrites, the file is
unchanged the next time. Whatever the outcome, files that may only be made where nothing is change nothing behind it. -/
theorem write_tells {result : Except WriteFailure WriteOutcome}
    (h : (f.write : StateM FileSystem _).run fs = (result, more)) :
    f.Tells fs result more
    ∧ (f.rule = .always → ∀ outcome, result = .ok outcome →
      (f.write : StateM FileSystem _).run more = (.ok .unchanged, more))
    ∧ ∀ files : List GeneratedFile, (∀ g ∈ files, g.path = f.path ∧ g.rule = .ifMissing) →
      ((files.mapM fun g => g.write : StateM FileSystem _).run more).2 = more := by
  have htells : f.Tells fs result more := by
    have hrun := tells_run_write f fs
    rwa [h] at hrun
  refine ⟨htells, fun hrule outcome houtcome => run_write_of_holds hrule ?_, fun files hfiles => ?_⟩
  · cases outcome with
    | written => exact (htells.written houtcome).holds
    | unchanged =>
      rw [htells.untouched (.inr houtcome)]
      exact (htells.unchanged_iff.mp houtcome).2
    | skipped =>
      have hmissing := (htells.skipped_iff.mp houtcome).1
      rw [hrule] at hmissing
      cases hmissing
  · have hsettled : Settled more f.path := by
      have hfirst := settled_of_run_write f fs
      rwa [h] at hfirst
    exact run_mapM_write_of_settled hfiles hsettled

/-- A file below two directories that are not there. -/
def deepFile : GeneratedFile := ⟨⟨"a/b/Deep.g.cs"⟩, .always, "first"⟩

/-- A file at the same path that leaves alone what is there. -/
def patientFile : GeneratedFile := { deepFile with rule := .ifMissing, content := "second" }

/-- The state after the first of them was written into an empty directory. -/
def withDeepFile : FileSystem := ((deepFile.write : StateM FileSystem _).run .fresh).2

theorem write_tells_deepFile :
    (deepFile.write : StateM FileSystem _).run .fresh = (.ok .written, withDeepFile)
      ∧ withDeepFile.Holds ⟨"a/b/Deep.g.cs"⟩ "first"
      ∧ (deepFile.write : StateM FileSystem _).run withDeepFile = (.ok .unchanged, withDeepFile)
      ∧ (([patientFile, patientFile].mapM fun g => g.write : StateM FileSystem _).run withDeepFile).2 = withDeepFile := by
  have hrun : (deepFile.write : StateM FileSystem _).run .fresh = (.ok .written, withDeepFile) :=
    Prod.ext (eq_ok_of_toOption (by decide +kernel)) rfl
  have hpatient : ∀ g ∈ [patientFile, patientFile], g.path = deepFile.path ∧ g.rule = .ifMissing := by decide
  obtain ⟨htells, hagain, hsettled⟩ := write_tells hrun
  exact ⟨hrun, (htells.written rfl).holds, hagain rfl _ rfl, hsettled _ hpatient⟩

end GeneratedFile

end ValueObjects
