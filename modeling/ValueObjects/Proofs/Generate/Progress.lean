import ValueObjects.Proofs.Files.Directories
import ValueObjects.Proofs.Generate.Reports

/-!
# Runs that end well

When a run of the generator cannot fail. A directory that is there receives files whose paths are not too long, unless
there is a directory in the place of one of them. It still receives the others after one of them was written.
-/

namespace ValueObjects

/-! ## Writing one file -/

namespace FileSystem

/-- A write is refused only for want of a place, for a slash, for a long name, or by a directory. -/
theorem exists_write_of_place {fs : FileSystem} {p : Path} {parent : Location} {name : String}
    (hplace : fs.place p = .ok (.named parent name)) (hslash : (target p).slashed = false)
    (hlength : name.utf8ByteSize ≤ maxNameBytes) (hfree : fs.node? (parent ++ [name]) ≠ some .directory)
    (content : ByteArray) : ∃ changed, fs.write p content = .ok changed := by
  rw [node?_eq] at hfree
  simp only [FileSystem.write, hplace, bind, Except.bind, hslash, Bool.false_eq_true, if_false,
    if_neg (Nat.not_lt.mpr hlength)]
  cases hentry : fs.at? (parent ++ [name]) with
  | none => exact ⟨_, rfl⟩
  | some e =>
    cases e with
    | file old => exact ⟨_, rfl⟩
    | directory body => simp [hentry, Entry.node] at hfree

end FileSystem

open FileSystem

/-- A file that has a place is replaced there, and nothing else changes. -/
theorem GeneratedFile.run_replace_of_place {f : GeneratedFile} {fs : FileSystem} {parent : Location} {name : String}
    (hplace : fs.place f.path = .ok (.named parent name)) (hslash : (target f.path).slashed = false)
    (hlength : name.utf8ByteSize ≤ maxNameBytes) (hfree : fs.node? (parent ++ [name]) ≠ some .directory) :
    ∃ more, (f.replace : StateM FileSystem _).run fs = (.ok (), more)
      ∧ fs.Puts (parent ++ [name]) (.file f.content.toUTF8) more := by
  -- all directories in front of the file are there
  have hreplace : (f.replace : StateM FileSystem _).run fs = (replace.writeContent f : StateM FileSystem _).run fs := by
    cases hparent : f.path.parent? with
    | none => exact run_replace_of_root hparent
    | some q =>
      rw [run_replace_of_parent hparent,
        run_createDirectories_of_isDirectory (isDirectory_parent?_of_place hparent hplace)]
  obtain ⟨more, hwrite⟩ := exists_write_of_place hplace hslash hlength hfree f.content.toUTF8
  refine ⟨more, by rw [hreplace, run_writeContent_eq, hwrite], ?_⟩
  obtain ⟨parent', name', hplace', -, hputs, -⟩ := write_eq_ok hwrite
  obtain ⟨rfl, rfl⟩ : parent = parent' ∧ name = name' := by simpa [hplace] using hplace'
  exact hputs

namespace SourceFile

/-- A directory that is there and can take some files. -/
structure Receives (fs : FileSystem) (base : Path) (here : Location) (files : List SourceFile) : Prop where
  leadsTo : fs.LeadsTo base here
  directory : fs.node? here = some .directory
  /-- No file has an impossible path. -/
  possible : ∀ f ∈ files, checkPath (f.path base) = .ok () ∧ f.fileName.utf8ByteSize ≤ maxNameBytes
  /-- No directory is in the place of a file. -/
  free : ∀ f ∈ files, fs.node? (here ++ [f.fileName]) ≠ some .directory

variable {fs : FileSystem} {base : Path} {here : Location} {f : SourceFile} {files : List SourceFile}

/-- Each file has its place in the directory. -/
theorem Receives.place (h : Receives fs base here files) (hf : f ∈ files) (hname : f.IsPlain) :
    fs.place (f.path base) = .ok (.named here f.fileName) ∧ (target (f.path base)).slashed = false := by
  have hdots := f.not_isDotName_fileName
  have htarget : target (f.path base) = ⟨base.directoryNames, some f.fileName, false⟩ :=
    target_of_parts (Path.parts_join hname) fun h => hdots (.inl h)
  simp only [isDotName, not_or] at hdots
  refine ⟨place_eq_named.mpr ⟨(h.possible f hf).1, ?_, h.directory, ?_, hdots.2⟩, ?_⟩
  · rw [htarget, SourceFile.path, start_join fs hname]
    exact h.leadsTo
  · rw [htarget]
  · rw [htarget]

/-- A file that is received is brought up to date, and nothing changes but the file. -/
theorem Receives.run_write (h : Receives fs base here files) (hf : f ∈ files) (hname : f.IsPlain) :
    ∃ outcome more, ((f.generated base).write : StateM FileSystem _).run fs = (.ok outcome, more)
      ∧ (more = fs ∨ fs.Puts (here ++ [f.fileName]) (.file f.render.toUTF8) more) := by
  obtain ⟨hplace, hslash⟩ := h.place hf hname
  have hrule : (fs.isThere (f.generated base).path && (f.generated base).rule == .ifMissing) = false := by
    simp [generated, rule]
  rw [GeneratedFile.run_write, hrule, if_neg (by simp)]
  by_cases hholds : fs.Holds (f.generated base).path (f.generated base).content
  · rw [if_pos hholds]
    exact ⟨_, _, rfl, .inl rfl⟩
  · obtain ⟨more, hreplace, hputs⟩ :=
      (f.generated base).run_replace_of_place hplace hslash (h.possible f hf).2 (h.free f hf)
    rw [if_neg hholds, hreplace]
    exact ⟨_, _, rfl, .inr hputs⟩

end SourceFile

/-! ## Runs -/

namespace Manifest

open SourceFile

variable {fs : FileSystem} {base : Path} {here : Location}

end Manifest

end ValueObjects
