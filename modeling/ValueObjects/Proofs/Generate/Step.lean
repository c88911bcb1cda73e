import ValueObjects.Proofs.Files.Writing
import ValueObjects.Report.Generate

/-!
# One generated file

Bringing one source file up to date in a directory. Wherever the names of the directory lead, the file ends up there
under its own name with its text; besides it, at most directories are added, all of them first parts of the directory.
-/

namespace ValueObjects

namespace FileSystem

/-! ## Directories of files -/

/-- The names of a directory lead to a location, below which the files of the directory are. -/
def LeadsTo (fs : FileSystem) (base : Path) (here : Location) : Prop :=
  fs.walk (fs.start base) base.directoryNames = .ok here

theorem LeadsTo.unique {fs : FileSystem} {base : Path} {here there : Location} (h : fs.LeadsTo base here)
    (h' : fs.LeadsTo base there) : here = there := by
  simpa [LeadsTo] using h.symm.trans h'

theorem Extends.leadsTo {fs more : FileSystem} (hext : fs.Extends more) {base : Path} {here : Location}
    (h : fs.LeadsTo base here) : more.LeadsTo base here := by
  unfold LeadsTo
  rw [hext.start]
  exact hext.walk h

variable {base : Path} {name : String}

theorem start_join (fs : FileSystem) (hname : '/' ∉ name.toList) : fs.start (base.join ⟨name⟩) = fs.start base := by
  simp [start, Path.isAbsolute_join hname]

/-- What the path of a file leads to has the name of the file, below what the directory leads to. -/
theorem locate_join_eq_ok {fs : FileSystem} {l : Location} (hname : '/' ∉ name.toList) (hdots : ¬ isDotName name) :
    fs.locate (base.join ⟨name⟩) = .ok l ↔
      checkPath (base.join ⟨name⟩) = .ok () ∧ name.utf8ByteSize ≤ maxNameBytes
        ∧ ∃ here, fs.LeadsTo base here ∧ (fs.node? (here ++ [name])).isSome ∧ l = here ++ [name] := by
  rw [locate_eq_ok, start_join fs hname, Path.parts_join hname]
  refine and_congr_right fun _ => ?_
  simp only [walk_append_eq_ok, walk_cons_eq_ok, enter_down hdots]
  constructor
  · rintro ⟨here, hhere, l', ⟨-, hlen, hthere, rfl⟩, hend⟩
    cases hend
    exact ⟨hlen, here, hhere, hthere, rfl⟩
  · rintro ⟨hlen, here, hhere, hthere, rfl⟩
    exact ⟨here, hhere, _, ⟨node?_of_below (by simp) hthere, hlen, hthere, rfl⟩, rfl⟩

/-- The place that the path of a file names is below what the directory leads to. -/
theorem leadsTo_of_place {fs : FileSystem} {parent : Location} {last : String} (hname : '/' ∉ name.toList)
    (hdots : ¬ isDotName name) (h : fs.place (base.join ⟨name⟩) = .ok (.named parent last)) :
    fs.LeadsTo base parent ∧ last = name := by
  have hparts : (base.join ⟨name⟩).parts = base.directoryNames ++ [name] := Path.parts_join hname
  have htarget := target_of_parts hparts (fun h => hdots (.inl h))
  obtain ⟨-, hwalk, -, hlast, -⟩ := place_eq_named.mp h
  rw [htarget] at hwalk hlast
  rw [start_join fs hname] at hwalk
  exact ⟨hwalk, (Option.some.inj hlast).symm⟩

end FileSystem

namespace SourceFile

open FileSystem

/-! ## Names of files -/

/-- A file whose name stands for one file in a directory. -/
def IsPlain (f : SourceFile) : Prop := '/' ∉ f.fileName.toList

theorem fileName_eq (f : SourceFile) : f.fileName = f.descriptor.typeName ++ ".g.cs" := rfl

theorem not_isDotName_fileName (f : SourceFile) : ¬ isDotName f.fileName := by
  have hlen : 5 ≤ f.fileName.toList.length := by simp [fileName_eq]
  rintro (h | h | h) <;> simp [h] at hlen

/-! ## Progress -/

/-- Some files are below a location with their texts, and nothing else is new but directories that are first parts of
the directory of the files. -/
structure Produced (base : Path) (here : Location) (files : List SourceFile) (fs more : FileSystem) : Prop where
  isMore : fs.Extends more
  leadsTo : files ≠ [] → more.LeadsTo base here
  located : ∀ f ∈ files, more.locate (f.path base) = .ok (here ++ [f.fileName])
  content : ∀ f ∈ files, more.node? (here ++ [f.fileName]) = some (.file f.render.toUTF8)
  elsewhere : ∀ l, (∀ f ∈ files, l ≠ here ++ [f.fileName]) → KeptOrAdded base fs more l

theorem Produced.nil (base : Path) (here : Location) (fs : FileSystem) : Produced base here [] fs fs where
  isMore := .refl fs
  leadsTo h := absurd rfl h
  located := by simp
  content := by simp
  elsewhere _ _ := .inl rfl

theorem Produced.single {base : Path} {here : Location} {f : SourceFile} {fs more : FileSystem}
    (isMore : fs.Extends more) (leadsTo : more.LeadsTo base here)
    (located : more.locate (f.path base) = .ok (here ++ [f.fileName]))
    (content : more.node? (here ++ [f.fileName]) = some (.file f.render.toUTF8))
    (elsewhere : ∀ l, l ≠ here ++ [f.fileName] → KeptOrAdded base fs more l) : Produced base here [f] fs more where
  isMore := isMore
  leadsTo _ := leadsTo
  located g hg := by rwa [List.mem_singleton.mp hg]
  content g hg := by rwa [List.mem_singleton.mp hg]
  elsewhere l hl := elsewhere l (hl f (by simp))

/-- A file with another name is at another place, in whatever directory it is. -/
theorem ne_append_fileName {f : SourceFile} {files : List SourceFile} (hf : f.fileName ∉ files.map fileName)
    (there here : Location) : ∀ g ∈ files, there ++ [f.fileName] ≠ here ++ [g.fileName] := by
  intro g hg heq
  have hname : f.fileName = g.fileName := List.head_eq_of_cons_eq (List.append_inj_right' heq rfl)
  exact hf (hname ▸ List.mem_map_of_mem hg)

/-- Files with other names leave a file alone. -/
theorem Produced.cons {base : Path} {here : Location} {f : SourceFile} {rest : List SourceFile}
    {fs mid more : FileSystem} (h : Produced base here [f] fs mid) (hrest : Produced base here rest mid more)
    (hnew : f.fileName ∉ rest.map fileName) : Produced base here (f :: rest) fs more where
  isMore := h.isMore.trans hrest.isMore
  leadsTo _ := hrest.isMore.leadsTo (h.leadsTo (by simp))
  located := by
    intro g hg
    rcases List.mem_cons.mp hg with rfl | hg
    · exact hrest.isMore.locate (h.located g (by simp))
    · exact hrest.located g hg
  content := by
    intro g hg
    rcases List.mem_cons.mp hg with rfl | hg
    · have hkept := hrest.elsewhere _ (ne_append_fileName hnew here here)
      exact (hkept.file_iff _).mpr (h.content g (by simp))
    · exact hrest.content g hg
  elsewhere := by
    intro l hl
    have hfirst := h.elsewhere l fun g hg => hl g (by simp_all)
    exact hfirst.trans hrest.isMore (hrest.elsewhere l fun g hg => hl g (by simp [hg]))

theorem Produced.holds {base : Path} {here : Location} {files : List SourceFile} {fs more : FileSystem}
    (h : Produced base here files fs more) {f : SourceFile} (hf : f ∈ files) : more.Holds (f.path base) f.render :=
  holds_iff.mpr ⟨_, h.located f hf, h.content f hf⟩

namespace Produced

variable {base : Path} {here : Location} {files : List SourceFile} {fs more : FileSystem}

/-- A file at a location that no path of a file leads to is what it was. -/
theorem file_iff (h : Produced base here files fs more) {l : Location}
    (hl : ∀ f ∈ files, more.locate (f.path base) ≠ .ok l) (content : ByteArray) :
    more.node? l = some (.file content) ↔ fs.node? l = some (.file content) := by
  have hother : ∀ f ∈ files, l ≠ here ++ [f.fileName] := fun f hf heq => hl f hf (heq ▸ h.located f hf)
  exact (h.elsewhere l hother).file_iff content

/-- A new directory is where there was nothing, and it is on the way to the files. -/
theorem newDirectory (h : Produced base here files fs more) {l : Location} (hdir : more.node? l = some .directory)
    (hnew : fs.node? l ≠ some .directory) :
    fs.node? l = none ∧ ∃ q : Path, q.IsLexicalPrefix base ∧ more.locate q = .ok l := by
  have hother : ∀ f ∈ files, l ≠ here ++ [f.fileName] := by
    rintro f hf rfl
    rw [h.content f hf] at hdir
    cases hdir
  rcases h.elsewhere l hother with hsame | ⟨hnone, -, hlexical⟩
  · exact absurd (hsame ▸ hdir) hnew
  · exact ⟨hnone, hlexical⟩

/-- At the path of a file with another name there is what was there. -/
theorem file_iff_of_locate (h : Produced base here files fs more) {f : SourceFile} (hname : f.IsPlain)
    (hf : f.fileName ∉ files.map fileName) {l : Location} (hl : more.locate (f.path base) = .ok l) (content : ByteArray) :
    more.node? l = some (.file content) ↔ fs.node? l = some (.file content) := by
  obtain ⟨-, -, there, -, -, rfl⟩ := (locate_join_eq_ok hname f.not_isDotName_fileName).mp hl
  exact (h.elsewhere _ (ne_append_fileName hf there here)).file_iff content

end Produced

/-! ## One file -/

/-- A file that is up to date is where its directory leads. -/
theorem produced_of_holds {base : Path} {f : SourceFile} {fs : FileSystem} (hname : f.IsPlain)
    (h : fs.Holds (f.path base) f.render) : ∃ here, fs.LeadsTo base here ∧ Produced base here [f] fs fs := by
  obtain ⟨l, hloc, hnode⟩ := holds_iff.mp h
  obtain ⟨-, -, here, hhere, -, rfl⟩ := (locate_join_eq_ok hname f.not_isDotName_fileName).mp hloc
  exact ⟨here, hhere, .single (.refl fs) hhere hloc hnode fun _ _ => .inl rfl⟩

/-- A file that is replaced is where its directory leads after that. -/
theorem produced_of_replace {base : Path} {f : SourceFile} {fs more : FileSystem} (hname : f.IsPlain)
    (h : ((f.generated base).replace : StateM FileSystem _).run fs = (.ok (), more)) :
    ∃ here, more.LeadsTo base here ∧ Produced base here [f] fs more := by
  have hfront (parent : Path) (hparent : (base.join ⟨f.fileName⟩).parent? = some parent) :
      parent.parent? = none ∨ parent.IsLexicalPrefix base := Path.isLexicalPrefix_of_parent?_join hname hparent
  obtain ⟨mid, hadds, ⟨⟨_, hrefused⟩, -⟩ | ⟨-, hwrite⟩⟩ := GeneratedFile.run_replace (f := f.generated base) hfront h
  · cases hrefused
  · -- the file is written where its path leads once all directories in front of it are there
    obtain ⟨here, last, hplace, hold, hputs, hloc⟩ := write_eq_ok hwrite
    obtain ⟨hhere, rfl⟩ := leadsTo_of_place hname f.not_isDotName_fileName hplace
    have hmore := hputs.extends hold
    refine ⟨here, hmore.leadsTo hhere,
      .single (hadds.isMore.trans hmore) (hmore.leadsTo hhere) hloc hputs.here fun l hl => ?_⟩
    have hwritten : KeptOrAdded base mid more l := .inl (hputs.elsewhere l hl)
    exact (hadds.added l).trans hmore hwritten

/-- Bringing a file up to date leaves it alone if it has its content and nothing else changes then; otherwise it is
written. It is never skipped. -/
theorem run_write_ok {base : Path} {f : SourceFile} {fs more : FileSystem} {outcome : WriteOutcome} (hname : f.IsPlain)
    (h : ((f.generated base).write : StateM FileSystem _).run fs = (.ok outcome, more)) :
    (∃ here, more.LeadsTo base here ∧ Produced base here [f] fs more)
      ∧ (outcome = .unchanged ∧ fs.Holds (f.path base) f.render ∧ more = fs
        ∨ outcome = .written ∧ ¬ fs.Holds (f.path base) f.render) := by
  rw [GeneratedFile.run_write] at h
  have hrule : (fs.isThere (f.generated base).path && (f.generated base).rule == .ifMissing) = false := by
    simp [generated, rule]
  rw [hrule, if_neg (by simp)] at h
  by_cases hholds : fs.Holds (f.generated base).path (f.generated base).content
  · rw [if_pos hholds] at h
    cases h
    exact ⟨produced_of_holds hname hholds, .inl ⟨rfl, hholds, rfl⟩⟩
  · rw [if_neg hholds] at h
    cases hrun : ((f.generated base).replace : StateM FileSystem _).run fs with
    | mk result mid =>
      rw [hrun] at h
      cases result with
      | error failure => cases h
      | ok u =>
        cases h
        exact ⟨produced_of_replace hname hrun, .inr ⟨rfl, hholds⟩⟩

end SourceFile

end ValueObjects
