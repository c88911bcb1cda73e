import ValueObjects.Proofs.Generate.Step

/-!
# All files of a run

A run that ends well brings its files up to date one after another, in a directory whose place is settled by the
first of them. What is noted about each file is known before the run: the first one is looked up by its path, and any
other one at the place that the directory leads to in the end.
-/

namespace ValueObjects

open FileSystem

namespace SourceFile

/-! ## What a run writes -/

/-- Decide whether a file is not below a location with its text. -/
def isStale (here : Location) (fs : FileSystem) (f : SourceFile) : Bool :=
  fs.node? (here ++ [f.fileName]) != some (.file f.render.toUTF8)

/-- Decide whether a run over some files writes one of them. The first one is looked up by its path, when the directory
need not be there yet. -/
def isWritten (base : Path) (here : Location) (files : List SourceFile) (fs : FileSystem) (f : SourceFile) : Bool :=
  if files.head? = some f then !decide (fs.Holds (f.path base) f.render) else f.isStale here fs

theorem not_isStale_iff {here : Location} {fs : FileSystem} {f : SourceFile} :
    f.isStale here fs = false ↔ fs.node? (here ++ [f.fileName]) = some (.file f.render.toUTF8) := by
  simp [isStale]

/-- A path and the place it leads to in the end agree on a file, once the directory leads there. -/
theorem holds_iff_not_isStale {base : Path} {here : Location} {fs more : FileSystem} {f : SourceFile}
    (hname : f.IsPlain) (hhere : fs.LeadsTo base here)
    (hmore : more.locate (f.path base) = .ok (here ++ [f.fileName])) :
    fs.Holds (f.path base) f.render ↔ f.isStale here fs = false := by
  rw [not_isStale_iff, holds_iff]
  constructor
  · rintro ⟨l, hloc, hnode⟩
    obtain ⟨-, -, there, hthere, -, rfl⟩ := (locate_join_eq_ok hname f.not_isDotName_fileName).mp hloc
    rwa [hhere.unique hthere]
  · intro hnode
    obtain ⟨hcheck, hlen, -⟩ := (locate_join_eq_ok hname f.not_isDotName_fileName).mp hmore
    have hloc := (locate_join_eq_ok hname f.not_isDotName_fileName).mpr
      ⟨hcheck, hlen, here, hhere, by simp [hnode], rfl⟩
    exact ⟨_, hloc, hnode⟩

/-- Files produced elsewhere do not make a file stale, nor bring it up to date. -/
theorem Produced.isStale_eq {base : Path} {here : Location} {files : List SourceFile} {fs more : FileSystem}
    (h : Produced base here files fs more) {f : SourceFile} (hf : f.fileName ∉ files.map fileName) :
    f.isStale here more = f.isStale here fs := by
  have hkept := h.elsewhere _ (ne_append_fileName hf here here)
  have hiff : f.isStale here more = false ↔ f.isStale here fs = false := by
    rw [not_isStale_iff, not_isStale_iff]
    exact hkept.file_iff _
  cases hstale : f.isStale here fs with
  | false => exact hiff.mpr hstale
  | true => simpa [hstale] using hiff

theorem Produced.isStale_eq_of_rest {base : Path} {here : Location} {f : SourceFile} {rest : List SourceFile}
    {fs more : FileSystem} (h : Produced base here [f] fs more) (hnew : f.fileName ∉ rest.map fileName) :
    ∀ g ∈ rest, g.isStale here more = g.isStale here fs := by
  intro g hg
  apply h.isStale_eq
  intro hmem
  apply hnew
  rw [← List.mem_singleton.mp hmem]
  exact List.mem_map_of_mem hg

end SourceFile

namespace Manifest

open SourceFile

/-! ## Runs -/

/-- A run over some files starts with one file and goes on with the others. -/
theorem run_writeFiles_cons {base : Path} {f : SourceFile} {rest : List SourceFile} {w w' : WrittenFiles}
    {fs more : FileSystem} (h : (writeFiles base (f :: rest) w : StateM FileSystem _).run fs = (.ok w', more)) :
    ∃ outcome mid, ((f.generated base).write : StateM FileSystem _).run fs = (.ok outcome, mid)
      ∧ (writeFiles base rest (w.record f.fileName outcome) : StateM FileSystem _).run mid = (.ok w', more) := by
  rw [writeFiles, run_bind] at h
  cases hrun : ((f.generated base).write : StateM FileSystem _).run fs with
  | mk result mid =>
    rw [hrun] at h
    cases result with
    | error failure => cases h
    | ok outcome => exact ⟨outcome, mid, rfl, h⟩

/-- What a run notes if it writes exactly the files that have a property. -/
def noted (w : WrittenFiles) (files : List SourceFile) (p : SourceFile → Bool) : WrittenFiles :=
  { w with
    written := w.written ++ (files.filter p).map fileName
    unchanged := w.unchanged ++ (files.filter (!p ·)).map fileName }

theorem noted_written {w : WrittenFiles} {f : SourceFile} {rest : List SourceFile} {p q : SourceFile → Bool}
    (hf : q f = true) (hrest : ∀ g ∈ rest, p g = q g) :
    noted (w.record f.fileName .written) rest p = noted w (f :: rest) q := by
  have hp : rest.filter p = rest.filter q := List.filter_congr hrest
  have hq : rest.filter (!p ·) = rest.filter (!q ·) := List.filter_congr fun g hg => by rw [hrest g hg]
  simp [noted, WrittenFiles.record, hf, hp, hq]

theorem noted_unchanged {w : WrittenFiles} {f : SourceFile} {rest : List SourceFile} {p q : SourceFile → Bool}
    (hf : q f = false) (hrest : ∀ g ∈ rest, p g = q g) :
    noted (w.record f.fileName .unchanged) rest p = noted w (f :: rest) q := by
  have hp : rest.filter p = rest.filter q := List.filter_congr hrest
  have hq : rest.filter (!p ·) = rest.filter (!q ·) := List.filter_congr fun g hg => by rw [hrest g hg]
  simp [noted, WrittenFiles.record, hf, hp, hq]

/-- A run in a directory that leads somewhere already: each file that is stale is written. -/
theorem run_writeFiles_of_leadsTo {base : Path} {here : Location} {files : List SourceFile} {w w' : WrittenFiles}
    {fs more : FileSystem} (hhere : fs.LeadsTo base here) (hplain : ∀ f ∈ files, f.IsPlain)
    (hnodup : (files.map fileName).Nodup)
    (h : (writeFiles base files w : StateM FileSystem _).run fs = (.ok w', more)) :
    Produced base here files fs more ∧ w' = noted w files (isStale here fs)
      ∧ ((∀ f ∈ files, f.isStale here fs = false) → more = fs) := by
  -- each file finds the directory where it was at first, and no file before it has touched its own place
  induction files generalizing w fs with
  | nil =>
    cases h
    exact ⟨.nil base here _, by simp [noted], fun _ => rfl⟩
  | cons f rest ih =>
    obtain ⟨outcome, mid, hstep, hrest⟩ := run_writeFiles_cons h
    obtain ⟨⟨there, hthere, hproduced⟩, houtcome⟩ := run_write_ok (hplain f (by simp)) hstep
    obtain rfl : here = there := (hproduced.isMore.leadsTo hhere).unique hthere
    obtain ⟨hnew, hnodup⟩ := List.nodup_cons.mp hnodup
    obtain ⟨hafter, rfl, hsame⟩ := ih hthere (fun g hg => hplain g (by simp [hg])) hnodup hrest
    have hstale : ∀ g ∈ rest, g.isStale here mid = g.isStale here fs := hproduced.isStale_eq_of_rest hnew
    have hholds := holds_iff_not_isStale (hplain f (by simp)) hhere (hproduced.located f (by simp))
    refine ⟨hproduced.cons hafter hnew, ?_⟩
    rcases houtcome with ⟨rfl, hyes, rfl⟩ | ⟨rfl, hno⟩
    · exact ⟨noted_unchanged (hholds.mp hyes) hstale, fun hall => hsame fun g hg => hall g (by simp [hg])⟩
    · exact ⟨noted_written (by simpa using mt hholds.mpr hno) hstale,
        fun hall => absurd (hholds.mpr (hall f (by simp))) hno⟩

/-- A run that ends well settles where the directory leads, has all files there up to date, and notes what it had to
write for that. -/
theorem run_writeFiles {base : Path} {files : List SourceFile} {w w' : WrittenFiles} {fs more : FileSystem}
    (hplain : ∀ f ∈ files, f.IsPlain) (hnodup : (files.map fileName).Nodup)
    (h : (writeFiles base files w : StateM FileSystem _).run fs = (.ok w', more)) :
    ∃ here, Produced base here files fs more ∧ w' = noted w files (isWritten base here files fs)
      ∧ ((∀ f ∈ files, f.isWritten base here files fs = false) → more = fs) := by
  cases files with
  | nil =>
    cases h
    exact ⟨[], .nil base [] _, by simp [noted], fun _ => rfl⟩
  | cons f rest =>
    -- before the first file is written the directory need not lead anywhere, and afterwards it leads to where that is
    obtain ⟨outcome, mid, hstep, hrest⟩ := run_writeFiles_cons h
    obtain ⟨⟨here, hhere, hproduced⟩, houtcome⟩ := run_write_ok (hplain f (by simp)) hstep
    obtain ⟨hnew, hnodup⟩ := List.nodup_cons.mp hnodup
    obtain ⟨hafter, rfl, hsame⟩ :=
      run_writeFiles_of_leadsTo hhere (fun g hg => hplain g (by simp [hg])) hnodup hrest
    have hfirst : f.isWritten base here (f :: rest) fs = !decide (fs.Holds (f.path base) f.render) := by
      simp [isWritten]
    have hothers : ∀ g ∈ rest, g.isStale here mid = g.isWritten base here (f :: rest) fs := by
      intro g hg
      have hne : ¬ f = g := fun heq => hnew (heq ▸ List.mem_map_of_mem hg)
      simp only [isWritten, List.head?_cons, Option.some.injEq, hne, if_false]
      exact hproduced.isStale_eq_of_rest hnew g hg
    refine ⟨here, hproduced.cons hafter hnew, ?_⟩
    rcases houtcome with ⟨rfl, hyes, rfl⟩ | ⟨rfl, hno⟩
    · refine ⟨noted_unchanged (by simp [hfirst, hyes]) hothers, ?_⟩
      intro hall
      apply hsame
      intro g hg
      rw [hothers g hg]
      exact hall g (by simp [hg])
    · exact ⟨noted_written (by simp [hfirst, hno]) hothers,
        fun hall => absurd (hall f (by simp)) (by simp [hfirst, hno])⟩

end Manifest

end ValueObjects
