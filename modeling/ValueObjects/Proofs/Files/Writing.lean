import ValueObjects.Files.Generated
import ValueObjects.Proofs.Files.Operations

/-!
# Writing files

What is left of an attempt to write a file. Directories are added in front of it, at first parts of its path only;
then at most one file changes, the one that the path leads to. A file that has its content already is left alone, with
everything around it.
-/

namespace ValueObjects

open FileAccess

namespace FileSystem

/-! ## Directories -/

/-- At a location there is what was there, or a new directory that a first part of a path leads to. -/
def KeptOrAdded (p : Path) (fs more : FileSystem) (l : Location) : Prop :=
  more.node? l = fs.node? l ∨
    fs.node? l = none ∧ more.node? l = some .directory ∧ ∃ q : Path, q.IsLexicalPrefix p ∧ more.locate q = .ok l

namespace KeptOrAdded

variable {p q : Path} {fs mid more : FileSystem} {l : Location}

theorem trans (hmore : mid.Extends more) (h : KeptOrAdded p fs mid l) (h' : KeptOrAdded p mid more l) :
    KeptOrAdded p fs more l := by
  rcases h' with hsame | ⟨hnone, hdir, q, hq, hloc⟩
  · rcases h with hsame' | ⟨hnone, hdir, q, hq, hloc⟩
    · exact .inl (hsame.trans hsame')
    · exact .inr ⟨hnone, hsame.trans hdir, q, hq, hmore.locate hloc⟩
  · rcases h with hsame | ⟨-, hdir', -⟩
    · exact .inr ⟨hsame ▸ hnone, hdir, q, hq, hloc⟩
    · rw [hnone] at hdir'
      cases hdir'

theorem of_isLexicalPrefix (hpq : p.IsLexicalPrefix q) (h : KeptOrAdded p fs more l) : KeptOrAdded q fs more l :=
  h.imp_right fun ⟨hnone, hdir, r, hr, hloc⟩ => ⟨hnone, hdir, r, hr.trans hpq, hloc⟩

/-- A file stays what it is, and none is added. -/
theorem file_iff (h : KeptOrAdded p fs more l) (content : ByteArray) :
    more.node? l = some (.file content) ↔ fs.node? l = some (.file content) := by
  rcases h with hsame | ⟨hnone, hdir, -⟩
  · rw [hsame]
  · simp [hnone, hdir]

end KeptOrAdded

/-- Nothing is new but directories along a path. -/
structure AddsDirectories (p : Path) (fs more : FileSystem) : Prop where
  isMore : fs.Extends more
  added : ∀ l, KeptOrAdded p fs more l

theorem AddsDirectories.refl (p : Path) (fs : FileSystem) : fs.AddsDirectories p fs :=
  ⟨Extends.refl fs, fun _ => .inl rfl⟩

theorem AddsDirectories.trans {p : Path} {fs gs hs : FileSystem} (h : AddsDirectories p fs gs)
    (h' : AddsDirectories p gs hs) : AddsDirectories p fs hs :=
  ⟨h.isMore.trans h'.isMore, fun l => (h.added l).trans h'.isMore (h'.added l)⟩

/-- Directories in front of a directory are in front of what is below it. -/
theorem AddsDirectories.of_isLexicalPrefix {p q : Path} {fs more : FileSystem} (hpq : p.IsLexicalPrefix q)
    (h : AddsDirectories p fs more) : AddsDirectories q fs more :=
  ⟨h.isMore, fun l => (h.added l).of_isLexicalPrefix hpq⟩

theorem addsDirectories_of_makeDirectory {p : Path} {fs more : FileSystem} (h : fs.makeDirectory p = .ok more) :
    AddsDirectories p fs more := by
  obtain ⟨l, hnone, hputs, hloc⟩ := makeDirectory_eq_ok h
  refine ⟨hputs.extends (by simp [hnone]), fun other => ?_⟩
  by_cases hother : other = l
  · exact .inr ⟨hother ▸ hnone, hother ▸ hputs.here, p, List.prefix_rfl, hother ▸ hloc⟩
  · exact .inl (hputs.elsewhere other hother)

theorem run_bind {α β : Type} (x : StateM FileSystem α) (f : α → StateM FileSystem β) (fs : FileSystem) :
    (x >>= f).run fs = (f (x.run fs).1).run (x.run fs).2 := rfl

/-- An attempt that is not refused makes its change. -/
theorem run_attempt_ok {change : FileSystem → Except Fault FileSystem} {fs changed : FileSystem}
    (h : change fs = .ok changed) : (attempt change).run fs = (.ok (), changed) := by
  simp only [attempt, StateT.run, h]

/-- An attempt that is refused leaves everything as it was. -/
theorem run_attempt_error {change : FileSystem → Except Fault FileSystem} {fs : FileSystem} {fault : Fault}
    (h : change fs = .error fault) : (attempt change).run fs = (.error fault, fs) := by
  simp only [attempt, StateT.run, h]

/-- Make a directory, or be content with one that is there. -/
def haveDirectory (fs : FileSystem) (p : Path) : Except Fault Unit × FileSystem :=
  match fs.makeDirectory p with
  | .ok more => (.ok (), more)
  | .error fault => (if fault = .alreadyExists ∧ fs.isDirectory p then .ok () else .error fault, fs)

theorem run_accepted (p : Path) (fs : FileSystem) :
    (FileAccess.makeDirectory p >>= acceptExisting p : StateM FileSystem _).run fs = fs.haveDirectory p := by
  change (attempt (·.makeDirectory p) >>= acceptExisting p).run fs = _
  rw [run_bind, haveDirectory]
  cases hmake : fs.makeDirectory p with
  | ok made =>
    rw [run_attempt_ok hmake]
    rfl
  | error fault =>
    rw [run_attempt_error hmake]
    cases fault with
    | alreadyExists =>
      change (if fs.isDirectory p then Except.ok () else .error Fault.alreadyExists, fs) = _
      simp
    | _ => rfl

theorem addsDirectories_of_haveDirectory (p : Path) (fs : FileSystem) : AddsDirectories p fs (fs.haveDirectory p).2 := by
  unfold haveDirectory
  split
  · rename_i more hmake
    exact addsDirectories_of_makeDirectory hmake
  · exact .refl p fs

/-- The root and the empty path are there without being made. -/
theorem createDirectories_root {p : Path} (h : p.parent? = none) :
    (createDirectories p : StateM FileSystem _) = pure (.ok ()) := by
  rw [createDirectories]
  split
  · rfl
  · rename_i parent hparent
    rw [h] at hparent
    cases hparent

/-- Where the parent is not missing, one attempt decides. -/
theorem run_createDirectories {p q : Path} {fs : FileSystem} (hparent : p.parent? = some q)
    (hmake : fs.makeDirectory p ≠ .error .notFound) :
    (createDirectories p : StateM FileSystem _).run fs = fs.haveDirectory p := by
  rw [← run_accepted, createDirectories]
  split
  · rename_i hnone
    rw [hparent] at hnone
    cases hnone
  · change (attempt (·.makeDirectory p) >>= _).run fs = (attempt (·.makeDirectory p) >>= acceptExisting p).run fs
    rw [run_bind, run_bind]
    cases hmake' : fs.makeDirectory p with
    | ok made =>
      rw [run_attempt_ok hmake']
    | error fault =>
      rw [run_attempt_error hmake']
      cases fault with
      | notFound => exact absurd hmake' hmake
      | _ => rfl

/-- If the parent is missing it is made first. -/
theorem run_createDirectories_notFound {p q : Path} {fs : FileSystem} (hparent : p.parent? = some q)
    (hmake : fs.makeDirectory p = .error .notFound) :
    (createDirectories p : StateM FileSystem _).run fs =
      match (createDirectories q : StateM FileSystem _).run fs with
      | (.error fault, mid) => (.error fault, mid)
      | (.ok (), mid) => mid.haveDirectory p := by
  rw [createDirectories]
  split
  · rename_i hnone
    rw [hparent] at hnone
    cases hnone
  · rename_i parent hsome
    obtain rfl : parent = q := Option.some.inj (hsome.symm.trans hparent)
    have hrun : (FileAccess.makeDirectory p : StateM FileSystem _).run fs = (.error .notFound, fs) :=
      run_attempt_error hmake
    rw [run_bind, hrun]
    dsimp only
    rw [run_bind]
    cases (createDirectories parent : StateM FileSystem _).run fs with
    | mk result mid =>
      cases result with
      | error fault => rfl
      | ok u => exact run_accepted p mid

/-- Whether or not it ends well, making directories adds directories along the path and nothing else. -/
theorem addsDirectories_of_createDirectories (p : Path) (fs : FileSystem) :
    AddsDirectories p fs ((createDirectories p : StateM FileSystem _).run fs).2 := by
  cases hparent : p.parent? with
  | none =>
    rw [createDirectories_root hparent]
    exact .refl p fs
  | some parent =>
    by_cases hmake : fs.makeDirectory p = .error .notFound
    · -- directories in front of a parent are in front of the path itself
      have front : AddsDirectories p fs ((createDirectories parent : StateM FileSystem _).run fs).2 := by
        rcases Path.isLexicalPrefix_of_parent? hparent with hroot | hlexical
        · rw [createDirectories_root hroot]
          exact .refl p fs
        · exact (addsDirectories_of_createDirectories parent fs).of_isLexicalPrefix hlexical
      rw [run_createDirectories_notFound hparent hmake]
      cases hrun : (createDirectories parent : StateM FileSystem _).run fs with
      | mk result mid =>
        rw [hrun] at front
        cases result with
        | error fault => exact front
        | ok u => exact front.trans (addsDirectories_of_haveDirectory p mid)
    · rw [run_createDirectories hparent hmake]
      exact addsDirectories_of_haveDirectory p fs
termination_by p.text.toList.length
decreasing_by exact Path.length_parent?_lt hparent

/-! ## Content -/

/-- There is a regular file at a path with exactly a content. -/
def Holds (fs : FileSystem) (p : Path) (content : String) : Prop := fs.read p = .ok content.toUTF8

theorem holds_iff {fs : FileSystem} {p : Path} {content : String} :
    fs.Holds p content ↔ ∃ l, fs.locate p = .ok l ∧ fs.node? l = some (.file content.toUTF8) :=
  read_eq_ok

/-- There is one content at a path. -/
theorem Holds.unique {fs : FileSystem} {p : Path} {s t : String} (h : fs.Holds p s) (h' : fs.Holds p t) : s = t := by
  have hbytes : s.toUTF8 = t.toUTF8 := by simpa [Holds] using h.symm.trans h'
  exact String.toByteArray_inj.mp hbytes

instance (fs : FileSystem) (p : Path) (content : String) : Decidable (fs.Holds p content) :=
  match h : fs.locate p with
  | .ok l => decidable_of_iff (fs.node? l = some (.file content.toUTF8)) (by simp [holds_iff, h])
  | .error fault => isFalse (by simp [holds_iff, h])

end FileSystem

/-- Bytes are taken for a text exactly if they are its bytes. -/
theorem decode_eq_ok {bytes : ByteArray} {text : String} : decode bytes = .ok text ↔ bytes = text.toUTF8 := by
  unfold decode String.fromUTF8?
  split
  · rename_i h
    split at h
    · rename_i hvalid
      cases h
      simp [String.fromUTF8, ← String.toByteArray_inj, eq_comm]
    · cases h
  · rename_i h
    split at h
    · cases h
    · rename_i hinvalid
      simp only [reduceCtorEq, false_iff]
      rintro rfl
      exact hinvalid text.isValidUTF8

/-- What is read at a path is the text of the file there. -/
theorem FileSystem.readText_eq_ok {fs : FileSystem} {p : Path} {content : String} :
    ((readText p : StateM FileSystem _).run fs).1 = .ok content ↔ fs.Holds p content := by
  have hread : (readText p : StateM FileSystem _).run fs = ((fs.read p).bind decode, fs) := rfl
  rw [hread, Holds]
  cases fs.read p with
  | error fault => simp [Except.bind]
  | ok bytes => simp [Except.bind, decode_eq_ok]

namespace GeneratedFile

open FileSystem

/-- A file is up to date if it is there with its content, and looking changes nothing. -/
theorem run_isUpToDate (f : GeneratedFile) (fs : FileSystem) :
    (f.isUpToDate : StateM FileSystem Bool).run fs = (decide (fs.Holds f.path f.content), fs) := by
  have hread : (readText f.path : StateM FileSystem _).run fs =
      (((readText f.path : StateM FileSystem _).run fs).1, fs) := rfl
  unfold isUpToDate
  rw [run_bind, hread]
  cases htext : ((readText f.path : StateM FileSystem _).run fs).1 with
  | error fault =>
    -- a file that cannot be read, or that is no text, is as good as a missing one
    have hnot : ¬ fs.Holds f.path f.content := by simp [← readText_eq_ok, htext]
    exact Prod.ext (decide_eq_false hnot).symm rfl
  | ok text =>
    refine Prod.ext ?_ rfl
    change (text == f.content) = decide (fs.Holds f.path f.content)
    rw [Bool.eq_iff_iff, decide_eq_true_iff, beq_iff_eq, ← readText_eq_ok, htext, Except.ok.injEq]

theorem run_writeContent_eq (f : GeneratedFile) (fs : FileSystem) :
    (replace.writeContent f : StateM FileSystem _).run fs =
      match fs.write f.path f.content.toUTF8 with
      | .ok changed => (.ok (), changed)
      | .error fault => (.error ⟨.writeFile, f.path, fault⟩, fs) := by
  unfold replace.writeContent
  rw [run_bind]
  cases hwrite : fs.write f.path f.content.toUTF8 with
  | ok changed =>
    have hrun : (FileAccess.write f.path f.content : StateM FileSystem _).run fs = (.ok (), changed) :=
      run_attempt_ok hwrite
    rw [hrun]
    rfl
  | error fault =>
    have hrun : (FileAccess.write f.path f.content : StateM FileSystem _).run fs = (.error fault, fs) :=
      run_attempt_error hwrite
    rw [hrun]
    rfl

theorem run_replace_of_parent {f : GeneratedFile} {fs : FileSystem} {parent : Path} (hparent : f.path.parent? = some parent) :
    (f.replace : StateM FileSystem _).run fs =
      match (createDirectories parent : StateM FileSystem _).run fs with
      | (.error fault, mid) => (.error ⟨.createDirectory, parent, fault⟩, mid)
      | (.ok (), mid) => (replace.writeContent f : StateM FileSystem _).run mid := by
  unfold replace
  rw [hparent]
  dsimp only
  rw [run_bind]
  cases (createDirectories parent : StateM FileSystem _).run fs with
  | mk result mid =>
    cases result with
    | error fault => rfl
    | ok u => rfl

theorem run_replace_of_root {f : GeneratedFile} {fs : FileSystem} (hparent : f.path.parent? = none) :
    (f.replace : StateM FileSystem _).run fs = (replace.writeContent f : StateM FileSystem _).run fs := by
  unfold replace
  rw [hparent]

/-- Writing the content either is refused, or makes the change. -/
theorem run_writeContent {f : GeneratedFile} {fs more : FileSystem} {result : Except WriteFailure Unit}
    (h : (replace.writeContent f : StateM FileSystem _).run fs = (result, more)) :
    (∃ failure, result = .error failure) ∧ more = fs ∨
      result = .ok () ∧ fs.write f.path f.content.toUTF8 = .ok more := by
  rw [run_writeContent_eq] at h
  cases hwrite : fs.write f.path f.content.toUTF8 with
  | error fault =>
    rw [hwrite] at h
    cases h
    exact .inl ⟨⟨_, rfl⟩, rfl⟩
  | ok changed =>
    rw [hwrite] at h
    cases h
    exact .inr ⟨rfl, rfl⟩

/-- Replacing a file adds directories in front of it, and then writes the file if that is not refused. -/
theorem run_replace {f : GeneratedFile} {fs more : FileSystem} {result : Except WriteFailure Unit} {base : Path}
    (hbase : ∀ parent, f.path.parent? = some parent → parent.parent? = none ∨ parent.IsLexicalPrefix base)
    (h : (f.replace : StateM FileSystem _).run fs = (result, more)) :
    ∃ mid, AddsDirectories base fs mid
      ∧ ((∃ failure, result = .error failure) ∧ more = mid
        ∨ result = .ok () ∧ mid.write f.path f.content.toUTF8 = .ok more) := by
  cases hparent : f.path.parent? with
  | none =>
    rw [run_replace_of_root hparent] at h
    exact ⟨fs, .refl base fs, run_writeContent h⟩
  | some parent =>
    have hadds : AddsDirectories base fs ((createDirectories parent : StateM FileSystem _).run fs).2 := by
      rcases hbase parent hparent with hroot | hlexical
      · rw [createDirectories_root hroot]
        exact .refl base fs
      · exact (addsDirectories_of_createDirectories parent fs).of_isLexicalPrefix hlexical
    refine ⟨_, hadds, ?_⟩
    rw [run_replace_of_parent hparent] at h
    cases hrun : (createDirectories parent : StateM FileSystem _).run fs with
    | mk created mid =>
      rw [hrun] at h
      cases created with
      | error fault =>
        cases h
        exact .inl ⟨⟨_, rfl⟩, rfl⟩
      | ok u => exact run_writeContent h

/-- Writing leaves alone what must not be overwritten and what is up to date, and replaces the rest. -/
theorem run_write (f : GeneratedFile) (fs : FileSystem) :
    (f.write : StateM FileSystem _).run fs =
      if fs.isThere f.path && f.rule == .ifMissing then (.ok .skipped, fs)
      else if fs.Holds f.path f.content then (.ok .unchanged, fs)
      else (((f.replace : StateM FileSystem _).run fs).1.map fun () => .written,
        ((f.replace : StateM FileSystem _).run fs).2) := by
  unfold write
  rw [run_bind]
  have hthere : (FileAccess.isThere f.path : StateM FileSystem Bool).run fs = (fs.isThere f.path, fs) := rfl
  rw [hthere]
  by_cases hskip : (fs.isThere f.path && f.rule == .ifMissing) = true
  · rw [if_pos hskip, if_pos hskip]
    rfl
  · rw [if_neg hskip, if_neg hskip, run_bind, run_isUpToDate]
    by_cases hholds : fs.Holds f.path f.content
    · rw [if_pos hholds, if_pos (decide_eq_true hholds)]
      rfl
    · rw [if_neg hholds, if_neg (by simpa using hholds)]
      rfl

end GeneratedFile

end ValueObjects
