import ValueObjects.Proofs.Files.Walking
import ValueObjects.Proofs.Paths

/-!
# Single accesses

What each access to a file system does: reading gives the content that is seen, and a change that is not refused is
seen at one location, which the path leads to from then on.
-/

namespace ValueObjects

namespace FileSystem

/-! ## Targets -/

/-- A path consists of the names in front of its last one, the last one, and empty names. -/
theorem parts_eq_target {p : Path} {name : String} (h : (target p).name = some name) :
    ∃ slashes, p.parts = (target p).front ++ name :: slashes ∧ (∀ s ∈ slashes, s = "")
      ∧ ((target p).slashed = false → slashes = []) ∧ name ≠ "" := by
  have hsplit := List.takeWhile_append_dropWhile (p := (· == "")) (l := p.parts.reverse)
  unfold target at h ⊢
  cases hdrop : p.parts.reverse.dropWhile (· == "") with
  | nil => simp [hdrop] at h
  | cons last front =>
    simp only [hdrop, Option.some.injEq] at h ⊢
    subst h
    refine ⟨(p.parts.reverse.takeWhile (· == "")).reverse, ?_, ?_, ?_, ?_⟩
    · rw [hdrop] at hsplit
      simpa using (congrArg List.reverse hsplit).symm
    · intro s hs
      have hall := List.all_eq_true.mp (List.all_takeWhile (p := (· == "")) (l := p.parts.reverse))
      simpa using hall s (List.mem_reverse.mp hs)
    · simp
    · have := List.head?_dropWhile_not (· == "") p.parts.reverse
      simpa [hdrop] using this

theorem target_of_parts {p : Path} {front : List String} {name : String} (h : p.parts = front ++ [name])
    (hname : name ≠ "") : target p = ⟨front, some name, false⟩ := by
  simp [target, h, hname]

/-! ## Places -/

theorem place_eq_named {fs : FileSystem} {p : Path} {parent : Location} {name : String} :
    fs.place p = .ok (.named parent name) ↔
      checkPath p = .ok () ∧ fs.walk (fs.start p) (target p).front = .ok parent ∧ fs.node? parent = some .directory
        ∧ (target p).name = some name ∧ name ≠ "." ∧ name ≠ ".." := by
  simp only [place, bind_eq_ok, exists_done, requireDirectory_eq_ok]
  refine and_congr_right fun _ => ?_
  cases hname : (target p).name with
  | none => simp [pure_eq_ok]
  | some other =>
    by_cases hdot : other = "." ∨ other = ".."
    · simp only [hdot, if_true, pure_eq_ok, reduceCtorEq, and_false, exists_false, Option.some.injEq, false_iff]
      rintro ⟨-, -, rfl, h, h'⟩
      exact hdot.elim h h'
    · simp only [hdot, if_false, pure_eq_ok, Place.named.injEq, Option.some.injEq]
      constructor
      · rintro ⟨parent', hwalk, hdir, rfl, rfl⟩
        exact ⟨hwalk, hdir, rfl, not_or.mp hdot⟩
      · rintro ⟨hwalk, hdir, rfl, -⟩
        exact ⟨_, hwalk, hdir, rfl, rfl⟩

/-- What is put at the place that a path names is what the path leads to. -/
theorem locate_of_place {fs more : FileSystem} {p : Path} {parent : Location} {name : String}
    (hplace : fs.place p = .ok (.named parent name)) (hext : fs.Extends more)
    (hlen : name.utf8ByteSize ≤ maxNameBytes) (hthere : (more.node? (parent ++ [name])).isSome)
    (hslash : (target p).slashed = true → more.node? (parent ++ [name]) = some .directory) :
    more.locate p = .ok (parent ++ [name]) := by
  obtain ⟨hcheck, hwalk, hdir, htarget, hdot, hdots⟩ := place_eq_named.mp hplace
  obtain ⟨slashes, hparts, hempty, hnone, hname⟩ := parts_eq_target htarget
  have henter : more.enter parent name = .ok (parent ++ [name]) :=
    (enter_down (by simp [isDotName, hname, hdot, hdots])).mpr ⟨hext.directory _ hdir, hlen, hthere, rfl⟩
  -- a slash behind the name asks for a directory once more
  have hback : more.walk (parent ++ [name]) slashes = .ok (parent ++ [name]) := by
    cases hs : (target p).slashed with
    | false => simp [hnone hs]
    | true => exact walk_empty_names (hslash hs) hempty
  refine locate_eq_ok.mpr ⟨hcheck, ?_⟩
  rw [hparts, hext.start]
  exact walk_append_eq_ok.mpr ⟨parent, hext.walk hwalk, walk_cons_eq_ok.mpr ⟨_, henter, hback⟩⟩

/-! ## Reading -/

theorem read_eq_ok {fs : FileSystem} {p : Path} {content : ByteArray} :
    fs.read p = .ok content ↔ ∃ l, fs.locate p = .ok l ∧ fs.node? l = some (.file content) := by
  unfold read
  cases hl : fs.locate p with
  | error fault => simp [bind, Except.bind]
  | ok l =>
    simp only [bind, Except.bind, node?_eq, Except.ok.injEq, exists_eq_left']
    cases fs.at? l with
    | none => simp [throw, throwThe, MonadExceptOf.throw]
    | some e => cases e <;> simp [Entry.node, pure, Except.pure, throw, throwThe, MonadExceptOf.throw]

theorem isDirectory_iff {fs : FileSystem} {p : Path} :
    fs.isDirectory p = true ↔ ∃ l, fs.locate p = .ok l ∧ fs.node? l = some .directory := by
  unfold isDirectory
  cases fs.locate p with
  | error fault => simp
  | ok l =>
    simp only [Except.ok.injEq, exists_eq_left', ← requireDirectory_eq_ok]
    cases fs.requireDirectory l <;> simp [Except.isOk, Except.toBool]

/-! ## Changes -/

/-- A change is seen at one location only. -/
structure Puts (fs : FileSystem) (l : Location) (node : Node) (changed : FileSystem) : Prop where
  workingDirectory : changed.workingDirectory = fs.workingDirectory
  here : changed.node? l = some node
  elsewhere : ∀ other, other ≠ l → changed.node? other = fs.node? other

theorem puts_put {fs : FileSystem} {parent : Location} {name : String} {e : Entry}
    (hparent : fs.node? parent = some .directory) (hnew : ∀ n l, e.at? (n :: l) = none)
    (hold : fs.node? (parent ++ [name]) ≠ some .directory) :
    fs.Puts (parent ++ [name]) e.node (fs.put (parent ++ [name]) e) := by
  have hnode := Tree.node?_put hparent hnew fun n l => by
    simpa using Tree.at?_below_none (l := parent ++ [name]) hold n l
  exact ⟨rfl, by simpa [node?, put] using hnode (parent ++ [name]),
    fun other hother => by simpa [node?, put, hother] using hnode other⟩

/-- Anything may take the place of nothing, and a file that of a file. -/
theorem Puts.extends {fs changed : FileSystem} {l : Location} {node : Node} (h : fs.Puts l node changed)
    (hold : fs.node? l ≠ some .directory) : fs.Extends changed where
  workingDirectory := h.workingDirectory
  directory other hother := by
    have : other ≠ l := fun heq => hold (heq ▸ hother)
    rw [h.elsewhere other this, hother]
  isThere other hother := by
    by_cases heq : other = l
    · simp [heq, h.here]
    · rwa [h.elsewhere other heq]

/-- A directory is made where there was nothing. -/
theorem makeDirectory_eq_ok {fs changed : FileSystem} {p : Path} (h : fs.makeDirectory p = .ok changed) :
    ∃ l, fs.node? l = none ∧ fs.Puts l .directory changed ∧ changed.locate p = .ok l := by
  unfold makeDirectory at h
  cases hplace : fs.place p with
  | error fault => simp [hplace, bind, Except.bind] at h
  | ok place =>
    cases place with
    | directory => simp [hplace, bind, Except.bind, throw, throwThe, MonadExceptOf.throw] at h
    | named parent name =>
      simp only [hplace, bind, Except.bind] at h
      split at h
      · cases h
      · rename_i hlen
        split at h
        · cases h
        · rename_i hnone
          cases h
          have hdir := (place_eq_named.mp hplace).2.2.1
          have hnone : fs.node? (parent ++ [name]) = none := by simpa [node?_eq] using hnone
          have hold : fs.node? (parent ++ [name]) ≠ some .directory := by simp [hnone]
          have hputs := puts_put (e := .directory .empty) hdir
            (fun n l => by simp [Entry.at?, Tree.at?_cons, Tree.find?]) hold
          refine ⟨_, hnone, hputs, ?_⟩
          exact locate_of_place hplace (hputs.extends hold) (by omega) (by simp [hputs.here])
            fun _ => hputs.here

/-- A file is written where there was a file or nothing. -/
theorem write_eq_ok {fs changed : FileSystem} {p : Path} {content : ByteArray} (h : fs.write p content = .ok changed) :
    ∃ parent name, fs.place p = .ok (.named parent name) ∧ fs.node? (parent ++ [name]) ≠ some .directory
      ∧ fs.Puts (parent ++ [name]) (.file content) changed ∧ changed.locate p = .ok (parent ++ [name]) := by
  unfold FileSystem.write at h
  cases hplace : fs.place p with
  | error fault => simp [hplace, bind, Except.bind] at h
  | ok place =>
    cases place with
    | directory => simp [hplace, bind, Except.bind, throw, throwThe, MonadExceptOf.throw] at h
    | named parent name =>
      simp only [hplace, bind, Except.bind] at h
      split at h
      · cases h
      · rename_i hslash
        split at h
        · cases h
        · rename_i hlen
          split at h
          · cases h
          · rename_i hnot
            cases h
            have hdir := (place_eq_named.mp hplace).2.2.1
            have hold : fs.node? (parent ++ [name]) ≠ some .directory := by
              rw [node?_eq]
              cases he : fs.at? (parent ++ [name]) with
              | none => simp
              | some e => cases e <;> simp_all [Entry.node]
            have hputs := puts_put (e := .file content) hdir (fun n l => rfl) hold
            refine ⟨parent, name, rfl, hold, hputs, ?_⟩
            exact locate_of_place hplace (hputs.extends hold) (by omega) (by simp [hputs.here]) fun h => absurd h hslash

end FileSystem

end ValueObjects
