import ValueObjects.Proofs.Files.Writing

/-!
# Making directories

What is left of an attempt to make a directory with those in front of it. Where it succeeds there is a directory, which
is left alone by a second attempt; where it fails, a second attempt fails as well and changes nothing.
-/

namespace ValueObjects

open FileAccess

namespace FileSystem

variable {fs more : FileSystem} {p q : Path} {l : Location}

/-! ## What is there -/

/-- A step leads to something. -/
theorem isThere_of_enter {here : Location} {name : String} (h : fs.enter here name = .ok l) : (fs.node? l).isSome := by
  have hhere : (fs.node? here).isSome := by simp [directory_of_enter h]
  by_cases hname : isDotName name
  · rcases hname with rfl | rfl | rfl
    · obtain ⟨-, rfl⟩ := (enter_stay (.inl rfl)).mp h
      exact hhere
    · obtain ⟨-, rfl⟩ := (enter_stay (.inr rfl)).mp h
      exact hhere
    · obtain ⟨-, rfl⟩ := enter_up.mp h
      exact isThere_of_isPrefix (List.dropLast_prefix here) hhere
  · obtain ⟨-, -, hthere, rfl⟩ := (enter_down hname).mp h
    exact hthere

/-- A walk along some names ends at something. -/
theorem isThere_of_walk {here : Location} {names : List String} (hnames : names ≠ [])
    (h : fs.walk here names = .ok l) : (fs.node? l).isSome := by
  obtain ⟨front, last, rfl⟩ := (List.eq_nil_or_concat names).resolve_left hnames
  obtain ⟨mid, -, hlast⟩ := walk_append_eq_ok.mp (List.concat_eq_append ▸ h)
  obtain ⟨next, henter, hend⟩ := walk_cons_eq_ok.mp hlast
  cases hend
  exact isThere_of_enter henter

/-- There is something where a path leads. -/
theorem isThere_of_locate (h : fs.locate p = .ok l) : (fs.node? l).isSome :=
  isThere_of_walk p.parts_ne_nil (locate_eq_ok.mp h).2

/-- A path leads to something. -/
def Occupied (fs : FileSystem) (p : Path) : Prop := ∃ l node, fs.locate p = .ok l ∧ fs.node? l = some node

theorem isThere_iff : fs.isThere p ↔ fs.Occupied p := by
  unfold isThere Occupied
  cases hlocate : fs.locate p with
  | error fault => simp [Except.isOk, Except.toBool]
  | ok l => simpa [Except.isOk, Except.toBool, Option.isSome_iff_exists] using isThere_of_locate hlocate

/-- Every name but the last ones of a walk leads to a directory. -/
theorem directory_of_walk_append {here : Location} {front back : List String} (hback : back ≠ [])
    (h : fs.walk here (front ++ back) = .ok l) : ∃ mid, fs.walk here front = .ok mid ∧ fs.node? mid = some .directory := by
  obtain ⟨mid, hfront, hmid⟩ := walk_append_eq_ok.mp h
  obtain ⟨name, names, rfl⟩ := List.exists_cons_of_ne_nil hback
  obtain ⟨next, henter, -⟩ := walk_cons_eq_ok.mp hmid
  exact ⟨mid, hfront, directory_of_enter henter⟩

/-- All directories in front of what a path leads to are there. -/
theorem directory_of_locate (h : fs.locate p = .ok l) {names : List String} (hnames : names <+: p.parts)
    (hne : names ≠ p.parts) : ∃ mid, fs.walk (fs.start p) names = .ok mid ∧ fs.node? mid = some .directory := by
  obtain ⟨back, hback⟩ := hnames
  have hbehind : back ≠ [] := by
    rintro rfl
    exact hne (by simpa using hback)
  exact directory_of_walk_append hbehind (hback.symm ▸ (locate_eq_ok.mp h).2)

/-! ## Parents -/

theorem checkPath_eq_ok :
    checkPath p = .ok () ↔ '\x00' ∉ p.text.toList ∧ p.text.toList ≠ [] ∧ p.text.utf8ByteSize ≤ maxPathBytes := by
  unfold checkPath
  split
  · rename_i hnul
    have hmem : '\x00' ∈ p.text.toList := by simpa using hnul
    simp [hmem]
  rename_i hnul
  have hmem : '\x00' ∉ p.text.toList := by simpa using hnul
  split
  · rename_i hnil
    simp [hnil]
  rename_i hnil
  split
  · rename_i hlong
    simp [Nat.not_le.mpr hlong]
  · rename_i hlong
    exact iff_of_true rfl ⟨hmem, hnil, Nat.not_lt.mp hlong⟩

/-- The beginning of a path is a directory if the names of it lead to one. -/
theorem isDirectory_of_append {rest : List Char} (hp : p.text.toList = q.text.toList ++ rest)
    (hq : q.text.toList ≠ []) (hcheck : checkPath p = .ok ()) (hwalk : fs.walk (fs.start p) q.parts = .ok l)
    (hdir : fs.node? l = some .directory) : fs.isDirectory q := by
  obtain ⟨hnul, -, hlength⟩ := checkPath_eq_ok.mp hcheck
  have htext : p.text = q.text ++ String.ofList rest := by simp [← String.toList_inj, hp]
  have hcheckBeginning : checkPath q = .ok () := by
    refine checkPath_eq_ok.mpr ⟨fun hmem => hnul (by simp [hp, hmem]), hq, ?_⟩
    rw [htext, String.utf8ByteSize_append] at hlength
    omega
  have hstart : fs.start q = fs.start p := by
    obtain ⟨c, cs, hcs⟩ := List.exists_cons_of_ne_nil hq
    simp [start, Path.isAbsolute, hp, hcs]
  exact isDirectory_iff.mpr ⟨l, locate_eq_ok.mpr ⟨hcheckBeginning, hstart ▸ hwalk⟩, hdir⟩

theorem isDirectory_root (fs : FileSystem) : fs.isDirectory ⟨"/"⟩ := by
  have hcheck : checkPath ⟨"/"⟩ = .ok () := checkPath_eq_ok.mpr ⟨by decide, by decide, by decide⟩
  have hwalk : fs.walk [] ["", ""] = .ok [] := walk_empty_names (node?_nil fs) (by simp)
  exact isDirectory_iff.mpr ⟨[], locate_eq_ok.mpr ⟨hcheck, hwalk⟩, node?_nil fs⟩

/-- The parent of what is there is a directory, unless it is the empty path. -/
theorem isDirectory_parent?_of_locate (hparent : p.parent? = some q) (h : fs.locate p = .ok l) :
    q = ⟨""⟩ ∨ fs.isDirectory q := by
  rcases Path.parent?_cases hparent with rfl | rfl | ⟨hq, rest, hrest⟩
  · exact .inr fs.isDirectory_root
  · exact .inl rfl
  · right
    obtain ⟨hcheck, hwalk⟩ := locate_eq_ok.mp h
    have hbehind : (Text.split '/' rest).map String.ofList ≠ [] := by simp [Text.split_ne_nil]
    rw [Path.parts_of_append hrest] at hwalk
    obtain ⟨mid, hmid, hdir⟩ := directory_of_walk_append hbehind hwalk
    exact isDirectory_of_append hrest hq hcheck hmid hdir

/-- The last name of a path is not one of its parent's names. -/
theorem parts_isPrefix_front {name : String} {rest : List Char} (hparent : p.parent? = some q)
    (hrest : p.text.toList = q.text.toList ++ '/' :: rest) (hq : q.text.toList ≠ [])
    (hname : (target p).name = some name) : q.parts <+: (target p).front := by
  obtain ⟨slashes, hparts, hempty, -, -⟩ := parts_eq_target hname
  rw [Path.parts_of_append hrest] at hparts
  rcases List.append_eq_append_iff.mp hparts with ⟨behind, hfront, -⟩ | ⟨names, hnames, hbehind⟩
  · exact ⟨behind, hfront.symm⟩
  cases names with
  | nil => simp [hnames]
  | cons first names =>
    -- otherwise nothing but slashes is behind the parent, which is then its own parent
    exfalso
    obtain ⟨rfl, hslashes⟩ := List.cons.inj hbehind
    have hnothing : ∀ part ∈ Text.split '/' rest, part = [] := by
      intro part hpart
      have hmem : String.ofList part ∈ slashes := by
        rw [hslashes]
        exact List.mem_append_right _ (List.mem_map_of_mem hpart)
      simpa using hempty _ hmem
    have honly : ∀ c ∈ '/' :: rest, c = '/' := by
      intro c hc
      rcases List.mem_cons.mp hc with rfl | hc
      · rfl
      have hsplit : c = '/' ∨ ∃ part ∈ Text.split '/' rest, c ∈ part := Text.mem_split hc
      rcases hsplit with hslash | ⟨part, hpart, hmem⟩
      · exact hslash
      · simp [hnothing part hpart] at hmem
    have hself : q.parent? = some q := by rw [← Path.parent?_of_append_slashes hrest honly hq, hparent]
    exact Nat.lt_irrefl _ (Path.length_parent?_lt hself)

/-- A new entry goes into a directory, which is the parent of its path unless that is the root or the empty path. -/
theorem isDirectory_parent?_of_place {parent : Location} {name : String} (hparent : p.parent? = some q)
    (h : fs.place p = .ok (.named parent name)) : q.parent? = none ∨ fs.isDirectory q := by
  rcases Path.parent?_eq_some_of_ne_nil hparent with hroot | ⟨hq, rest, hrest⟩
  · exact .inl hroot
  · right
    obtain ⟨hcheck, hwalk, hdir, hname, -, -⟩ := place_eq_named.mp h
    obtain ⟨behind, hfront⟩ := parts_isPrefix_front hparent hrest hq hname
    by_cases hbehind : behind = []
    · subst hbehind
      rw [List.append_nil] at hfront
      exact isDirectory_of_append hrest hq hcheck (hfront ▸ hwalk) hdir
    · rw [← hfront] at hwalk
      obtain ⟨mid, hmid, hmidDirectory⟩ := directory_of_walk_append hbehind hwalk
      exact isDirectory_of_append hrest hq hcheck hmid hmidDirectory

/-! ## Making a directory -/

theorem target_of_name_none (h : (target p).name = none) : (target p).front = [] := by
  unfold target at h ⊢
  cases hdrop : p.parts.reverse.dropWhile (· == "") with
  | nil => rfl
  | cons name front => simp [hdrop] at h

/-- Without a name of its own a path stands for a directory that is there. -/
theorem place_eq_directory {parent : Location} (hcheck : checkPath p = .ok ())
    (hwalk : fs.walk (fs.start p) (target p).front = .ok parent) (hdir : fs.node? parent = some .directory)
    (hname : ∀ name, (target p).name = some name → name = "." ∨ name = "..") : fs.place p = .ok .directory := by
  simp only [place, bind_eq_ok, exists_done, requireDirectory_eq_ok]
  refine ⟨hcheck, parent, hwalk, hdir, ?_⟩
  cases htarget : (target p).name with
  | none => rfl
  | some name =>
    dsimp only
    rw [if_pos (hname name htarget)]
    rfl

theorem makeDirectory_of_place_directory (h : fs.place p = .ok .directory) :
    fs.makeDirectory p = .error .alreadyExists := by
  rw [makeDirectory, h]
  rfl

/-- Nothing is made where a directory is. -/
theorem makeDirectory_of_isDirectory (h : fs.isDirectory p) : fs.makeDirectory p = .error .alreadyExists := by
  obtain ⟨l, hlocate, -⟩ := isDirectory_iff.mp h
  obtain ⟨hcheck, hwalk⟩ := locate_eq_ok.mp hlocate
  cases hname : (target p).name with
  | none =>
    have hwalk : fs.walk (fs.start p) ([] ++ p.parts) = .ok l := hwalk
    obtain ⟨parent, hfront, hdir⟩ := directory_of_walk_append p.parts_ne_nil hwalk
    rw [← target_of_name_none hname] at hfront
    exact makeDirectory_of_place_directory (place_eq_directory hcheck hfront hdir (by simp [hname]))
  | some name =>
    obtain ⟨slashes, hparts, -, -, hempty⟩ := parts_eq_target hname
    rw [hparts] at hwalk
    obtain ⟨parent, hfront, hlast⟩ := walk_append_eq_ok.mp hwalk
    obtain ⟨next, henter, -⟩ := walk_cons_eq_ok.mp hlast
    have hdir := directory_of_enter henter
    by_cases hdots : name = "." ∨ name = ".."
    · exact makeDirectory_of_place_directory (place_eq_directory hcheck hfront hdir (by simpa [hname] using hdots))
    · obtain ⟨hdot, hdotdot⟩ := not_or.mp hdots
      have hplace : fs.place p = .ok (.named parent name) :=
        place_eq_named.mpr ⟨hcheck, hfront, hdir, hname, hdot, hdotdot⟩
      have hdown : ¬ isDotName name := by simp [isDotName, hempty, hdot, hdotdot]
      obtain ⟨-, hlength, hthere, -⟩ := (enter_down hdown).mp henter
      have hthere : (fs.at? (parent ++ [name])).isSome := by simpa [node?_eq] using hthere
      simp only [makeDirectory, hplace, bind, Except.bind]
      rw [if_neg (Nat.not_lt.mpr hlength), if_pos hthere]
      rfl

theorem haveDirectory_of_isDirectory (h : fs.isDirectory p) : fs.haveDirectory p = (.ok (), fs) := by
  simp [haveDirectory, makeDirectory_of_isDirectory h, h]

theorem isDirectory_of_haveDirectory (h : fs.haveDirectory p = (.ok (), more)) : more.isDirectory p := by
  unfold haveDirectory at h
  split at h
  · rename_i made hmake
    cases h
    obtain ⟨l, -, hputs, hlocate⟩ := makeDirectory_eq_ok hmake
    exact isDirectory_iff.mpr ⟨l, hlocate, hputs.here⟩
  · split at h
    · rename_i hthere
      cases h
      exact hthere.2
    · cases h

/-- What could not be made leaves nothing behind. -/
theorem eq_of_haveDirectory_error {fault : Fault} (h : fs.haveDirectory p = (.error fault, more)) : more = fs := by
  unfold haveDirectory at h
  split at h
  · cases h
  · exact (Prod.ext_iff.mp h).2.symm

/-- Where a directory was made or found, its parent was a directory before. -/
theorem isDirectory_parent?_of_haveDirectory (hparent : p.parent? = some q) (h : fs.haveDirectory p = (.ok (), more)) :
    q.parent? = none ∨ fs.isDirectory q := by
  unfold haveDirectory at h
  split at h
  · rename_i made hmake
    obtain ⟨place, hplace, -⟩ := bind_eq_ok.mp hmake
    cases place with
    | directory =>
      rw [makeDirectory_of_place_directory hplace] at hmake
      cases hmake
    | named parent name => exact isDirectory_parent?_of_place hparent hplace
  · split at h
    · rename_i hthere
      obtain ⟨l, hlocate, -⟩ := isDirectory_iff.mp hthere.2
      refine (isDirectory_parent?_of_locate hparent hlocate).imp_left ?_
      rintro rfl
      rfl
    · cases h

/-! ## Making directories -/

/-- Directories that are there are left alone. -/
theorem run_createDirectories_of_isDirectory (h : p.parent? = none ∨ fs.isDirectory p) :
    (createDirectories p : StateM FileSystem _).run fs = (.ok (), fs) := by
  cases hparent : p.parent? with
  | none =>
    rw [createDirectories_root hparent]
    rfl
  | some q =>
    have hdir : fs.isDirectory p := h.resolve_left (by simp [hparent])
    have hmake : fs.makeDirectory p ≠ .error .notFound := by simp [makeDirectory_of_isDirectory hdir]
    rw [run_createDirectories hparent hmake, haveDirectory_of_isDirectory hdir]

/-- If it ends well there is a directory, unless the path is the root or empty. -/
theorem isDirectory_of_run_createDirectories
    (h : (createDirectories p : StateM FileSystem _).run fs = (.ok (), more)) :
    p.parent? = none ∨ more.isDirectory p := by
  cases hparent : p.parent? with
  | none => exact .inl rfl
  | some q =>
    right
    by_cases hmake : fs.makeDirectory p = .error .notFound
    · rw [run_createDirectories_notFound hparent hmake] at h
      split at h
      · cases h
      · exact isDirectory_of_haveDirectory h
    · rw [run_createDirectories hparent hmake] at h
      exact isDirectory_of_haveDirectory h

/-- What was made once is left alone the second time. -/
theorem run_createDirectories_ok_again (h : (createDirectories p : StateM FileSystem _).run fs = (.ok (), more)) :
    (createDirectories p : StateM FileSystem _).run more = (.ok (), more) :=
  run_createDirectories_of_isDirectory (isDirectory_of_run_createDirectories h)

/-- A failure is met again where it was met first, and a second attempt leaves nothing more behind. -/
theorem run_createDirectories_error_again {p : Path} {fs more : FileSystem} {fault : Fault}
    (h : (createDirectories p : StateM FileSystem _).run fs = (.error fault, more)) :
    ∃ again, (createDirectories p : StateM FileSystem _).run more = (.error again, more) := by
  cases hparent : p.parent? with
  | none =>
    rw [createDirectories_root hparent] at h
    cases h
  | some q =>
    by_cases hmake : fs.makeDirectory p = .error .notFound
    · rw [run_createDirectories_notFound hparent hmake] at h
      cases hfront : (createDirectories q : StateM FileSystem _).run fs with
      | mk result mid =>
        rw [hfront] at h
        cases result with
        | error cause =>
          cases h
          obtain ⟨again, hagain⟩ := run_createDirectories_error_again hfront
          by_cases hmake' : more.makeDirectory p = .error .notFound
          · exact ⟨again, by rw [run_createDirectories_notFound hparent hmake', hagain]⟩
          -- without a parent there is still no place for the directory
          rw [run_createDirectories hparent hmake']
          cases hhave : more.haveDirectory p with
          | mk result last =>
            cases result with
            | error cause' => exact ⟨cause', by rw [eq_of_haveDirectory_error hhave]⟩
            | ok u =>
              have hfound := isDirectory_parent?_of_haveDirectory hparent hhave
              rw [run_createDirectories_of_isDirectory hfound] at hagain
              cases hagain
        | ok u =>
          have h : mid.haveDirectory p = (.error fault, more) := h
          obtain rfl := eq_of_haveDirectory_error h
          refine ⟨fault, ?_⟩
          by_cases hmake' : more.makeDirectory p = .error .notFound
          · rw [run_createDirectories_notFound hparent hmake', run_createDirectories_ok_again hfront]
            exact h
          · rw [run_createDirectories hparent hmake', h]
    · have hhave := h
      rw [run_createDirectories hparent hmake] at hhave
      obtain rfl := eq_of_haveDirectory_error hhave
      exact ⟨fault, h⟩
termination_by p.text.toList.length
decreasing_by exact Path.length_parent?_lt hparent

end FileSystem

end ValueObjects
