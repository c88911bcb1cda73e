import ValueObjects.Proofs.Files.Nodes
import ValueObjects.Proofs.Results

/-!
# Walking

Where a path leads. A walk only looks at directories and at what is there, so it leads to the same location in every
file system that holds more. A path whose names have no `..` in them leads to its own names, one below the other.
-/

namespace ValueObjects

namespace FileSystem

/-- What can be seen at a location. -/
def node? (fs : FileSystem) (l : Location) : Option Node := fs.root.node? l

@[simp] theorem node?_nil (fs : FileSystem) : fs.node? [] = some .directory := rfl

theorem node?_eq (fs : FileSystem) (l : Location) : fs.node? l = (fs.at? l).map Entry.node := rfl

/-- Only a directory has something below it. -/
theorem node?_of_below {fs : FileSystem} {front back : Location} (hback : back ≠ [])
    (h : (fs.node? (front ++ back)).isSome) : fs.node? front = some .directory :=
  Tree.node?_of_below hback h

/-! ## Single steps -/

theorem requireDirectory_eq_ok {fs : FileSystem} {l : Location} :
    fs.requireDirectory l = .ok () ↔ fs.node? l = some .directory := by
  unfold requireDirectory
  rw [node?_eq]
  cases fs.at? l with
  | none => simp
  | some e => cases e <;> simp [Entry.node]

/-- Decide whether a name leads to another place than below the directory it is looked up in. -/
def isDotName (name : String) : Prop := name = "" ∨ name = "." ∨ name = ".."

instance (name : String) : Decidable (isDotName name) := inferInstanceAs (Decidable (_ ∨ _ ∨ _))

/-- An empty name and `.` stay in the directory. -/
theorem enter_stay {fs : FileSystem} {here l : Location} {name : String} (hname : name = "" ∨ name = ".") :
    fs.enter here name = .ok l ↔ fs.node? here = some .directory ∧ l = here := by
  simp only [enter, hname, if_true, bind_eq_ok, exists_done, requireDirectory_eq_ok, pure_eq_ok]
  simp [eq_comm]

/-- Two dots go to the directory in front. -/
theorem enter_up {fs : FileSystem} {here l : Location} :
    fs.enter here ".." = .ok l ↔ fs.node? here = some .directory ∧ l = here.dropLast := by
  have hdots : ¬ (".." = "" ∨ ".." = ".") := by decide
  rw [enter, if_neg hdots, if_pos rfl]
  simp only [bind_eq_ok, exists_done, requireDirectory_eq_ok, pure_eq_ok]
  simp [eq_comm]

/-- Any other name goes to the entry of that name. -/
theorem enter_down {fs : FileSystem} {here l : Location} {name : String} (hname : ¬ isDotName name) :
    fs.enter here name = .ok l ↔
      fs.node? here = some .directory ∧ name.utf8ByteSize ≤ maxNameBytes
        ∧ (fs.node? (here ++ [name])).isSome ∧ l = here ++ [name] := by
  simp only [isDotName, not_or] at hname
  simp only [enter, hname, or_self, if_false, bind_eq_ok, exists_done, requireDirectory_eq_ok]
  refine and_congr_right fun _ => ?_
  by_cases hlong : maxNameBytes < name.utf8ByteSize
  · simp [hlong, Nat.not_le.mpr hlong]
  · rw [if_neg hlong, node?_eq]
    cases fs.at? (here ++ [name]) with
    | none => simp
    | some e => simp [Nat.not_lt.mp hlong, pure_eq_ok, eq_comm (a := l)]

/-- A step starts in a directory. -/
theorem directory_of_enter {fs : FileSystem} {here l : Location} {name : String} (h : fs.enter here name = .ok l) :
    fs.node? here = some .directory := by
  obtain ⟨_, hd, -⟩ := bind_eq_ok.mp h
  exact requireDirectory_eq_ok.mp hd

/-! ## More than another file system -/

/-- One file system has all that is in another, and each directory is still a directory. -/
structure Extends (fs more : FileSystem) : Prop where
  workingDirectory : more.workingDirectory = fs.workingDirectory
  directory : ∀ l, fs.node? l = some .directory → more.node? l = some .directory
  isThere : ∀ l, (fs.node? l).isSome → (more.node? l).isSome

theorem Extends.refl (fs : FileSystem) : fs.Extends fs := ⟨rfl, fun _ h => h, fun _ h => h⟩

theorem Extends.trans {fs gs hs : FileSystem} (h : fs.Extends gs) (h' : gs.Extends hs) : fs.Extends hs where
  workingDirectory := h'.workingDirectory.trans h.workingDirectory
  directory l hl := by
    apply h'.directory
    exact h.directory l hl
  isThere l hl := by
    apply h'.isThere
    exact h.isThere l hl

theorem Extends.enter {fs more : FileSystem} (hext : fs.Extends more) {here l : Location} {name : String}
    (h : fs.enter here name = .ok l) : more.enter here name = .ok l := by
  -- each kind of step asks for no more than directories and for what is there
  by_cases hstay : name = "" ∨ name = "."
  · obtain ⟨hd, rfl⟩ := (enter_stay hstay).mp h
    exact (enter_stay hstay).mpr ⟨hext.directory _ hd, rfl⟩
  · by_cases hup : name = ".."
    · subst hup
      obtain ⟨hd, rfl⟩ := enter_up.mp h
      exact enter_up.mpr ⟨hext.directory _ hd, rfl⟩
    · have hname : ¬ isDotName name := by
        rintro (h | h | h)
        · exact hstay (.inl h)
        · exact hstay (.inr h)
        · exact hup h
      obtain ⟨hd, hlen, hthere, rfl⟩ := (enter_down hname).mp h
      exact (enter_down hname).mpr ⟨hext.directory _ hd, hlen, hext.isThere _ hthere, rfl⟩

/-! ## Walks -/

@[simp] theorem walk_nil (fs : FileSystem) (here : Location) : fs.walk here [] = .ok here := rfl

theorem walk_cons_eq_ok {fs : FileSystem} {here l : Location} {name : String} {names : List String} :
    fs.walk here (name :: names) = .ok l ↔ ∃ next, fs.enter here name = .ok next ∧ fs.walk next names = .ok l := by
  simp only [walk, List.foldlM_cons, bind_eq_ok]

theorem walk_append_eq_ok {fs : FileSystem} {here l : Location} {front back : List String} :
    fs.walk here (front ++ back) = .ok l ↔ ∃ mid, fs.walk here front = .ok mid ∧ fs.walk mid back = .ok l := by
  simp only [walk, List.foldlM_append, bind_eq_ok]

theorem Extends.walk {fs more : FileSystem} (hext : fs.Extends more) {here l : Location} {names : List String}
    (h : fs.walk here names = .ok l) : more.walk here names = .ok l := by
  induction names generalizing here with
  | nil => exact h
  | cons name names ih =>
    obtain ⟨next, henter, hwalk⟩ := walk_cons_eq_ok.mp h
    exact walk_cons_eq_ok.mpr ⟨next, hext.enter henter, ih hwalk⟩

/-- Empty names behind a directory lead nowhere else. -/
theorem walk_empty_names {fs : FileSystem} {l : Location} (h : fs.node? l = some .directory) {names : List String}
    (hnames : ∀ name ∈ names, name = "") : fs.walk l names = .ok l := by
  induction names with
  | nil => rfl
  | cons name names ih =>
    have hstay : name = "" ∨ name = "." := .inl (hnames name (by simp))
    exact walk_cons_eq_ok.mpr ⟨l, (enter_stay hstay).mpr ⟨h, rfl⟩, ih fun n hn => hnames n (by simp [hn])⟩

/-- Without `..` a walk only goes down. -/
theorem isPrefix_of_walk {fs : FileSystem} {here l : Location} {names : List String} (hdots : ".." ∉ names)
    (h : fs.walk here names = .ok l) : here <+: l := by
  induction names generalizing here with
  | nil =>
    cases h
    exact List.prefix_rfl
  | cons name names ih =>
    simp only [List.mem_cons, not_or] at hdots
    obtain ⟨next, henter, hwalk⟩ := walk_cons_eq_ok.mp h
    have hnext : here <+: next := by
      by_cases hname : isDotName name
      · obtain ⟨-, rfl⟩ := (enter_stay (hname.imp_right fun h => h.resolve_right (Ne.symm hdots.1))).mp henter
        exact List.prefix_rfl
      · obtain ⟨-, -, -, rfl⟩ := (enter_down hname).mp henter
        exact List.prefix_append _ _
    exact hnext.trans (ih hdots.2 hwalk)

theorem isThere_of_isPrefix {fs : FileSystem} {here l : Location} (hfront : here <+: l) (h : (fs.node? l).isSome) :
    (fs.node? here).isSome := by
  obtain ⟨back, rfl⟩ := hfront
  by_cases hback : back = []
  · simpa [hback] using h
  · simp [node?_of_below hback h]

/-- A walk down to something that was there before was possible before, if no file became a directory. -/
theorem walk_of_isThere {fs more : FileSystem} {here l : Location} {names : List String}
    (hmore : ∀ l, more.node? l = some .directory → (fs.node? l).isSome → fs.node? l = some .directory)
    (hdots : ".." ∉ names) (h : more.walk here names = .ok l) (hthere : (fs.node? l).isSome) :
    fs.walk here names = .ok l := by
  induction names generalizing here with
  | nil => exact h
  | cons name names ih =>
    -- all places on the way are in front of the last one, so they were there, too
    have hhere : (fs.node? here).isSome := isThere_of_isPrefix (isPrefix_of_walk hdots h) hthere
    simp only [List.mem_cons, not_or] at hdots
    obtain ⟨next, henter, hwalk⟩ := walk_cons_eq_ok.mp h
    have hnext : (fs.node? next).isSome := isThere_of_isPrefix (isPrefix_of_walk hdots.2 hwalk) hthere
    have hdir := hmore here (directory_of_enter henter) hhere
    refine walk_cons_eq_ok.mpr ⟨next, ?_, ih hdots.2 hwalk⟩
    by_cases hname : isDotName name
    · have hstay : name = "" ∨ name = "." := hname.imp_right fun h => h.resolve_right (Ne.symm hdots.1)
      obtain ⟨-, rfl⟩ := (enter_stay hstay).mp henter
      exact (enter_stay hstay).mpr ⟨hdir, rfl⟩
    · obtain ⟨-, hlen, -, rfl⟩ := (enter_down hname).mp henter
      exact (enter_down hname).mpr ⟨hdir, hlen, hnext, rfl⟩

/-! ## Paths -/

theorem locate_eq_ok {fs : FileSystem} {p : Path} {l : Location} :
    fs.locate p = .ok l ↔ checkPath p = .ok () ∧ fs.walk (fs.start p) p.parts = .ok l := by
  simp only [locate, bind_eq_ok, exists_done]

theorem Extends.start {fs more : FileSystem} (hext : fs.Extends more) (p : Path) : more.start p = fs.start p := by
  simp [FileSystem.start, hext.workingDirectory]

theorem Extends.locate {fs more : FileSystem} (hext : fs.Extends more) {p : Path} {l : Location}
    (h : fs.locate p = .ok l) : more.locate p = .ok l := by
  obtain ⟨hcheck, hwalk⟩ := locate_eq_ok.mp h
  exact locate_eq_ok.mpr ⟨hcheck, by rw [hext.start]; exact hext.walk hwalk⟩

end FileSystem

end ValueObjects
