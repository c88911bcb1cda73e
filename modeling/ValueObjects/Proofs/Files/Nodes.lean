import ValueObjects.Files.System

/-!
# Nodes

What can be seen at a location: a file with its content, or a directory. An access to a file system depends on nothing
else, and a change of one location is seen at that location only.
-/

namespace ValueObjects

/-- What can be seen of an entry. -/
inductive Node
  | file (content : ByteArray)
  | directory

instance : DecidableEq Node
  | .file bytes, .file other =>
    match ByteArray.instDecidableEq bytes other with
    | isTrue h => isTrue (congrArg Node.file h)
    | isFalse h => isFalse fun heq => h (Node.file.inj heq)
  | .directory, .directory => isTrue rfl
  | .file _, .directory => isFalse nofun
  | .directory, .file _ => isFalse nofun

/-- What can be seen of an entry, without what a directory holds. -/
def Entry.node : Entry → Node
  | .file content => .file content
  | .directory _ => .directory

/-- Look up a location inside an entry. -/
def Entry.at? : Entry → Location → Option Entry
  | .file content, [] => some (.file content)
  | .file _, _ :: _ => none
  | .directory body, l => body.at? l

@[simp] theorem Entry.at?_nil (e : Entry) : e.at? [] = some e := by
  cases e <;> rfl

namespace Tree

/-! ## Locations -/

theorem at?_cons (name : String) (l : Location) (t : Tree) :
    t.at? (name :: l) = (t.find? name).bind (·.at? l) := by
  simp only [at?]
  cases t.find? name with
  | none => rfl
  | some e =>
    cases e with
    | file content => cases l <;> simp [Entry.at?]
    | directory body => simp [Entry.at?]

theorem at?_append (front back : Location) (t : Tree) :
    t.at? (front ++ back) = (t.at? front).bind (·.at? back) := by
  induction front generalizing t with
  | nil => simp [Entry.at?]
  | cons name front ih =>
    simp only [List.cons_append, at?_cons]
    cases t.find? name with
    | none => rfl
    | some e =>
      cases e with
      | file content => cases front <;> simp [Entry.at?]
      | directory body => simpa [Entry.at?] using ih body

/-- What can be seen at a location. -/
def node? (l : Location) (t : Tree) : Option Node := (t.at? l).map Entry.node

@[simp] theorem node?_nil (t : Tree) : t.node? [] = some .directory := rfl

/-- Only a directory has something below it. -/
theorem node?_of_below {front back : Location} {t : Tree} (hback : back ≠ []) (h : (t.node? (front ++ back)).isSome) :
    t.node? front = some .directory := by
  simp only [node?, at?_append, Option.isSome_map] at h
  cases he : t.at? front with
  | none => simp [he] at h
  | some e =>
    cases e with
    | file content => cases back <;> simp_all [Entry.at?]
    | directory body => simp [node?, he, Entry.node]

/-! ## Changes -/

/-- A new entry is seen at its location, and nothing else is seen to change, if there is nothing below the entry and
was nothing below the old one. -/
theorem node?_put {parent : Location} {name : String} {e : Entry} {t : Tree}
    (hparent : t.node? parent = some .directory)
    (hnew : ∀ n l, e.at? (n :: l) = none) (hold : ∀ n l, t.at? (parent ++ name :: n :: l) = none) (l : Location) :
    (t.put (parent ++ [name]) e).node? l = if l = parent ++ [name] then some e.node else t.node? l := by
  induction parent generalizing t l with
  | nil =>
    cases l with
    | nil => simp [put]
    | cons other l =>
      by_cases h : other = name
      · subst h
        cases l with
        | nil => simp [put, node?, at?_cons]
        | cons n l =>
          have := hold n l
          simp only [List.nil_append] at this
          simp [put, node?, at?_cons other, hnew, ← this]
      · simp [put, node?, at?_cons, find?_set_of_ne h, h]
  | cons first parent ih =>
    -- the first name leads to a directory, and that directory is replaced by its changed copy
    have hfirst : ∃ body, t.find? first = some (.directory body) := by
      cases he : t.find? first with
      | none => simp [node?, at?_cons, he] at hparent
      | some e =>
        cases e with
        | file content => cases parent <;> simp [node?, at?_cons, he, Entry.at?, Entry.node] at hparent
        | directory body => exact ⟨body, rfl⟩
    obtain ⟨body, hbody⟩ := hfirst
    have hput : t.put (first :: parent ++ [name]) e = t.set first (.directory (body.put (parent ++ [name]) e)) := by
      cases parent <;> simp [put, hbody]
    rw [hput]
    cases l with
    | nil => simp
    | cons other l =>
      by_cases h : other = first
      · subst h
        have hbelow := ih (t := body) (by simpa [node?, at?_cons, hbody, Entry.at?] using hparent)
          (fun n l => by simpa [at?_cons other, hbody, Entry.at?] using hold n l) l
        simpa [node?, at?_cons other, hbody, Entry.at?] using hbelow
      · simp [node?, at?_cons other, find?_set_of_ne h, h]

/-- There is nothing below a location without a directory. -/
theorem at?_below_none {l : Location} {t : Tree} (h : t.node? l ≠ some .directory) (name : String) (below : Location) :
    t.at? (l ++ name :: below) = none := by
  have hnone : ¬ (t.node? (l ++ name :: below)).isSome := fun hthere => h (node?_of_below (by simp) hthere)
  simpa [node?] using hnone

end Tree

end ValueObjects
