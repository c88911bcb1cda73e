/-!
# Trees of files

Directories with named files and directories in them. A location is the sequence of names that leads to an entry;
what is at a location after a change there is what was put there, and what is at any other location stays.
-/

namespace ValueObjects

/-- What a directory holds, one entry after another. Of two entries with one name the first one counts. -/
inductive Tree
  | empty
  | file (name : String) (content : ByteArray) (rest : Tree)
  | directory (name : String) (body rest : Tree)

instance : Inhabited Tree := ⟨.empty⟩

/-- What a name stands for. -/
inductive Entry
  | file (content : ByteArray)
  | directory (body : Tree)

/-- The names that lead from the root to an entry. -/
abbrev Location := List String

namespace Tree

/-! ## One directory -/

/-- Look up a name. -/
def find? (name : String) : Tree → Option Entry
  | empty => none
  | file n content rest => if n = name then some (.file content) else rest.find? name
  | directory n body rest => if n = name then some (.directory body) else rest.find? name

/-- Put an entry in front of others. -/
def cons (name : String) : Entry → Tree → Tree
  | .file content, t => file name content t
  | .directory body, t => directory name body t

/-- Give a name a new entry, in the place of the old one or behind all others. -/
def set (name : String) (e : Entry) : Tree → Tree
  | empty => cons name e empty
  | file n content rest => if n = name then cons name e rest else file n content (rest.set name e)
  | directory n body rest => if n = name then cons name e rest else directory n body (rest.set name e)

/-- Forget a name. -/
def erase (name : String) : Tree → Tree
  | empty => empty
  | file n content rest => if n = name then rest.erase name else file n content (rest.erase name)
  | directory n body rest => if n = name then rest.erase name else directory n body (rest.erase name)

@[simp] theorem find?_cons_self (name : String) (e : Entry) (t : Tree) : (cons name e t).find? name = some e := by
  cases e <;> simp [cons, find?]

theorem find?_cons_of_ne {name other : String} (h : other ≠ name) (e : Entry) (t : Tree) :
    (cons name e t).find? other = t.find? other := by
  cases e <;> simp [cons, find?, h.symm]

@[simp] theorem find?_set_self (name : String) (e : Entry) (t : Tree) : (t.set name e).find? name = some e := by
  induction t with
  | empty => simp [set]
  | file n content rest ih => by_cases h : n = name <;> simp [set, find?, h, ih]
  | directory n body rest _ ih => by_cases h : n = name <;> simp [set, find?, h, ih]

theorem find?_set_of_ne {name other : String} (h : other ≠ name) (e : Entry) (t : Tree) :
    (t.set name e).find? other = t.find? other := by
  induction t with
  | empty => simp [set, find?_cons_of_ne h]
  | file n content rest ih =>
    by_cases hn : n = name
    · subst hn; simp [set, find?_cons_of_ne h, find?, h.symm]
    · simp [set, find?, hn, ih]
  | directory n body rest _ ih =>
    by_cases hn : n = name
    · subst hn; simp [set, find?_cons_of_ne h, find?, h.symm]
    · simp [set, find?, hn, ih]

/-! ## Locations -/

/-- Look up a location. -/
def at? : Location → Tree → Option Entry
  | [], t => some (.directory t)
  | name :: names, t =>
    match t.find? name with
    | some (.directory body) => body.at? names
    | some (.file content) => if names = [] then some (.file content) else none
    | none => none

/-- Give a location a new entry, with directories in front of it where there is nothing. A file in front of it stays in
the way. -/
def put : Location → Entry → Tree → Tree
  | [], _, t => t
  | [name], e, t => t.set name e
  | name :: names, e, t =>
    match t.find? name with
    | some (.directory body) => t.set name (.directory (body.put names e))
    | some (.file _) => t
    | none => t.set name (.directory (empty.put names e))

/-- Forget a location. -/
def remove : Location → Tree → Tree
  | [], t => t
  | [name], t => t.erase name
  | name :: names, t =>
    match t.find? name with
    | some (.directory body) => t.set name (.directory (body.remove names))
    | _ => t

@[simp] theorem at?_nil (t : Tree) : t.at? [] = some (.directory t) := rfl

/-! ## Listing -/

/-- All entries with their locations, each directory in front of what it holds. Directories are listed without what
they hold. -/
def listing (before : Location) : Tree → List (Location × Option ByteArray)
  | empty => []
  | file name content rest => (before ++ [name], some content) :: rest.listing before
  | directory name body rest =>
    (before ++ [name], none) :: body.listing (before ++ [name]) ++ rest.listing before

end Tree

end ValueObjects
