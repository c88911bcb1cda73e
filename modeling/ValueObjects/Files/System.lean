import ValueObjects.Files.Access
import ValueObjects.Files.Tree

/-!
# File systems

A tree of files together with a working directory, and the five ways of access as functions on it. A path is walked
name by name. Every name in front of the last must be that of a directory, and a slash at the end asks for a directory
too.
-/

namespace ValueObjects

/-- A tree of files and the directory that relative paths start from. -/
structure FileSystem where
  root : Tree
  workingDirectory : Location

namespace FileSystem

/-- Look up a location. -/
def at? (fs : FileSystem) (l : Location) : Option Entry := fs.root.at? l

/-- Give a location a new entry. -/
def put (fs : FileSystem) (l : Location) (e : Entry) : FileSystem := { fs with root := fs.root.put l e }

/-! ## Walking -/

/-- The longest name that an entry can have, in bytes. -/
def maxNameBytes : Nat := 255

/-- The longest path, in bytes. -/
def maxPathBytes : Nat := 4095

/-- Refuse a path that no file can have. -/
def checkPath (p : Path) : Except Fault Unit :=
  if p.text.toList.contains '\x00' then .error .impossiblePath
  else if p.text.toList = [] then .error .notFound
  else if maxPathBytes < p.text.utf8ByteSize then .error .nameTooLong
  else .ok ()

/-- Refuse a location that is not that of a directory. -/
def requireDirectory (fs : FileSystem) (l : Location) : Except Fault Unit :=
  match fs.at? l with
  | some (.directory _) => .ok ()
  | some (.file _) => .error .notADirectory
  | none => .error .notFound

/-- Go from a directory to the entry of a name. -/
def enter (fs : FileSystem) (here : Location) (name : String) : Except Fault Location := do
  -- even a step that stays asks for a directory
  fs.requireDirectory here
  if name = "" ∨ name = "." then return here
  else if name = ".." then return here.dropLast
  else if maxNameBytes < name.utf8ByteSize then throw .nameTooLong
  else
    match fs.at? (here ++ [name]) with
    | some _ => return here ++ [name]
    | none => throw .notFound

/-- Where the walk along a path starts. -/
def start (fs : FileSystem) (p : Path) : Location := if p.isAbsolute then [] else fs.workingDirectory

/-- Go along names, one after another. -/
def walk (fs : FileSystem) (here : Location) (names : List String) : Except Fault Location :=
  names.foldlM fs.enter here

/-- Find the location of what is at a path. -/
def locate (fs : FileSystem) (p : Path) : Except Fault Location := do
  checkPath p
  fs.walk (fs.start p) p.parts

/-! ## Places for new entries -/

/-- The last name of a path, and the names in front of it. -/
structure Target where
  front : List String
  /-- Missing for the root. -/
  name : Option String
  /-- There is a slash behind the name. -/
  slashed : Bool

/-- Split a path at its last name. -/
def target (p : Path) : Target :=
  let slashes := p.parts.reverse.takeWhile (· == "")
  match p.parts.reverse.dropWhile (· == "") with
  | [] => ⟨[], none, true⟩
  | name :: front => ⟨front.reverse, some name, !slashes.isEmpty⟩

/-- Where a new entry goes. -/
inductive Place
  /-- The path stands for a directory whatever there is. -/
  | directory
  /-- The name in an existing directory. -/
  | named (parent : Location) (name : String)

/-- Find the place for a new entry. -/
def place (fs : FileSystem) (p : Path) : Except Fault Place := do
  checkPath p
  -- only the names in front of the last one have to be there
  let target := target p
  let parent ← fs.walk (fs.start p) target.front
  fs.requireDirectory parent
  match target.name with
  | none => return .directory
  | some name => if name = "." ∨ name = ".." then return .directory else return .named parent name

/-! ## Access -/

/-- Read the bytes of a file. -/
def read (fs : FileSystem) (p : Path) : Except Fault ByteArray := do
  match fs.at? (← fs.locate p) with
  | some (.file content) => return content
  | some (.directory _) => throw .isADirectory
  | none => throw .notFound

/-- Decide whether there is anything at a path. -/
def isThere (fs : FileSystem) (p : Path) : Bool := (fs.locate p).isOk

/-- Decide whether there is a directory at a path. -/
def isDirectory (fs : FileSystem) (p : Path) : Bool :=
  match fs.locate p with
  | .ok l => (fs.requireDirectory l).isOk
  | .error _ => false

/-- Make a directory in one that is there. A slash behind its name does not matter. -/
def makeDirectory (fs : FileSystem) (p : Path) : Except Fault FileSystem := do
  match ← fs.place p with
  | .directory => throw .alreadyExists
  | .named parent name =>
    if maxNameBytes < name.utf8ByteSize then throw .nameTooLong
    else if (fs.at? (parent ++ [name])).isSome then throw .alreadyExists
    else return fs.put (parent ++ [name]) (.directory .empty)

/-- Give a file a new content, or make the file. A slash behind its name asks for a directory, which is refused. -/
def write (fs : FileSystem) (p : Path) (content : ByteArray) : Except Fault FileSystem := do
  match ← fs.place p with
  | .directory => throw .isADirectory
  | .named parent name =>
    if (target p).slashed then throw .isADirectory
    else if maxNameBytes < name.utf8ByteSize then throw .nameTooLong
    else
      match fs.at? (parent ++ [name]) with
      | some (.directory _) => throw .isADirectory
      | _ => return fs.put (parent ++ [name]) (.file content)

/-- Remove a file. -/
def remove (fs : FileSystem) (p : Path) : Except Fault FileSystem := do
  match ← fs.place p with
  | .directory => throw .isADirectory
  | .named parent name =>
    match fs.at? (parent ++ [name]) with
    | some (.file _) =>
      if (target p).slashed then throw .notADirectory
      else return { fs with root := fs.root.remove (parent ++ [name]) }
    | some (.directory _) => throw .isADirectory
    | none => throw .notFound

/-- Try a change; a refusal leaves the file system as it was. -/
def attempt (change : FileSystem → Except Fault FileSystem) : StateM FileSystem (Except Fault Unit) := fun fs =>
  match change fs with
  | .ok changed => (.ok (), changed)
  | .error fault => (.error fault, fs)

instance : FileAccess (StateM FileSystem) where
  read p := fun fs => (fs.read p, fs)
  isThere p := fun fs => (fs.isThere p, fs)
  isDirectory p := fun fs => (fs.isDirectory p, fs)
  makeDirectory p := attempt (·.makeDirectory p)
  write p content := attempt (·.write p content.toUTF8)

end FileSystem

end ValueObjects
