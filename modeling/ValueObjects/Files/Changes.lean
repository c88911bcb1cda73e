import ValueObjects.Files.System

/-!
# Changes of a file system

What differs below the working directory between two states of a file system.
-/

namespace ValueObjects

/-- What is at a location now that was not there before. -/
inductive Change
  | file (content : ByteArray)
  | directory
  | vanished

/-- A location relative to the working directory, as a path. Directories end in a slash. -/
def locationText (l : Location) (isDirectory : Bool) : String :=
  "/".intercalate l ++ if isDirectory then "/" else ""

namespace FileSystem

/-- Everything below the working directory, by its path. Directories have no content. -/
def listing (fs : FileSystem) : List (String × Option ByteArray) :=
  match fs.at? fs.workingDirectory with
  | some (.directory body) => (body.listing []).map fun (l, content) => (locationText l content.isNone, content)
  | _ => []

/-- What changed from one state to another: new or changed entries, and vanished ones. -/
def changes (before after : FileSystem) : List (String × Change) :=
  let old := before.listing
  let new := after.listing
  let appeared := new.filterMap fun (path, content) =>
    match old.lookup path, content with
    | some (some bytes), some now => if bytes.data == now.data then none else some (path, .file now)
    | some _, none => none
    | _, some now => some (path, .file now)
    | none, none => some (path, .directory)
  let gone := old.filterMap fun (path, _) => if (new.lookup path).isSome then none else some (path, .vanished)
  appeared ++ gone

/-! ## Setting up -/

/-- An empty working directory. -/
def fresh : FileSystem := ⟨Tree.empty.put ["tmp", "work"] (.directory .empty), ["tmp", "work"]⟩

/-- Make a directory, with the directories in front of it. -/
def addDirectory (p : Path) : StateM FileSystem (Except Fault Unit) := FileAccess.createDirectories p

/-- Give a file a content, after making the directories in front of it. -/
def addFile (p : Path) (content : ByteArray) : StateM FileSystem (Except Fault Unit) := do
  match ← addDirectory (p.parent?.getD ⟨""⟩) with
  | .ok () => attempt (·.write p content)
  | .error fault => return .error fault

/-- Remove a file. -/
def removeFile (p : Path) : StateM FileSystem (Except Fault Unit) := attempt (·.remove p)

end FileSystem

end ValueObjects
