import ValueObjects.Path

/-!
# Access to files

The five things that this library asks of a file system, and what can be made of them: reading text, and creating a
directory together with the directories in front of it. A program is written once for every file system.
-/

namespace ValueObjects

/-! ## Faults -/

/-- Why a file system refuses. -/
inductive Fault
  | notFound
  | notADirectory
  | isADirectory
  | alreadyExists
  /-- The bytes of a file are not a text. -/
  | notText
  | nameTooLong
  /-- No file can have this path. -/
  | impossiblePath
  | other (description : String)
deriving DecidableEq, Repr

/-- Access to the files of some world. A refusal leaves the world as it was. -/
class FileAccess (m : Type → Type) where
  /-- Read the bytes of a file. -/
  read : Path → m (Except Fault ByteArray)
  /-- Ask whether there is anything at a path. -/
  isThere : Path → m Bool
  /-- Ask whether there is a directory at a path. -/
  isDirectory : Path → m Bool
  /-- Make a directory in one that is there. -/
  makeDirectory : Path → m (Except Fault Unit)
  /-- Give a file in an existing directory a new content. -/
  write : Path → String → m (Except Fault Unit)

namespace FileAccess

variable {m : Type → Type} [Monad m] [FileAccess m]

/-! ## Text -/

/-- Take bytes for a text. -/
def decode (bytes : ByteArray) : Except Fault String :=
  match String.fromUTF8? bytes with
  | some text => .ok text
  | none => .error .notText

/-- Read a file as a text. -/
def readText (p : Path) : m (Except Fault String) := do
  return (← read p).bind decode

/-! ## Directories -/

/-- Accept that a directory could not be made if it is there already. -/
def acceptExisting (p : Path) : Except Fault Unit → m (Except Fault Unit)
  | .ok () => pure (.ok ())
  | .error .alreadyExists => do
    return if ← isDirectory p then .ok () else .error .alreadyExists
  | .error fault => pure (.error fault)

/-- Make a directory. If it has nowhere to be, make the one in front of it first. The root and the empty path are
always there. -/
def createDirectories (p : Path) : m (Except Fault Unit) :=
  match _parent : p.parent? with
  | none => pure (.ok ())
  | some parent => do
    match ← makeDirectory p with
    -- only then it helps to make the directory in front
    | .error .notFound =>
      match ← createDirectories parent with
      | .error fault => return .error fault
      | .ok () => acceptExisting p (← makeDirectory p)
    | result => acceptExisting p result
termination_by p.text.toList.length
decreasing_by exact Path.length_parent?_lt ‹_›

end FileAccess

end ValueObjects
