import ValueObjects.Proofs.Files.Directories
import ValueObjects.Proofs.PathComponents

/-!
# Resolution

Where a path leads by its names alone: each name goes one directory down, but `..` goes one up, and the empty name and
`.` stay. A walk that gets through ends there. A path relative to another is resolved from where the other leads, and
the parent of a file leads to the directory that the file is in.
-/

namespace ValueObjects

namespace Path

/-! ## Names -/

/-- Where a name leads from a directory. -/
def step (here : Location) (name : String) : Location :=
  if name = "" ∨ name = "." then here else if name = ".." then here.dropLast else here ++ [name]

variable {base p q : Path}

end Path

namespace FileSystem

variable {fs : FileSystem} {here l : Location} {p q : Path}

/-! ## Walks -/

end FileSystem

end ValueObjects
