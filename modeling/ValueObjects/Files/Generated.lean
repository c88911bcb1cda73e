import ValueObjects.Files.Access

/-!
# Generated files

A generated file has a place, a content and a rule for what to do if something is at its place already. Writing it
leaves a file alone that has the content already, and says what was done.
-/

namespace ValueObjects

/-- What to do with a file that is there already. -/
inductive OverwriteRule
  | always
  | ifMissing
deriving DecidableEq, Repr, Inhabited

/-- A file to be written. -/
structure GeneratedFile where
  path : Path
  rule : OverwriteRule
  content : String
deriving DecidableEq, Repr

/-- What was done with a generated file. -/
inductive WriteOutcome
  | written
  /-- It had the content already. -/
  | unchanged
  /-- Something was there that must not be overwritten. -/
  | skipped
deriving DecidableEq, Repr

/-- Which step of writing was refused. -/
inductive WriteStep
  | createDirectory
  | writeFile
deriving DecidableEq, Repr

/-- Why a generated file could not be written. -/
structure WriteFailure where
  step : WriteStep
  path : Path
  fault : Fault
deriving DecidableEq, Repr

/-- What was attempted, in words. -/
def WriteFailure.message (f : WriteFailure) : String :=
  match f.step with
  | .createDirectory => "failed to create '" ++ f.path.text ++ "'"
  | .writeFile => "failed to write '" ++ f.path.text ++ "'"

namespace GeneratedFile

open FileAccess

variable {m : Type → Type} [Monad m] [FileAccess m]

/-- Decide whether a file at a path has the content. A file that cannot be read as a text has not. -/
def isUpToDate (f : GeneratedFile) : m Bool := do
  match ← readText f.path with
  | .ok text => return text == f.content
  | .error _ => return false

/-- Write a file that is out of date, with the directories in front of it. -/
def replace (f : GeneratedFile) : m (Except WriteFailure Unit) := do
  match f.path.parent? with
  | none => writeContent
  | some parent =>
    match ← createDirectories parent with
    | .error fault => return .error ⟨.createDirectory, parent, fault⟩
    | .ok () => writeContent
where
  /-- Write the content to the path. -/
  writeContent : m (Except WriteFailure Unit) := do
    match ← FileAccess.write f.path f.content with
    | .error fault => return .error ⟨.writeFile, f.path, fault⟩
    | .ok () => return .ok ()

/-- Bring a generated file up to date, as far as its rule allows. -/
def write (f : GeneratedFile) : m (Except WriteFailure WriteOutcome) := do
  if (← isThere f.path) && f.rule == .ifMissing then return .ok .skipped
  else if ← f.isUpToDate then return .ok .unchanged
  else return (← f.replace).map fun () => .written

end GeneratedFile

end ValueObjects
