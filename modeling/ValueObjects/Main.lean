import ValueObjects.CommandLine.Run

/-!
# The program

Runs a command on the files of the machine.
-/

namespace ValueObjects

/-- The fault that an error of the operating system stands for. -/
def Fault.ofError : IO.Error → Fault
  | .noFileOrDirectory .. => .notFound
  | .alreadyExists .. => .alreadyExists
  | .inappropriateType _ code details =>
    if code = 20 then .notADirectory else if code = 21 then .isADirectory else .other details
  | e => .other (toString e)

/-- Carry out an operation and take an error for a fault. -/
def attempt {α : Type} (operation : IO α) : IO (Except Fault α) := do
  match ← operation.toBaseIO with
  | .ok value => return .ok value
  | .error e => return .error (.ofError e)

instance : FileAccess IO where
  read p := attempt (IO.FS.readBinFile ⟨p.text⟩)
  isThere p := (System.mkFilePath [p.text]).pathExists
  isDirectory p := (System.mkFilePath [p.text]).isDir
  makeDirectory p := attempt (IO.FS.createDir ⟨p.text⟩)
  write p content := attempt (IO.FS.writeFile ⟨p.text⟩ content)

end ValueObjects

/-- Run the program, print what it has to say, and end with its number. -/
def main (arguments : List String) : IO UInt32 := do
  let outcome ← (ValueObjects.CommandLine.run arguments : IO ValueObjects.CommandLine.Outcome)
  IO.print outcome.output
  IO.eprint outcome.errors
  return outcome.exitCode.toUInt32
