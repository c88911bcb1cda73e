import ValueObjects.CommandLine.Texts
import ValueObjects.Report.Check
import ValueObjects.Report.Generate

/-!
# Running commands

What the program does with its arguments: what it prints, and the number that it ends with. Nothing is printed on the
standard output unless the command succeeds.
-/

namespace ValueObjects.CommandLine

/-! ## Outcomes -/

/-- What is left when the program has ended. -/
structure Outcome where
  exitCode : Nat
  output : String
  errors : String
deriving DecidableEq, Repr

namespace Outcome

/-- The command succeeded and printed something. -/
def success (output : String) : Outcome := ⟨0, output, ""⟩

/-- The command failed. -/
def failure (errors : String) : Outcome := ⟨1, "", errors⟩

/-- The command line was wrong. -/
def misuse (error : UsageError) : Outcome := ⟨2, "", "error: " ++ error.message ++ "\n"⟩

end Outcome

/-! ## Words for failures -/

/-- Say why a file system refuses. -/
def faultText : Fault → String
  | .notFound => "not found"
  | .notADirectory => "not a directory"
  | .isADirectory => "is a directory"
  | .alreadyExists => "already exists"
  | .notText => "not valid UTF-8"
  | .nameTooLong => "name too long"
  | .impossiblePath => "impossible path"
  | .other description => description

/-- Say where in a text something is wrong. -/
def placeText (source : String) : Option Span → String
  | some span => "  at " ++ source ++ ", byte " ++ toString span.offset ++ "\n"
  | none => "  in " ++ source ++ "\n"

/-- Say why there is no manifest. -/
def loadErrorText (e : LoadError) : String :=
  let detail := match e with
    | .unreadable _ fault => "  " ++ faultText fault ++ "\n"
    | .rejected d =>
      placeText d.source d.span ++ match d.cause with
        | .misshapen problem => "  " ++ problem.message ++ "\n"
        | _ => ""
  let help := (e.help.map fun help => "  help: " ++ help ++ "\n").getD ""
  "error: " ++ e.message ++ "\n" ++ detail ++ help

/-- Say why a run ended early. -/
def generateFailureText (f : GenerateFailure) : String :=
  "error: " ++ ": ".intercalate (f.messages ++ [faultText f.failure.fault]) ++ "\n"

/-! ## Commands -/

variable {m : Type → Type} [Monad m] [FileAccess m]

/-- Read a manifest and use it, or say why that cannot be done. -/
def withManifest (config : Path) (use : ManifestFile → m Outcome) : m Outcome := do
  match ← ManifestFile.read config with
  | .error e => return .failure (loadErrorText e)
  | .ok file => use file

/-- Carry out a command. -/
def Command.run : Command → m Outcome
  | .check config => withManifest config fun file =>
    return .success (ReportLine.display (file.manifest.check config file.outputDirectory).lines)
  | .generate config output dryRun => withManifest config fun file => do
    match ← file.manifest.generate (output.getD file.outputDirectory) dryRun with
    | .error failure => return .failure (generateFailureText failure)
    | .ok report => return .success (ReportLine.display report.lines)
  | .completions shell => return .success (completionScript shell)
  | .help scope => return .success (helpText scope)
  | .version => return .success versionText

/-- Run the program with some arguments. -/
def run (arguments : List String) : m Outcome :=
  match Command.ofArguments arguments with
  | .ok command => command.run
  | .error error => return .misuse error

end ValueObjects.CommandLine
