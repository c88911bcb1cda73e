import ValueObjects.Files.Generated
import ValueObjects.Manifest.Load
import ValueObjects.Report.Line

/-!
# Generating files

The files of a manifest are brought up to date in the order of their declaration, and a report says what was done with
each. The first file that cannot be written ends the run; files in front of it stay. A preview shows the files and
touches nothing.
-/

namespace ValueObjects

/-! ## Reports -/

/-- The files of a run, by what was done with them. -/
structure WrittenFiles where
  output : Path
  written : List String
  unchanged : List String
  skipped : List String
deriving DecidableEq, Repr

/-- A file that would be written. -/
structure PreviewFile where
  name : String
  content : String
deriving DecidableEq, Repr

/-- What came out of a run. -/
inductive GenerateResult
  | written (files : WrittenFiles)
  | preview (files : List PreviewFile)
deriving DecidableEq, Repr

/-- A report about a run. -/
structure GenerateReport where
  count : Nat
  namespaceName : Option String
  result : GenerateResult
deriving DecidableEq, Repr

/-- Write the part about a preview. -/
def PreviewFile.lines (files : List PreviewFile) : List ReportLine :=
  (files.flatMap fun f => [.divider f.name, .preformatted f.content])
    ++ [.divider "Summary",
        .preformatted (toString files.length ++ " file" ++ ReportLine.plural files.length ++ " would be generated")]

/-- Write a report. Files that were left alone are unchanged, whatever the reason. -/
def GenerateReport.lines (r : GenerateReport) : List ReportLine :=
  match r.result with
  | .preview files => PreviewFile.lines files
  | .written files =>
    [.heading ("Value objects (" ++ toString r.count ++ ")")]
      ++ files.written.map .added
      ++ (files.unchanged ++ files.skipped).map (fun name => .item (name ++ " (unchanged)"))
      ++ [.blank]
      ++ ReportLine.namespaceLines r.namespaceName
      ++ [.keyValue "Generated" files.output.text]

/-! ## Runs -/

/-- Why a run ended early: the file, and what went wrong with it. -/
structure GenerateFailure where
  fileName : String
  failure : WriteFailure
deriving DecidableEq, Repr

/-- What went wrong, from the general to the particular. -/
def GenerateFailure.messages (f : GenerateFailure) : List String :=
  ["Failed to write " ++ f.fileName, f.failure.message]

namespace SourceFile

/-- The path of a source file in a directory. -/
def path (f : SourceFile) (base : Path) : Path := base.join ⟨f.fileName⟩

/-- Generated source files are always overwritten. -/
def rule : OverwriteRule := .always

/-- The source file as a file to be written. -/
def generated (f : SourceFile) (base : Path) : GeneratedFile := ⟨f.path base, rule, f.render⟩

end SourceFile

namespace WrittenFiles

/-- A run that nothing was done in. -/
def none (output : Path) : WrittenFiles := ⟨output, [], [], []⟩

/-- Note what was done with a file. -/
def record (w : WrittenFiles) (name : String) : WriteOutcome → WrittenFiles
  | .written => { w with written := w.written ++ [name] }
  | .unchanged => { w with unchanged := w.unchanged ++ [name] }
  | .skipped => { w with skipped := w.skipped ++ [name] }

end WrittenFiles

namespace Manifest

variable {m : Type → Type} [Monad m] [FileAccess m]

/-- The files of a manifest without touching anything. -/
def preview (manifest : Manifest) : List PreviewFile :=
  manifest.sourceFiles.map fun f => ⟨f.fileName, f.render⟩

/-- Write source files one after another until one cannot be written. -/
def writeFiles (base : Path) : List SourceFile → WrittenFiles → m (Except GenerateFailure WrittenFiles)
  | [], w => pure (.ok w)
  | f :: rest, w => do
    match ← (f.generated base).write with
    | .error failure => return .error ⟨f.fileName, failure⟩
    | .ok outcome => writeFiles base rest (w.record f.fileName outcome)

/-- Generate the files of a manifest in a directory, or preview them. -/
def generate (manifest : Manifest) (output : Path) (dryRun : Bool) : m (Except GenerateFailure GenerateReport) := do
  let report (result : GenerateResult) : GenerateReport :=
    ⟨manifest.sourceFiles.length, manifest.generator.namespaceName, result⟩
  if dryRun then return .ok (report (.preview manifest.preview))
  else return (← writeFiles output manifest.sourceFiles (.none output)).map fun files => report (.written files)

end Manifest

end ValueObjects
