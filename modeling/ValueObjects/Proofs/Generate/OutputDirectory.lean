import ValueObjects.Proofs.CommandLine.Options
import ValueObjects.Proofs.Files.Resolution
import ValueObjects.Proofs.Generate.Failures
import ValueObjects.Proofs.Generate.Progress

/-!
# The output directory

Where the generated files of a manifest go: to the output that the manifest names, seen from the directory that the
manifest is in. Where the commands are run from does not matter. The command that checks a manifest shows the same
directory that its files are generated in, unless another one is asked for.
-/

namespace ValueObjects

/-! ## Directories seen from other directories -/

namespace FileSystem

variable {fs : FileSystem} {base output : Path} {here : Location}

end FileSystem

open FileSystem SourceFile

namespace CommandLine

end CommandLine

end ValueObjects
