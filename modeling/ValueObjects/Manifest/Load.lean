import ValueObjects.Files.Access
import ValueObjects.Manifest.Shape
import ValueObjects.Manifest.Validation
import ValueObjects.Toml.Document

/-!
# Reading manifests

From a text or a file to a manifest: the text has to be a document, the document has to have the shape of a manifest,
and the manifest has to pass all checks. What a diagnostic says about a text that is no document is taken from an
account, which sees nothing but the text.
-/

namespace ValueObjects

/-! ## Texts -/

namespace ManifestText

/-- The name of a manifest that does not come from a file. -/
def standardSource : String := "tvo.toml"

/-- Read a manifest without checking it. -/
def decode (t : ManifestText) (explain : String → Toml.SyntaxError := Toml.unexplained) :
    Except Diagnostic Manifest :=
  match Toml.Document.parse? t.text with
  | none => .error ⟨t.source, (explain t.text).span, .malformed (explain t.text).message⟩
  | some entries =>
    match Manifest.ofEntries entries with
    | .error e => .error ⟨t.source, some e.span, .misshapen e.value⟩
    | .ok m => .ok m

/-- Read a manifest and check it. -/
def load (t : ManifestText) (explain : String → Toml.SyntaxError := Toml.unexplained) :
    Except Diagnostic Manifest := do
  let m ← t.decode explain
  t.checkManifest m
  return m

end ManifestText

/-! ## Files -/

/-- Read the manifest in a file, which is named by its path. -/
def Manifest.read {m : Type → Type} [Monad m] [FileAccess m] (path : Path)
    (explain : String → Toml.SyntaxError := Toml.unexplained) : m (Except LoadError Manifest) := do
  return match ← FileAccess.readText path with
  | .error fault => .error (.unreadable path fault)
  | .ok content => (ManifestText.load ⟨path.text, content⟩ explain).mapError .rejected

/-- A manifest together with the file it comes from. -/
structure ManifestFile where
  path : Path
  content : String
  manifest : Manifest
deriving DecidableEq, Repr

namespace ManifestFile

/-- Read the manifest in a text from a file. Its source is named by the path. -/
def ofContent (path : Path) (content : String) (explain : String → Toml.SyntaxError := Toml.unexplained) :
    Except LoadError ManifestFile :=
  match ManifestText.load ⟨path.text, content⟩ explain with
  | .ok m => .ok ⟨path, content, m⟩
  | .error d => .error (.rejected d)

variable {m : Type → Type} [Monad m] [FileAccess m]

/-- Read a file that holds a manifest. -/
def read (path : Path) (explain : String → Toml.SyntaxError := Toml.unexplained) :
    m (Except LoadError ManifestFile) := do
  match ← FileAccess.readText path with
  | .error fault => return .error (.unreadable path fault)
  | .ok content => return ofContent path content explain

/-- Where the generated files go: the output of the manifest, relative to the directory that the manifest is in. -/
def outputDirectory (f : ManifestFile) : Path :=
  match f.path.parent? with
  | some parent => parent.join f.manifest.generator.output
  | none => f.manifest.generator.output

end ManifestFile

end ValueObjects
