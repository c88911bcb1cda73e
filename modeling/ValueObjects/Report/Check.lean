import ValueObjects.Manifest.Load
import ValueObjects.Report.Line

/-!
# Checking a manifest

A summary of what a manifest declares.
-/

namespace ValueObjects

/-- What a summary says about a value object. -/
structure ValueObjectSummary where
  name : String
  inner : String
  capabilities : List String
deriving DecidableEq, Repr

/-- In one line: the name, the inner type and the capabilities. -/
def ValueObjectSummary.text (s : ValueObjectSummary) : String :=
  s.name ++ " (" ++ s.inner ++ ")"
    ++ if s.capabilities = [] then "" else " [" ++ ", ".intercalate s.capabilities ++ "]"

/-- A summary of a manifest. -/
structure CheckReport where
  config : Path
  namespaceName : Option String
  output : Path
  valueObjects : List ValueObjectSummary
deriving DecidableEq, Repr

/-- Summarise a manifest. -/
def Manifest.check (m : Manifest) (config output : Path) : CheckReport where
  config := config
  namespaceName := m.generator.namespaceName
  output := output
  valueObjects := m.valueObjects.map fun (name, settings) => ⟨name, settings.inner, settings.capabilities⟩

/-- Write the summary. -/
def CheckReport.lines (r : CheckReport) : List ReportLine :=
  [.success (r.config.text ++ " is valid"), .blank]
    ++ ReportLine.namespaceLines r.namespaceName
    ++ [.keyValue "Output" r.output.text, .blank,
        .heading (toString r.valueObjects.length ++ " value object" ++ ReportLine.plural r.valueObjects.length)]
    ++ r.valueObjects.map fun s => .item s.text

end ValueObjects
