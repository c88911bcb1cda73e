/-!
# Lines of a report

What a report says, piece by piece, and how each piece looks on a terminal.
-/

namespace ValueObjects

/-- A piece of a report. -/
inductive ReportLine
  | heading (text : String)
  | keyValue (key value : String)
  | item (text : String)
  /-- Something that is new. -/
  | added (text : String)
  | success (text : String)
  | divider (label : String)
  | preformatted (text : String)
  | blank
deriving DecidableEq, Repr

namespace ReportLine

/-- How a piece looks. -/
def text : ReportLine → String
  | heading t => t ++ ":"
  | keyValue key value => key ++ ": " ++ value
  | item t => "  - " ++ t
  | added t => "  + " ++ t
  | success t => "✓ " ++ t
  | divider label => "── " ++ label ++ " ──"
  | preformatted t => t
  | blank => ""

/-- The pieces one below the other. -/
def display (lines : List ReportLine) : String := String.join (lines.map fun line => line.text ++ "\n")

/-- The line with the namespace, if there is one. -/
def namespaceLines (name : Option String) : List ReportLine := (name.map (keyValue "Namespace")).toList

/-- The ending of a noun that is counted. -/
def plural (count : Nat) : String := if count = 1 then "" else "s"

end ReportLine

end ValueObjects
