import ValueObjects.Code.Builder
import ValueObjects.Code.Outline
import ValueObjects.Code.Script
import ValueObjects.CommandLine.Arguments
import ValueObjects.CommandLine.Command
import ValueObjects.CommandLine.Run
import ValueObjects.CommandLine.Texts
import ValueObjects.Descriptor
import ValueObjects.Files.Access
import ValueObjects.Files.Changes
import ValueObjects.Files.Generated
import ValueObjects.Files.System
import ValueObjects.Files.Tree
import ValueObjects.Identifier
import ValueObjects.Main
import ValueObjects.Manifest.Basic
import ValueObjects.Manifest.Diagnostic
import ValueObjects.Manifest.Load
import ValueObjects.Manifest.Places
import ValueObjects.Manifest.Shape
import ValueObjects.Manifest.ShapeProblem
import ValueObjects.Manifest.Validation
import ValueObjects.Members
import ValueObjects.Number.Binary64
import ValueObjects.Number.Shortest
import ValueObjects.Path
import ValueObjects.Proofs.Code.Events
import ValueObjects.Proofs.Code.Indentation
import ValueObjects.Proofs.Code.Layout
import ValueObjects.Proofs.Code.Lines
import ValueObjects.Proofs.Code.Machine
import ValueObjects.Proofs.CommandLine.Options
import ValueObjects.Proofs.Files.Directories
import ValueObjects.Proofs.Files.Nodes
import ValueObjects.Proofs.Files.Operations
import ValueObjects.Proofs.Files.Outcomes
import ValueObjects.Proofs.Files.Resolution
import ValueObjects.Proofs.Files.Walking
import ValueObjects.Proofs.Files.Writing
import ValueObjects.Proofs.Generate.Confinement
import ValueObjects.Proofs.Generate.DryRun
import ValueObjects.Proofs.Generate.Failures
import ValueObjects.Proofs.Generate.Incremental
import ValueObjects.Proofs.Generate.OutputDirectory
import ValueObjects.Proofs.Generate.Progress
import ValueObjects.Proofs.Generate.Reports
import ValueObjects.Proofs.Generate.Run
import ValueObjects.Proofs.Generate.Step
import ValueObjects.Proofs.Generate.Summaries
import ValueObjects.Proofs.Generate.UpToDate
import ValueObjects.Proofs.Manifest.Accepted
import ValueObjects.Proofs.Manifest.BracketCounter
import ValueObjects.Proofs.Manifest.Decoding
import ValueObjects.Proofs.Manifest.FirstViolation
import ValueObjects.Proofs.Manifest.Identifiers
import ValueObjects.Proofs.Manifest.Namespaces
import ValueObjects.Proofs.Manifest.Places
import ValueObjects.Proofs.Manifest.Positions
import ValueObjects.Proofs.Manifest.RoundTrip
import ValueObjects.Proofs.Manifest.ShapeWalk
import ValueObjects.Proofs.Manifest.SourceFiles
import ValueObjects.Proofs.Manifest.Sources
import ValueObjects.Proofs.Manifest.TypeExpressions
import ValueObjects.Proofs.Manifest.Wrapping
import ValueObjects.Proofs.Manifest.Written
import ValueObjects.Proofs.PathComponents
import ValueObjects.Proofs.Paths
import ValueObjects.Proofs.Rendering.CodeLines
import ValueObjects.Proofs.Rendering.Declarations
import ValueObjects.Proofs.Rendering.Embedding
import ValueObjects.Proofs.Rendering.Fragments
import ValueObjects.Proofs.Rendering.GuidSpellings
import ValueObjects.Proofs.Rendering.Injectivity
import ValueObjects.Proofs.Rendering.Layout
import ValueObjects.Proofs.Rendering.Overloads
import ValueObjects.Proofs.Rendering.Pieces
import ValueObjects.Proofs.Rendering.Skeleton
import ValueObjects.Proofs.Rendering.Traces
import ValueObjects.Proofs.Results
import ValueObjects.Proofs.Text.Balance
import ValueObjects.Proofs.Text.Occurrence
import ValueObjects.Proofs.Text.Search
import ValueObjects.Proofs.Text.Split
import ValueObjects.Proofs.Toml.DistinctKeys
import ValueObjects.Proofs.Toml.KeyOrder
import ValueObjects.Proofs.Toml.Lines
import ValueObjects.Proofs.Toml.Reading
import ValueObjects.Proofs.Toml.Sections
import ValueObjects.Proofs.Toml.Spelling
import ValueObjects.Report.Check
import ValueObjects.Report.Generate
import ValueObjects.Report.Line
import ValueObjects.SourceFile
import ValueObjects.Span
import ValueObjects.Text.Blank
import ValueObjects.Text.Digits
import ValueObjects.Text.Quoted
import ValueObjects.Text.Search
import ValueObjects.Text.Split
import ValueObjects.Text.Unprintable
import ValueObjects.Toml.DateTime
import ValueObjects.Toml.Document
import ValueObjects.Toml.Quotation
import ValueObjects.Toml.Scalar
import ValueObjects.Toml.Statement
import ValueObjects.Toml.Table
import ValueObjects.Toml.Token
import ValueObjects.Toml.Value
import ValueObjects.TypeExpression
