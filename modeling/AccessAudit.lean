import AccessAudit.Assessment
import AccessAudit.Category
import AccessAudit.Category.OfPath
import AccessAudit.Command.Audit
import AccessAudit.Command.Explain
import AccessAudit.Command.Init
import AccessAudit.Command.Manifest
import AccessAudit.Command.Outcome
import AccessAudit.Command.Run
import AccessAudit.CommandLine.Invocation
import AccessAudit.CommandLine.Level
import AccessAudit.CommandLine.Reading
import AccessAudit.Config
import AccessAudit.Config.Load
import AccessAudit.Config.OfDocument
import AccessAudit.Config.Template
import AccessAudit.Diagnostic
import AccessAudit.Explanation.Console
import AccessAudit.Explanation.Structured
import AccessAudit.Failure
import AccessAudit.Feature
import AccessAudit.FileSystem.Resolve
import AccessAudit.FileSystem.Tree
import AccessAudit.FileSystem.Write
import AccessAudit.Filter
import AccessAudit.Glob
import AccessAudit.Glob.Engine
import AccessAudit.Glob.Parser
import AccessAudit.Json
import AccessAudit.Manifest
import AccessAudit.Number.Binary64
import AccessAudit.Number.Rounding
import AccessAudit.Number.Shortest
import AccessAudit.Path
import AccessAudit.Report
import AccessAudit.Report.Console
import AccessAudit.Report.Csv
import AccessAudit.Report.Format
import AccessAudit.Report.Structured
import AccessAudit.Rule.Backend
import AccessAudit.Rule.Decision
import AccessAudit.Rule.Frontend
import AccessAudit.Rule.Table
import AccessAudit.Scan
import AccessAudit.Scan.Ignore
import AccessAudit.Style
import AccessAudit.Tally
import AccessAudit.Text.Basic
import AccessAudit.Text.CaseData
import AccessAudit.Text.DecimalDigit
import AccessAudit.Text.Digit
import AccessAudit.Text.LowerCase
import AccessAudit.Text.Printable
import AccessAudit.Text.Quoted
import AccessAudit.Text.Utf8
import AccessAudit.Text.WhiteSpace
import AccessAudit.Toml.Document
import AccessAudit.Toml.Scalar
import AccessAudit.Toml.Table
import AccessAudit.Toml.Token
import AccessAudit.Toml.Value
import AccessAudit.Verdict
import AccessAudit.Main
import AccessAudit.Proofs.Manifest.Accounting
import AccessAudit.Proofs.Manifest.RoundTrip
import AccessAudit.Proofs.Manifest.Grammar
import AccessAudit.Proofs.Manifest.Modes
import AccessAudit.Proofs.Manifest.Layout
import AccessAudit.Proofs.FileSystem.Surface
import AccessAudit.Proofs.FileSystem.Walk
import AccessAudit.Proofs.Rule.ContentUse
import AccessAudit.Proofs.FileSystem.Route
import AccessAudit.Proofs.FileSystem.Change
import AccessAudit.Proofs.Path.Parent
import AccessAudit.Proofs.FileSystem.FreshDirectory
import AccessAudit.Proofs.FileSystem.Writing
import AccessAudit.Proofs.Command.InitSafety
import AccessAudit.Proofs.Explanation.Agreement
import AccessAudit.Proofs.Report.Schedule
import AccessAudit.Proofs.Report.StableOrder
import AccessAudit.Proofs.Rule.Trace
import AccessAudit.Proofs.Glob.Remainder
import AccessAudit.Proofs.Path.Spelling
import AccessAudit.Proofs.FileSystem.WellFormed
import AccessAudit.Proofs.Text.Utf8
import AccessAudit.Proofs.FileSystem.Shorter
import AccessAudit.Proofs.Scan.Walking
import AccessAudit.Proofs.Scan.Found
import AccessAudit.Proofs.Command.Listing
import AccessAudit.Proofs.Command.Exclusion
import AccessAudit.Proofs.Assessment
import AccessAudit.Proofs.Command.Usability
import AccessAudit.Proofs.Path.Representation
import AccessAudit.Proofs.Text.ByteOrder
import AccessAudit.Proofs.Path.Merging
import AccessAudit.Proofs.Scan.IgnoreFiles
import AccessAudit.Proofs.Csv.Reading
import AccessAudit.Proofs.Csv.RoundTrip
import AccessAudit.Proofs.Number.Normal
import AccessAudit.Proofs.Number.Shortest
import AccessAudit.Proofs.Number.Magnitude
import AccessAudit.Proofs.Json.Numeral
import AccessAudit.Proofs.Json.Token
import AccessAudit.Proofs.Json.Document
import AccessAudit.Proofs.Json.Layout
import AccessAudit.Proofs.Report.ReadBack
import AccessAudit.Proofs.Feature
import AccessAudit.Proofs.Rule.Policy
import AccessAudit.Proofs.Rule.Shape
import AccessAudit.Proofs.FileSystem.Frame
import AccessAudit.Proofs.FileSystem.InPlace
import AccessAudit.Proofs.Command.FilesWritten
import AccessAudit.Proofs.Command.ExitCode
import AccessAudit.Proofs.Command.Inputs
import AccessAudit.Proofs.Command.Faults
import AccessAudit.Proofs.Command.Repetition
import AccessAudit.Proofs.Rule.Standing
import AccessAudit.Proofs.CommandLine.Reading
import AccessAudit.Proofs.CommandLine.QuietFlag
import AccessAudit.Proofs.CommandLine.FrontFlag
import AccessAudit.Proofs.Command.Quiet
import AccessAudit.Proofs.Command.EarlyFailure
import AccessAudit.Proofs.FileSystem.Descent
import AccessAudit.Proofs.Report.Sources
import AccessAudit.Proofs.Scan.DepthFirst
import AccessAudit.Proofs.Text.LetterCase
import AccessAudit.Proofs.Filter.Inclusion
import AccessAudit.Proofs.Config.Overlay
import AccessAudit.Proofs.Command.AuditSettings
import AccessAudit.Proofs.Report.Console
import AccessAudit.Proofs.Tally.Words
import AccessAudit.Proofs.Text.LowerCase
import AccessAudit.Proofs.Category.Depth
import AccessAudit.Proofs.Text.CaseFolding
import AccessAudit.Proofs.Feature.Pattern
import AccessAudit.Proofs.Text.FinalSigma
import AccessAudit.Proofs.Feature.Surroundings
