import SourceLint.CommandLine.Arguments
import SourceLint.CommandLine.Command
import SourceLint.CommandLine.Reader
import SourceLint.Comment.Keep
import SourceLint.Comment.Phrase
import SourceLint.Diagnostic
import SourceLint.Failure
import SourceLint.FileSystem.Basic
import SourceLint.FileSystem.Resolve
import SourceLint.FileSystem.Walk
import SourceLint.Grammar.Loader
import SourceLint.Grammar.Parser
import SourceLint.Grammar.Session
import SourceLint.Handler.Family
import SourceLint.Json.Basic
import SourceLint.Json.Printer
import SourceLint.Json.Reader
import SourceLint.Language.Basic
import SourceLint.Language.Catalogue
import SourceLint.Log.Event
import SourceLint.Log.Logged
import SourceLint.Main
import SourceLint.Path
import SourceLint.Pattern.Basic
import SourceLint.Pattern.Derivative
import SourceLint.Proofs.CommandLine.Presentation
import SourceLint.Proofs.Comment.Markers
import SourceLint.Proofs.Directive.Occurrence
import SourceLint.Proofs.Directive.Spelled
import SourceLint.Proofs.Directive.Written
import SourceLint.Proofs.Discovery.Agreement
import SourceLint.Proofs.Discovery.Candidates
import SourceLint.Proofs.Discovery.Directory
import SourceLint.Proofs.Discovery.Union
import SourceLint.Proofs.FileSystem.LinkFree
import SourceLint.Proofs.FileSystem.Listing
import SourceLint.Proofs.FileSystem.Narrowing
import SourceLint.Proofs.FileSystem.NoLinks
import SourceLint.Proofs.FileSystem.Order
import SourceLint.Proofs.FileSystem.Places
import SourceLint.Proofs.FileSystem.Reached
import SourceLint.Proofs.Grammar.Memory
import SourceLint.Proofs.Grammar.Preloading
import SourceLint.Proofs.Grammar.Recall
import SourceLint.Proofs.Json.Grammar
import SourceLint.Proofs.Json.RoundTrip
import SourceLint.Proofs.Language.Selection
import SourceLint.Proofs.Pattern.Apart
import SourceLint.Proofs.Pattern.Words
import SourceLint.Proofs.Report.Document
import SourceLint.Proofs.Report.Grouping
import SourceLint.Proofs.Rule.Coincidence
import SourceLint.Proofs.Rule.Content
import SourceLint.Proofs.Rule.Extension
import SourceLint.Proofs.Rule.Nesting
import SourceLint.Proofs.Rule.Phrases
import SourceLint.Proofs.Rule.Reach
import SourceLint.Proofs.Run.Accounting
import SourceLint.Proofs.Run.Identity
import SourceLint.Proofs.Run.Progress
import SourceLint.Proofs.Run.Restriction
import SourceLint.Proofs.Run.Schedule
import SourceLint.Proofs.Run.Shadowing
import SourceLint.Proofs.Scan.Endings
import SourceLint.Proofs.Scan.Exhaustive
import SourceLint.Proofs.Scan.Faults
import SourceLint.Proofs.Scan.Isolation
import SourceLint.Proofs.Scan.LineOrder
import SourceLint.Proofs.Settings.Validity
import SourceLint.Proofs.Suppression.Explanation
import SourceLint.Proofs.Suppression.Membership
import SourceLint.Proofs.Suppression.ReadBack
import SourceLint.Proofs.Suppression.SameLine
import SourceLint.Proofs.Suppression.Scope
import SourceLint.Proofs.Suppression.Union
import SourceLint.Proofs.Text.Letters
import SourceLint.Proofs.Text.Mentions
import SourceLint.Proofs.Tree.Position
import SourceLint.Proofs.Tree.Traversal
import SourceLint.Report.Console
import SourceLint.Report.Document
import SourceLint.Report.Listing
import SourceLint.Report.Styled
import SourceLint.Report.Table
import SourceLint.Report.Terminal
import SourceLint.Rule.Basic
import SourceLint.Rule.Catalogue
import SourceLint.Rule.Comment
import SourceLint.Rule.Handler
import SourceLint.Run.Basic
import SourceLint.Run.Discovery
import SourceLint.Run.File
import SourceLint.Run.Observer
import SourceLint.Run.Pool
import SourceLint.Run.Summary
import SourceLint.Scan
import SourceLint.Settings
import SourceLint.Snapshot
import SourceLint.Suppression.Basic
import SourceLint.Suppression.Directive
import SourceLint.Text.Blank
import SourceLint.Text.Case
import SourceLint.Text.Count
import SourceLint.Text.Decimal
import SourceLint.Text.Digit
import SourceLint.Text.Integer
import SourceLint.Text.Lines
import SourceLint.Text.Order
import SourceLint.Text.Printable
import SourceLint.Text.Quoted
import SourceLint.Text.Ranges
import SourceLint.Text.Split
import SourceLint.Text.Utf8
import SourceLint.Text.Word
import SourceLint.Tree.Node
import SourceLint.Tree.Source
