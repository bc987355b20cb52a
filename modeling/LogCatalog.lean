import LogCatalog.Cancellation
import LogCatalog.Definition
import LogCatalog.Diagnostic
import LogCatalog.Json.Number
import LogCatalog.Json.Reading
import LogCatalog.Json.Value
import LogCatalog.Level
import LogCatalog.Locale
import LogCatalog.Locale.Configured
import LogCatalog.MessageId
import LogCatalog.Name
import LogCatalog.Proofs.Cancellation.Descent
import LogCatalog.Proofs.Cancellation.Reports
import LogCatalog.Proofs.Definition.Json
import LogCatalog.Proofs.Json.Unambiguous
import LogCatalog.Proofs.Level
import LogCatalog.Proofs.Locale.Configured
import LogCatalog.Proofs.Locale.Rereading
import LogCatalog.Proofs.Locale.Spelling
import LogCatalog.Proofs.Locale.Subtags
import LogCatalog.Proofs.Locale.Tags
import LogCatalog.Proofs.MessageId
import LogCatalog.Proofs.Name.Idempotence
import LogCatalog.Proofs.Name.Identifier
import LogCatalog.Proofs.Name.Spelling
import LogCatalog.Proofs.Row.Acceptance
import LogCatalog.Proofs.Row.Cells
import LogCatalog.Proofs.Row.Columns
import LogCatalog.Proofs.Row.Fields
import LogCatalog.Proofs.Row.FirstInsertions
import LogCatalog.Proofs.Row.Judging
import LogCatalog.Proofs.Row.Labels
import LogCatalog.Proofs.Row.Parameters
import LogCatalog.Proofs.Row.Places
import LogCatalog.Proofs.Row.SlotRemarks
import LogCatalog.Proofs.Row.Slots
import LogCatalog.Proofs.Row.Translations
import LogCatalog.Proofs.Run.Bookkeeping
import LogCatalog.Proofs.Run.CaseVariants
import LogCatalog.Proofs.Run.FirstAccepted
import LogCatalog.Proofs.Run.Interruption
import LogCatalog.Proofs.Run.Lines
import LogCatalog.Proofs.Run.NoTrace
import LogCatalog.Proofs.Run.Parameters
import LogCatalog.Proofs.Run.ReadingAhead
import LogCatalog.Proofs.Run.Registered
import LogCatalog.Proofs.Run.Snapshots
import LogCatalog.Proofs.Run.Steps
import LogCatalog.Proofs.Run.Streams
import LogCatalog.Proofs.Run.Takings
import LogCatalog.Proofs.Run.Verdicts
import LogCatalog.Proofs.Settings.TagList
import LogCatalog.Proofs.Template.BraceBytes
import LogCatalog.Proofs.Template.BraceRuns
import LogCatalog.Proofs.Template.ByteScanner
import LogCatalog.Proofs.Template.FirstHoles
import LogCatalog.Proofs.Template.Matching
import LogCatalog.Proofs.Template.Misplaced
import LogCatalog.Proofs.Template.OnePass
import LogCatalog.Proofs.Template.Reading
import LogCatalog.Proofs.Template.Rendering
import LogCatalog.Proofs.Template.Spans
import LogCatalog.Proofs.Template.TrailingText
import LogCatalog.Proofs.Text.ByteSlices
import LogCatalog.Proofs.Text.Lines
import LogCatalog.Proofs.Text.Pieces
import LogCatalog.Proofs.Text.Trimming
import LogCatalog.Proofs.Text.Utf8
import LogCatalog.Proofs.Unicode.Boundaries
import LogCatalog.Proofs.Unicode.CanonicalOrder
import LogCatalog.Proofs.Unicode.CaseVariants
import LogCatalog.Proofs.Unicode.Parts
import LogCatalog.Proofs.Unicode.Stability
import LogCatalog.Proofs.ValueType
import LogCatalog.Row.Draft
import LogCatalog.Row.Finding
import LogCatalog.Row.Layout
import LogCatalog.Row.Localizations
import LogCatalog.Row.Registry
import LogCatalog.Row.Slots
import LogCatalog.Row.Split
import LogCatalog.Run
import LogCatalog.Run.Event
import LogCatalog.Run.Failure
import LogCatalog.Run.Fetch
import LogCatalog.Run.Intake
import LogCatalog.Run.Session
import LogCatalog.Settings
import LogCatalog.Settings.Document
import LogCatalog.Snapshot
import LogCatalog.Template
import LogCatalog.Template.Comparison
import LogCatalog.Text.Basic
import LogCatalog.Text.Blank
import LogCatalog.Text.Numeral
import LogCatalog.Text.Quoted
import LogCatalog.Text.Shortest
import LogCatalog.Text.Utf8
import LogCatalog.Unicode.CombiningClass
import LogCatalog.Unicode.Composition
import LogCatalog.Unicode.Decomposition.Canonical
import LogCatalog.Unicode.Decomposition.Compatibility
import LogCatalog.Unicode.GraphemeBreak
import LogCatalog.Unicode.GraphemeCluster
import LogCatalog.Unicode.Hangul
import LogCatalog.Unicode.IdentifierClass
import LogCatalog.Unicode.Lowercase
import LogCatalog.Unicode.Normalization
import LogCatalog.Unicode.Printable
import LogCatalog.Unicode.RangeMap
import LogCatalog.Unicode.Uppercase
import LogCatalog.ValueType
