import RecordSheets.Catalogue
import RecordSheets.CategoryFilter
import RecordSheets.CellText
import RecordSheets.CommandLine
import RecordSheets.Conversion
import RecordSheets.Csv
import RecordSheets.EnumLabel
import RecordSheets.Failure
import RecordSheets.Files.Access
import RecordSheets.Files.FileTree
import RecordSheets.Files.Path
import RecordSheets.Files.SystemError
import RecordSheets.Glob
import RecordSheets.Glossary
import RecordSheets.Json.Fault
import RecordSheets.Json.Numeral
import RecordSheets.Json.Printer
import RecordSheets.Json.Reader
import RecordSheets.Json.Value
import RecordSheets.Main
import RecordSheets.Mapping
import RecordSheets.MappingFolder
import RecordSheets.Number.Binary64
import RecordSheets.Number.Decimal
import RecordSheets.Number.Rounding
import RecordSheets.Number.Written
import RecordSheets.Outcome
import RecordSheets.PathExpr.Basic
import RecordSheets.PathExpr.Evaluate
import RecordSheets.Preset
import RecordSheets.Program.Console
import RecordSheets.Program.Run
import RecordSheets.Proofs.Catalogue.Categories
import RecordSheets.Proofs.Catalogue.Readings
import RecordSheets.Proofs.Catalogue.Search
import RecordSheets.Proofs.Catalogue.Stable
import RecordSheets.Proofs.Csv.Reader
import RecordSheets.Proofs.Csv.RoundTrip
import RecordSheets.Proofs.Files.Added
import RecordSheets.Proofs.Files.Below
import RecordSheets.Proofs.Files.Growth
import RecordSheets.Proofs.Files.Joined
import RecordSheets.Proofs.Files.Kept
import RecordSheets.Proofs.Files.Making
import RecordSheets.Proofs.Files.Order
import RecordSheets.Proofs.Files.Resolve
import RecordSheets.Proofs.Files.Shape
import RecordSheets.Proofs.Files.Walk
import RecordSheets.Proofs.Files.Writing
import RecordSheets.Proofs.Json.FaultPlaces
import RecordSheets.Proofs.Json.Keys
import RecordSheets.Proofs.Mapping.Loading
import RecordSheets.Proofs.Number.Amounts
import RecordSheets.Proofs.Number.Rounding
import RecordSheets.Proofs.PathExpr.Canonical
import RecordSheets.Proofs.PathExpr.Grammar
import RecordSheets.Proofs.PathExpr.Joins
import RecordSheets.Proofs.PathExpr.Sums
import RecordSheets.Proofs.PathExpr.Walks
import RecordSheets.Proofs.Program.Arguments
import RecordSheets.Proofs.Program.ColumnLists
import RecordSheets.Proofs.Program.Endings
import RecordSheets.Proofs.Program.Foresight
import RecordSheets.Proofs.Program.Frame
import RecordSheets.Proofs.Program.Phases
import RecordSheets.Proofs.Program.Rerun
import RecordSheets.Proofs.Publishing.Accounting
import RecordSheets.Proofs.Publishing.Again
import RecordSheets.Proofs.Publishing.Batch
import RecordSheets.Proofs.Publishing.Counting
import RecordSheets.Proofs.Publishing.Effect
import RecordSheets.Proofs.Publishing.Exclusive
import RecordSheets.Proofs.Publishing.Indifference
import RecordSheets.Proofs.Publishing.Isolation
import RecordSheets.Proofs.Publishing.Places
import RecordSheets.Proofs.Publishing.Progress
import RecordSheets.Proofs.Publishing.ReadOnce
import RecordSheets.Proofs.Publishing.Truth
import RecordSheets.Proofs.Publishing.Workers
import RecordSheets.Proofs.Sheet.Columns
import RecordSheets.Proofs.Sheet.Labels
import RecordSheets.Proofs.Sheet.Locality
import RecordSheets.Proofs.Sheet.NameColumns
import RecordSheets.Proofs.Sheet.Provenance
import RecordSheets.Proofs.Sheet.Texts
import RecordSheets.Proofs.Sheet.TokenPath
import RecordSheets.Proofs.Text.ByteOrder
import RecordSheets.Proofs.Text.Numbers
import RecordSheets.Publisher
import RecordSheets.Sheet
import RecordSheets.Statistics
import RecordSheets.Text.Blank
import RecordSheets.Text.CaseData
import RecordSheets.Text.Digits
import RecordSheets.Text.HiddenData
import RecordSheets.Text.Lower
import RecordSheets.Text.Pieces
import RecordSheets.Text.Quoted
import RecordSheets.Text.Ranges
import RecordSheets.Text.Utf8
import RecordSheets.Verbosity
