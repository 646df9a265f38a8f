import BenchCompare.Decimal.Exact
import BenchCompare.Decimal.Fixed
import BenchCompare.Sample.Summary
import BenchCompare.Text.Blank
import BenchCompare.Layout.Grid
import BenchCompare.Layout.Cell
import BenchCompare.Comparison.Key
import BenchCompare.Decimal.Shortest
import BenchCompare.Decimal.Numeral
import BenchCompare.Text.Digit
import BenchCompare.Text.Printable
import BenchCompare.Text.Quoted
import BenchCompare.Json.Basic
import BenchCompare.Json.Lexeme
import BenchCompare.Json.Document
import BenchCompare.Value.Moment
import BenchCompare.Value.Basic
import BenchCompare.Value.Text
import BenchCompare.Run.Record
import BenchCompare.Run.Decode
import BenchCompare.Run.Encode
import BenchCompare.Log.Record
import BenchCompare.Log.Session
import BenchCompare.Comparison.Table
import BenchCompare.Comparison.Ingest
import BenchCompare.Comparison.Step
import BenchCompare.Comparison.Report
import BenchCompare.Csv.Writer
import BenchCompare.Csv.Reader
import BenchCompare.Text.Lines
import BenchCompare.Text.Utf8
import BenchCompare.File.Path
import BenchCompare.File.Tree
import BenchCompare.File.System
import BenchCompare.Job.Load
import BenchCompare.Settings.Basic
import BenchCompare.Settings.Resolve
import BenchCompare.Settings.File
import BenchCompare.Value.Key
import BenchCompare.Yaml.Cursor
import BenchCompare.Yaml.Fault
import BenchCompare.Yaml.Quoted
import BenchCompare.Yaml.Plain
import BenchCompare.Yaml.Block
import BenchCompare.Yaml.Token
import BenchCompare.Yaml.Node
import BenchCompare.Yaml.Meaning
import BenchCompare.Yaml.Document
import BenchCompare.Text.Terminal
import BenchCompare.Command.Words
import BenchCompare.Command.Usage
import BenchCompare.Command.Request
import BenchCompare.Command.Run
import BenchCompare.Command.Named
import BenchCompare.Main
import BenchCompare.Text.Halves
import BenchCompare.Text.Similarity
import BenchCompare.Proofs.Comparison.Count
import BenchCompare.Proofs.Comparison.Intake
import BenchCompare.Proofs.Comparison.Delivery
import BenchCompare.Proofs.Comparison.Completion
import BenchCompare.Proofs.Comparison.History
import BenchCompare.Proofs.Comparison.Frame
import BenchCompare.Proofs.Sample.Maximum
import BenchCompare.Proofs.Comparison.Invariant
import BenchCompare.Proofs.Decimal.Overflow
import BenchCompare.Proofs.Run.Format
import BenchCompare.Proofs.Run.RoundTrip
import BenchCompare.Proofs.File.Lookup
import BenchCompare.Proofs.Json.LongInteger
import BenchCompare.Proofs.Run.Oversized
import BenchCompare.Proofs.Job.Faults
import BenchCompare.Proofs.Comparison.Order
import BenchCompare.Proofs.Csv.RoundTrip
import BenchCompare.Proofs.Comparison.Export
import BenchCompare.Proofs.Comparison.Schedule
import BenchCompare.Proofs.Comparison.Rearrangement
import BenchCompare.Proofs.Comparison.Mirror
import BenchCompare.Proofs.Job.Contract
import BenchCompare.Proofs.Job.Distinct
import BenchCompare.Proofs.Settings.Contract
import BenchCompare.Proofs.Settings.Precedence
import BenchCompare.Proofs.File.Write
import BenchCompare.Proofs.Log.Files
import BenchCompare.Proofs.File.Path
import BenchCompare.Proofs.Text.Terminal
import BenchCompare.Proofs.Csv.Sequences
import BenchCompare.Proofs.Command.Work
import BenchCompare.Proofs.Command.Stages
import BenchCompare.Proofs.Command.Course
import BenchCompare.Proofs.Command.Quiet
import BenchCompare.Proofs.Command.Output
import BenchCompare.Proofs.Command.Mistakes
import BenchCompare.Proofs.Command.Agreement
import BenchCompare.Proofs.Text.Blank
import BenchCompare.Proofs.Comparison.Threshold
import BenchCompare.Proofs.Decimal.Numeral
import BenchCompare.Proofs.Decimal.Rational
import BenchCompare.Proofs.Settings.Threshold
import BenchCompare.Proofs.Text.Lines
import BenchCompare.Proofs.Decimal.Fixed
import BenchCompare.Proofs.Layout.Grid
import BenchCompare.Proofs.Comparison.Statistics
import BenchCompare.Proofs.Comparison.Lines
import BenchCompare.Proofs.Log.Routing
import BenchCompare.Proofs.Job.Directory
import BenchCompare.Proofs.Layout.Columns
import BenchCompare.Proofs.Comparison.KeyOrder
import BenchCompare.Proofs.Comparison.Positions
import BenchCompare.Proofs.Comparison.SortedViews
import BenchCompare.Proofs.Settings.FixedPoint
import BenchCompare.Proofs.Decimal.Ordering
import BenchCompare.Proofs.Sample.Largest
import BenchCompare.Proofs.Decimal.Rounding
import BenchCompare.Proofs.Decimal.Printed
import BenchCompare.Proofs.Decimal.Root
import BenchCompare.Proofs.Sample.Moments
import BenchCompare.Proofs.Sample.Unrounded
