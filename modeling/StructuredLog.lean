import StructuredLog.Text.Blank
import StructuredLog.Text.Case
import StructuredLog.Template.Basic
import StructuredLog.Template.Printer
import StructuredLog.Output.Piece
import StructuredLog.Theme.Dotted
import StructuredLog.Decimal.Fixed
import StructuredLog.Calendar.Writer
import StructuredLog.Line.Basic
import StructuredLog.Message.Text
import StructuredLog.Message.Writer
import StructuredLog.Line.Writer
import StructuredLog.Event.Compact
import StructuredLog.Event.Writer
import StructuredLog.Json.Quoted
import StructuredLog.Json.Reader
import StructuredLog.Diagnostics.Channel
import StructuredLog.Template.Cache
import StructuredLog.Capture.Summary
import StructuredLog.Capture.Document
import StructuredLog.Entry.Formatter
import StructuredLog.Options.Yaml
import StructuredLog.Proofs.Template.RoundTrip
import StructuredLog.Proofs.Template.Segments
import StructuredLog.Proofs.Message.Styling
import StructuredLog.Proofs.Line.Styling
import StructuredLog.Proofs.Capture.Reach
import StructuredLog.Proofs.Capture.Strict
import StructuredLog.Proofs.Capture.Parts
import StructuredLog.Proofs.Capture.DepthLimit
import StructuredLog.Proofs.Capture.Nesting
import StructuredLog.Proofs.Capture.Pruned
import StructuredLog.Proofs.Json.Reader
import StructuredLog.Proofs.Decimal.Shortest
import StructuredLog.Proofs.Json.Number
import StructuredLog.Proofs.Json.Plain
import StructuredLog.Proofs.Json.Value
import StructuredLog.Proofs.Json.Printed
import StructuredLog.Proofs.Event.Compact
import StructuredLog.Proofs.Template.Cache
import StructuredLog.Proofs.Event.History
import StructuredLog.Proofs.Capture.Document
import StructuredLog.Proofs.Capture.Termination
import StructuredLog.Proofs.Line.Properties
import StructuredLog.Proofs.Json.Spaced
import StructuredLog.Proofs.Line.Stopping
import StructuredLog.Proofs.Message.Failure
import StructuredLog.Proofs.Message.Format
import StructuredLog.Proofs.Value.Provider
import StructuredLog.Proofs.Value.Failure
import StructuredLog.Proofs.Capture.ItemLimit
import StructuredLog.Proofs.Capture.DefaultHint
import StructuredLog.Proofs.Capture.Registration
import StructuredLog.Proofs.Capture.TextLimit
import StructuredLog.Proofs.Capture.Keys
import StructuredLog.Proofs.Capture.TypeName
import StructuredLog.Proofs.Capture.Lenient
import StructuredLog.Proofs.Entry.Binding
import StructuredLog.Proofs.Calendar.Pattern
import StructuredLog.Proofs.Scalar.Integer
import StructuredLog.Proofs.Scalar.Quoted
import StructuredLog.Proofs.Calendar.Duration
import StructuredLog.Proofs.Capture.Bytes
import StructuredLog.Proofs.Theme.Dotted
