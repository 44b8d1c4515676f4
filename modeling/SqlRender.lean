import SqlRender.Buffer
import SqlRender.Command.Arguments
import SqlRender.Command.Failure
import SqlRender.Command.Filter
import SqlRender.Command.Highlight
import SqlRender.Command.Level
import SqlRender.Command.Log
import SqlRender.Command.Render
import SqlRender.Command.Run
import SqlRender.Command.Table
import SqlRender.Decimal.Double
import SqlRender.Decimal.Layout
import SqlRender.Decimal.Shortest
import SqlRender.Decimal.Stepwise
import SqlRender.Document.Decoder
import SqlRender.Document.Error
import SqlRender.Files.Change
import SqlRender.Files.Path
import SqlRender.Files.Tree
import SqlRender.Json.Reading
import SqlRender.Json.Tree
import SqlRender.Json.Value
import SqlRender.Main
import SqlRender.Settings.Basic
import SqlRender.Settings.Store
import SqlRender.Span
import SqlRender.Span.Document
import SqlRender.Sql.Decode
import SqlRender.Sql.Document
import SqlRender.Sql.Encode
import SqlRender.Sql.Node
import SqlRender.Sql.Tree
import SqlRender.Sql.Violation
import SqlRender.Sql.Word
import SqlRender.Template.Directive
import SqlRender.Template.Fault
import SqlRender.Template.Node
import SqlRender.Template.Scan
import SqlRender.Template.Slot
import SqlRender.Text.Alphanumeric
import SqlRender.Text.Blank
import SqlRender.Text.Invisible
import SqlRender.Text.Marks
import SqlRender.Text.Quoted
import SqlRender.Text.Ranges
import SqlRender.Text.Slice
import SqlRender.Text.Utf8
import SqlRender.Text.Width
import SqlRender.Words
import SqlRender.Yaml.Cursor
import SqlRender.Yaml.Document
import SqlRender.Yaml.Lexer
import SqlRender.Yaml.Plain
import SqlRender.Yaml.Property
import SqlRender.Yaml.Record
import SqlRender.Yaml.Scalar
import SqlRender.Yaml.Token
import SqlRender.Yaml.Tree
import SqlRender.Yaml.Writer
import SqlRender.Proofs.Emission
import SqlRender.Proofs.SpanRecord
import SqlRender.Proofs.Frame
import SqlRender.Proofs.Layout
import SqlRender.Proofs.Leaves
import SqlRender.Proofs.Splice
import SqlRender.Proofs.Canon
import SqlRender.Proofs.Faithful
import SqlRender.Proofs.Injection
import SqlRender.Proofs.Template
import SqlRender.Proofs.Tracked
import SqlRender.Proofs.Sliced
import SqlRender.Proofs.ShortFloat
import SqlRender.Proofs.RoundTrip
import SqlRender.Proofs.WalkAgreement
import SqlRender.Proofs.OutputModes
import SqlRender.Proofs.Violations
import SqlRender.Proofs.Grammar
import SqlRender.Proofs.Grammatical
import SqlRender.Proofs.Nesting
import SqlRender.Proofs.Strict
import SqlRender.Proofs.Reload
import SqlRender.Proofs.Places
import SqlRender.Proofs.StoreRun
import SqlRender.Proofs.Painting
import SqlRender.Proofs.SettingsUse
import SqlRender.Proofs.Renesting
import SqlRender.Proofs.Delimited
import SqlRender.Proofs.SpanReading
