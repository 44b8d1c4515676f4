import SqlRender.Buffer
import SqlRender.Command.Arguments
import SqlRender.Command.Failure
import SqlRender.Command.Highlight
import SqlRender.Command.Log
import SqlRender.Command.Table
import SqlRender.Sql.Node

/-!
# Command/Render — what is printed about a document

The text of the statement comes first, painted if that is wanted. If tracked literals are recorded a
table of them follows. As JSON, text and tracked literals come in one object.
-/

namespace SqlRender

/-- Settings together with what the options of a command ask for. JSON always has the tracked
literals. -/
def RenderOptions.effective (o : RenderOptions) (s : Settings) : Settings :=
  { s with
    tracking := s.tracking || o.tracked || o.json
    highlight := s.highlight || o.highlight }

/-- A tracked literal: where it is and what it says. -/
structure TrackedLiteral where
  span : Span
  text : String
  deriving DecidableEq, Repr

/-- The tracked literals of a text. -/
def trackedLiterals (sql : String) (spans : List Span) : Except Overflow (List TrackedLiteral) :=
  spans.mapM fun s => return ⟨s, ← spanText sql s⟩

namespace TrackedLiteral

/-- The literal as JSON output lists it. -/
def json (t : TrackedLiteral) : Json :=
  .object [("offset", .int t.span.offset), ("len", .int t.span.len), ("text", .string t.text)]

/-- The cells of a row. -/
def row (t : TrackedLiteral) (number : Nat) : List String :=
  [toString number, toString t.span.offset, toString t.span.len, t.text]

end TrackedLiteral

/-- The table of tracked literals, numbered from one. -/
def literalTable : List TrackedLiteral → String
  | [] => "No tracked literals."
  | literals =>
    Table.render ["#", "offset", "length", "text"]
      (literals.zipIdx.map fun (t, i) => t.row (i + 1))

/-- Text and tracked literals in one object. -/
def renderJson (sql : String) (literals : List TrackedLiteral) : Json :=
  .object [("sql", .string sql), ("substitutions", .array (literals.map TrackedLiteral.json))]

/-- What is printed about a text with recorded spans. `effective` are the settings in effect. -/
def renderOutput (json : Bool) (effective : Settings) (paint : Paint) (sql : String)
    (spans : List Span) : Except Overflow String := do
  if json then return (renderJson sql (← trackedLiterals sql spans)).pretty ++ "\n"
  let line ← if effective.highlight then highlight paint sql spans else pure sql
  if effective.tracking then
    return line ++ "\n" ++ literalTable (← trackedLiterals sql spans) ++ "\n"
  return line ++ "\n"

/-- A statement written to a buffer of its own. -/
def Statement.write (s : Statement) (tracking : Bool) : Progress :=
  (Buffer.new tracking).write s.node

/-- What is printed about a statement, and what the log says of it. -/
def renderStatement (o : RenderOptions) (settings : Settings) (paint : Paint) (s : Statement) :
    List LogRecord × Except Failure String :=
  let effective := o.effective settings
  let p := s.write effective.tracking
  let noted := p.buffer.journal.toList.map LogRecord.ofEvent
  match p.fault, p.buffer.toText with
  | some fault, _ => (noted, .error (.internal fault.message))
  | none, .error defect => (noted, .error (.internal (invalidTextMessage defect)))
  | none, .ok sql =>
    let spans := p.buffer.spans.toList
    (noted ++ [.rendered o.path.text sql.utf8ByteSize spans.length],
      (renderOutput o.json effective paint sql spans).mapError fun e => .internal e.message)

/-- Load a document and render its statement. -/
def renderDocument (files : Files) (o : RenderOptions) (settings : Settings) (paint : Paint) :
    List LogRecord × Except Failure String :=
  match openDocument files o.path with
  | .error fault => ([], .error (.document ⟨o.path, fault⟩))
  | .ok (format, text) =>
    let loading := LogRecord.loading o.path.text format.name text.utf8ByteSize
    match Statement.parse text format with
    | .error fault => ([loading], .error (.document ⟨o.path, fault⟩))
    | .ok s =>
      let (noted, result) := renderStatement o settings paint s
      (loading :: noted, result)

end SqlRender
