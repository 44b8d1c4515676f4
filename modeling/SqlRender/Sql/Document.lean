import SqlRender.Files.Tree
import SqlRender.Sql.Decode
import SqlRender.Sql.Violation
import SqlRender.Yaml.Tree

/-!
# Sql/Document — statements from documents

A document is JSON or YAML by the extension of its path. JSON is decoded while it is read. YAML is
read as a generic value first, and that is decoded. A statement that was decoded must be free of
violations.
-/

namespace SqlRender

/-- How a document is written. -/
inductive DocumentFormat where
  | json
  | yaml
  deriving DecidableEq, Repr

namespace DocumentFormat

/-- The name of the format. -/
def name : DocumentFormat → String
  | .json => "Json"
  | .yaml => "Yaml"

/-- The format that the extension of a path tells, in either case. -/
def ofPath? (p : Path) : Option DocumentFormat := do
  match (← p.extension?).map Char.toLower with
  | "json" => some .json
  | "yaml" | "yml" => some .yaml
  | _ => none

end DocumentFormat

/-- Why a document gives no statement. -/
inductive LoadFault where
  | file (e : FileError)
  | json (e : DocumentError)
  | yaml (e : DocumentError)
  | invalid (v : Violation)
  | unsupported
  deriving DecidableEq, Repr

/-- A fault and the document that has it. -/
structure LoadError where
  path : Path
  fault : LoadFault
  deriving DecidableEq, Repr

/-- What lies behind a fault of a document, with the remark of its parser. -/
def LoadFault.cause? (remark : DocumentError → String) : LoadFault → Option String
  | .file e => some e.message
  | .json e => some (e.message .json (remark e))
  | .yaml e => some (e.message .yaml (remark e))
  | .invalid v => some v.message
  | .unsupported => none

/-- What is said in front of the path. -/
def LoadFault.lead : LoadFault → String
  | .file _ => "I/O error"
  | .json _ => "failed to parse JSON AST"
  | .yaml _ => "failed to parse YAML AST"
  | .invalid _ => "invalid AST"
  | .unsupported => "unsupported AST document format"

/-- The error in full. -/
def LoadError.message (remarks : Remarks) (e : LoadError) : String :=
  e.fault.lead ++ " at " ++ e.path.text ++
    match e.fault.cause? (remarks e.path) with
    | some cause => ": " ++ cause
    | none => "; expected .json, .yaml or .yml"

/-- Decode a statement. -/
def Statement.decode (text : String) : DocumentFormat → Except LoadFault Statement
  | .json => (Statement.decoder.fromText text).mapError .json
  | .yaml => do
    let v ← (Yaml.parseJson text).mapError .yaml
    (Statement.decoder.fromJson v).mapError .json

/-- Decode a statement and check it. -/
def Statement.parse (text : String) (format : DocumentFormat) : Except LoadFault Statement := do
  let s ← Statement.decode text format
  match s.violation? with
  | none => return s
  | some v => throw (.invalid v)

/-- The text of the document at a path, and its format. -/
def openDocument (files : Files) (p : Path) : Except LoadFault (DocumentFormat × String) := do
  match DocumentFormat.ofPath? p with
  | none => throw .unsupported
  | some format => return (format, ← (files.readText p).mapError .file)

/-- The statement in the document at a path. -/
def Statement.load (files : Files) (p : Path) : Except LoadError Statement :=
  ((openDocument files p).bind fun (format, text) => Statement.parse text format).mapError (⟨p, ·⟩)

end SqlRender
