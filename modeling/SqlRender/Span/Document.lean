import SqlRender.Span
import SqlRender.Document.Decoder
import SqlRender.Yaml.Record
import SqlRender.Yaml.Writer

/-!
# Span/Document — spans as documents

Spans are records of two fields in JSON and in YAML.
-/

namespace SqlRender.Span

/-- The name of the record in errors. -/
def label : String := "struct Substitution"

/-- A span from a document; both fields are machine words. -/
def decoder : Decoder Span :=
  let word := (Decoder.integer "usize" 0 (wordSize - 1)).map Int.toNat
  ((Fields.required "offset" word).and (Fields.required "len" word)).map
    (fun (offset, len) => (⟨offset, len⟩ : Span))
  |>.decoder label

/-- A span as a JSON value. -/
def json (s : Span) : Json := .object [("offset", .int s.offset), ("len", .int s.len)]

/-- A span some of whose fields are still to come. -/
structure Draft where
  offset : Option Nat := none
  len : Option Nat := none

/-- Read a span from YAML. -/
def ofYaml (text : String) : Except DocumentError Span :=
  let word := Yaml.Reader.natural "usize" wordSize
  Yaml.readRecord text label [
      .of "offset" Draft.offset (fun s n => { s with offset := some n }) word,
      .of "len" Draft.len (fun s n => { s with len := some n }) word]
    {} fun s =>
      match s.offset, s.len with
      | none, _ => .error (.shape "" (.missingField "offset"))
      | some _, none => .error (.shape "" (.missingField "len"))
      | some offset, some len => .ok ⟨offset, len⟩

/-- A span as the lines of a YAML document. -/
def yaml (s : Span) : String :=
  Yaml.recordText [("offset", .natural s.offset), ("len", .natural s.len)]

end SqlRender.Span
