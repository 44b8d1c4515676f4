import SqlRender.Words
import SqlRender.Document.Decoder
import SqlRender.Yaml.Record
import SqlRender.Yaml.Writer

/-!
# Settings/Basic — preferences for rendering

Every setting has a default, so a document may leave out any of them. Settings are records in JSON
and in YAML.
-/

namespace SqlRender

/-- Preferences for rendering and for the command line. -/
structure Settings where
  /-- The version of the format. -/
  version : UInt32 := 1
  /-- Record the spans of tracked literals. -/
  tracking : Bool := false
  /-- Colour tracked literals. -/
  highlight : Bool := false
  /-- Which log records are shown. -/
  logFilter : Option String := none
  deriving DecidableEq, Repr, Inhabited

namespace Settings

/-- The filter that holds when no other is set. -/
def defaultFilter : String := "warn"

/-- The log filter in effect. -/
def effectiveFilter (s : Settings) : String := s.logFilter.getD defaultFilter

/-- The name of the record in errors. -/
def label : String := "struct RenderConfig"

/-! ## JSON -/

/-- Settings from a document; every field has a default. -/
def decoder : Decoder Settings :=
  let initial : Settings := {}
  let version := (Decoder.integer "u32" 0 (halfWordSize - 1)).map fun n => UInt32.ofNat n.toNat
  ((Fields.defaulted "version" version initial.version).and
    ((Fields.defaulted "track_substitutions" Decoder.bool initial.tracking).and
      ((Fields.defaulted "highlight" Decoder.bool initial.highlight).and
        (Fields.defaulted "log_filter" (Decoder.option Decoder.string) initial.logFilter)))).map
    (fun (version, tracking, highlight, logFilter) =>
      (⟨version, tracking, highlight, logFilter⟩ : Settings))
  |>.decoder label

/-- Settings as a JSON value. A filter that is not set is left out. -/
def json (s : Settings) : Json :=
  .object ([("version", .int s.version.toNat), ("track_substitutions", .bool s.tracking),
    ("highlight", .bool s.highlight)] ++
      s.logFilter.toList.map fun f => ("log_filter", .string f))

/-! ## YAML -/

/-- Settings as far as they were given. -/
structure Draft where
  version : Option UInt32 := none
  tracking : Option Bool := none
  highlight : Option Bool := none
  logFilter : Option (Option String) := none

/-- Settings with the defaults for what was not given. -/
def Draft.complete (d : Draft) : Settings :=
  let initial : Settings := {}
  ⟨d.version.getD initial.version, d.tracking.getD initial.tracking,
    d.highlight.getD initial.highlight, d.logFilter.getD initial.logFilter⟩

/-- The fields as a YAML document has them. -/
def members : List (Yaml.Member Draft) := [
  .of "version" Draft.version (fun d n => { d with version := some n })
    ((Yaml.Reader.natural "u32" halfWordSize).map UInt32.ofNat),
  .of "track_substitutions" Draft.tracking (fun d b => { d with tracking := some b })
    Yaml.Reader.bool,
  .of "highlight" Draft.highlight (fun d b => { d with highlight := some b }) Yaml.Reader.bool,
  .of "log_filter" Draft.logFilter (fun d f => { d with logFilter := some f })
    (Yaml.Reader.option Yaml.Reader.string)]

/-- Read settings from YAML. -/
def ofYaml (text : String) : Except DocumentError Settings :=
  Yaml.readRecord text label members {} fun d => .ok d.complete

/-- Settings as the lines of a YAML document. -/
def yaml (s : Settings) : String :=
  Yaml.recordText ([("version", .natural s.version.toNat),
    ("track_substitutions", .bool s.tracking), ("highlight", .bool s.highlight)] ++
      s.logFilter.toList.map fun f => ("log_filter", .string f))

end Settings

end SqlRender
