import SqlRender.Text.Alphanumeric
import SqlRender.Text.Blank
import SqlRender.Command.Log

/-!
# Command/Filter — which log records are shown

A filter is a list of directives with commas between them. A directive names a threshold, a target,
or both with an equals sign between; in brackets behind the target it can name a span and, in braces
inside them, fields. The most telling directive that fits a record decides about it. Nothing here
runs inside a span, so a directive that names one, or a value of a field, lets no record through.
-/

namespace SqlRender

/-- What a directive that could be read says. -/
structure FilterDirective where
  threshold : Threshold := Threshold.trace
  target : Option String := none
  /-- The fields that a record must have. -/
  fields : List String := []
  /-- Whether it holds only inside a span, or only for a value of a field. -/
  conditional : Bool := false
  deriving DecidableEq, Repr

/-- Why a directive could not be read. -/
inductive FilterError where
  | directive
  | level
  deriving DecidableEq, Repr

/-- The line that tells a user why a filter is not used. -/
def FilterError.message : FilterError → String
  | .directive => "invalid filter directive"
  | .level =>
    "error parsing level filter: expected one of \"off\", \"error\", \"warn\", \"info\", " ++
      "\"debug\", \"trace\", or a number 0-5"

namespace FilterDirective

/-- What a directive may start with, apart from a bracket. -/
def isStart (c : Char) : Bool := c == '-' || c == ':' || c == '_' || isAlphanumeric c

/-- Where the reading of a directive stands. Numbers are positions in it. -/
inductive Stage where
  | start
  | levelOrTarget (start : Nat)
  | span (start : Nat)
  | field (start : Nat)
  | fields
  | target
  | level (start : Nat)

/-- The characters from `start` up to `stop`. -/
def cut (text : List Char) (start stop : Nat) : String :=
  String.ofList ((text.take stop).drop start)

/-- Add a field, which may carry a value behind an equals sign. -/
def addField (d : FilterDirective) (field : String) : Except FilterError FilterDirective :=
  let cs := field.toList
  if cs.isEmpty then .error .directive
  else .ok { d with
    fields := d.fields ++ [String.ofList (cs.takeWhile (· != '='))]
    conditional := d.conditional || cs.contains '=' }

/-- Read the character at position `i`. -/
def step (text : List Char) (d : FilterDirective) (i : Nat) (c : Char) :
    Stage → Except FilterError (FilterDirective × Stage)
  | .start =>
    if c = '[' then .ok (d, .span (i + 1))
    else if isStart c then .ok (d, .levelOrTarget i)
    else .error .directive
  | .levelOrTarget start =>
    if c = '=' then .ok ({ d with target := some (cut text start i) }, .level (i + 1))
    else if c = '[' then .ok ({ d with target := some (cut text start i) }, .span (i + 1))
    else .ok (d, .levelOrTarget start)
  | .span start =>
    if c = ']' then .ok ({ d with conditional := true }, .target)
    else if c = '\x7b' then
      .ok ({ d with conditional := d.conditional || start != i }, .field (i + 1))
    else .ok (d, .span start)
  | .field start =>
    if c = '\x7d' then do return (← d.addField (cut text start i), .fields)
    else .ok (d, .field start)
  | .fields => if c = ']' then .ok (d, .target) else .error .directive
  | .target => if c = '=' then .ok (d, .level (i + 1)) else .error .directive
  | .level start => .ok (d, .level start)

/-- Read the characters `cs`, the first of which is at position `i`. -/
def scan (text : List Char) :
    FilterDirective → Nat → Stage → List Char → Except FilterError (FilterDirective × Stage)
  | d, _, stage, [] => .ok (d, stage)
  | d, i, stage, c :: rest => do
    let (d, stage) ← d.step text i c stage
    scan text d (i + 1) stage rest

/-- Read a directive. Blanks at its ends are not read, but positions are those of the whole. -/
def parse (text : String) : Except FilterError FilterDirective := do
  let cs := text.toList
  let trimmed := (trimEnd text).toList.dropWhile isBlank
  let (d, stage) ← scan cs {} 0 .start trimmed
  match stage with
  | .levelOrTarget start =>
    let word := String.ofList (cs.drop start)
    match Threshold.ofText? word with
    | some t => return { d with threshold := t }
    | none => return { d with target := some word }
  | .level start =>
    if start ≥ cs.length then return d
    match Threshold.ofText? (String.ofList (cs.drop start)) with
    | some t => return { d with threshold := t }
    | none => throw .level
  | .target => return d
  | _ => throw .directive

/-- Whether a directive speaks about a record. -/
def fits (d : FilterDirective) (r : LogRecord) : Bool :=
  !d.conditional && d.target.all (fun t => t.toList.isPrefixOf r.target.toList) &&
    d.fields.all fun f => f == "message" || r.fields.any (·.1 == f)

/-- How much a target tells: the longer, the more. -/
def weight (d : FilterDirective) : Nat :=
  match d.target with
  | none => 0
  | some t => t.utf8ByteSize + 1

/-- Whether `d`, coming after `e`, counts instead of it: its target tells more, or then it has more
fields, or then their names do not come first in order. -/
def outranks (d e : FilterDirective) : Bool :=
  if d.weight != e.weight then e.weight < d.weight
  else if d.fields.length != e.fields.length then e.fields.length < d.fields.length
  else !(d.fields < e.fields)

end FilterDirective

/-- A filter is its directives. Without any, errors are shown. -/
structure Filter where
  directives : List FilterDirective
  deriving DecidableEq, Repr

namespace Filter

/-- Whether a filter shows a record: the most telling directive that fits it decides. -/
def shows (f : Filter) (r : LogRecord) : Bool :=
  let directives :=
    if f.directives.isEmpty then [{ threshold := Level.error.rank }] else f.directives
  let best := (directives.filter (·.fits r)).foldl (fun (best : Option FilterDirective) d =>
    match best with
    | none => some d
    | some b => some (if d.outranks b then d else b)) none
  best.any (·.threshold.admits r.level)

/-- Cut a text at its commas. -/
def splitCommas : List Char → List (List Char)
  | [] => [[]]
  | c :: rest =>
    if c = ',' then [] :: splitCommas rest
    else
      match splitCommas rest with
      | [] => [[c]]
      | p :: ps => (c :: p) :: ps

/-- The texts of the directives in a filter. -/
def texts (text : String) : List String :=
  ((splitCommas text.toList).filter (!·.isEmpty)).map String.ofList

/-- A filter all of whose directives can be read. -/
def parse? (text : String) : Option Filter :=
  ((texts text).mapM fun t => (FilterDirective.parse t).toOption).map Filter.mk

/-- A filter of those directives that can be read, and a remark about each of the others. -/
def parseLossy (text : String) : Filter × List String :=
  let parsed := (texts text).map fun t => (t, FilterDirective.parse t)
  (⟨parsed.filterMap fun (_, d) => d.toOption⟩,
    parsed.filterMap fun (t, d) =>
      match d with
      | .ok _ => none
      | .error e => some ("ignoring `" ++ t ++ "`: " ++ e.message))

end Filter

end SqlRender
