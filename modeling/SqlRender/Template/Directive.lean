/-!
# Template/Directive — the four markers of a template

| Marker | Directive        | Accepts                |
|--------|------------------|------------------------|
| `%c`   | `charLiteral`    | a byte or a character  |
| `%s`   | `rawText`        | bytes or a string      |
| `%v`   | `subNode`        | a node                 |
| `%a`   | `trackedLiteral` | a string               |

Everything outside a marker is copied verbatim.
-/

namespace SqlRender

/-- What a marker asks for. -/
inductive Directive where
  | charLiteral
  | rawText
  | subNode
  | trackedLiteral
  deriving DecidableEq, Repr

namespace Directive

/-- The directives that there are. -/
def all : List Directive := [.charLiteral, .rawText, .subNode, .trackedLiteral]

/-- The character after the percent sign. -/
def marker : Directive → Char
  | .charLiteral => 'c'
  | .rawText => 's'
  | .subNode => 'v'
  | .trackedLiteral => 'a'

/-- The directive that a character after a percent sign asks for. -/
def ofMarker? (c : Char) : Option Directive := all.find? (·.marker == c)

/-- The name of the directive. -/
def name : Directive → String
  | .charLiteral => "CharLiteral"
  | .rawText => "RawText"
  | .subNode => "SubNode"
  | .trackedLiteral => "TrackedLiteral"

/-- The accepted kinds of argument, as fault messages list them. -/
def expects : Directive → String
  | .charLiteral => "u8 or char"
  | .rawText => "&[u8] or &str"
  | .subNode => "a Node"
  | .trackedLiteral => "&str"

/-- The directive as a template has it. -/
def display (d : Directive) : String := "%" ++ d.marker.toString

end Directive

end SqlRender
