import SqlRender.Json.Value
import SqlRender.Yaml.Cursor
import SqlRender.Yaml.Plain

/-!
# Yaml/Writer — records as YAML text

A record is written as one line per field. A string is written plain where that reads back as the
same string, in single quotes where it would read as something else, as a block where it has line
feeds, and in double quotes where it holds what only escapes can tell.
-/

namespace SqlRender.Yaml

/-! ## Which ways of writing a string has -/

/-- Whether a character can be written as it is. -/
def isPrintable (c : Char) : Bool :=
  let n := c.toNat
  n == 0xA || (0x20 ≤ n && n ≤ 0x7E) || (0xA0 ≤ n && n ≤ 0xD7FF) ||
    (0xE000 ≤ n && n ≤ 0xFFFD && n != 0xFEFF) || 0x10000 ≤ n

/-- Whether somewhere in `cs` a character of `p` is followed by one of `q`. -/
def hasPair (p q : Char → Bool) : List Char → Bool
  | a :: b :: rest => (p a && q b) || hasPair p q (b :: rest)
  | _ => false

/-- The characters that a plain scalar cannot start with. -/
def indicators : List Char :=
  ['#', ',', '[', ']', '\x7b', '\x7d', '&', '*', '!', '|', '>', '\'', '"', '%', '@', '\x60']

/-- Whether `cs` starts like structure and not like a plain scalar. -/
def startsAsStructure (cs : List Char) : Bool :=
  "---".toList.isPrefixOf cs || "...".toList.isPrefixOf cs ||
    match cs with
    | [] => false
    | c :: rest =>
      indicators.contains c || ((c == '?' || c == ':' || c == '-') && isGapOrEnd rest.head?)

/-- Whether further on `cs` holds a mapping colon or a comment. -/
def holdsStructure : List Char → Bool
  | [] | [_] => false
  | a :: b :: rest =>
    (b == ':' && isGapOrEnd rest.head?) || (b == '#' && isGapOrEnd (some a)) ||
      holdsStructure (b :: rest)

/-- Whether a string needs escapes: it has special characters, or a space in front of a break. -/
def needsEscapes (cs : List Char) : Bool :=
  !cs.all isPrintable || hasPair (· == ' ') isBreak cs

/-- Whether a string can be written without quotes on a line. -/
def isPlainText (cs : List Char) : Bool :=
  !needsEscapes cs && !cs.any isBreak && cs.head? != some ' ' && cs.getLast? != some ' ' &&
    !startsAsStructure cs && !holdsStructure cs

/-- Whether a string can be written in single quotes. -/
def isSingleQuotable (cs : List Char) : Bool :=
  !needsEscapes cs && !hasPair isBreak (· == ' ') cs

/-- Whether a string can be written as a block. -/
def isBlockText (cs : List Char) : Bool := !needsEscapes cs && cs.getLast? != some ' '

/-- Whether a plain scalar with this text would not be read as a string by everyone. -/
def readsOtherwise (s : String) : Bool :=
  isPaddedDigits s.toList ||
    match plainValue s with
    | .string _ => false
    | _ => true

/-! ## Writing -/

/-- The blanks in front of what belongs to a field. -/
def indentation : List Char := [' ', ' ']

/-- The characters of `cs`, with indentation where a line starts; `fresh` says that one starts. -/
def indented (fresh : Bool) : List Char → List Char
  | [] => []
  | c :: rest =>
    if isBreak c then c :: indented true rest
    else (if fresh then indentation else []) ++ c :: indented false rest

/-- The inside of single quotes: quotes doubled, lines indented. -/
def singleQuotedBody (cs : List Char) : List Char :=
  indented false (cs.flatMap fun c => if c = '\'' then ['\'', '\''] else [c]) ++
    if cs.getLast?.any isBreak then indentation else []

/-- A string between single quotes. -/
def singleQuoted (cs : List Char) : List Char := '\'' :: singleQuotedBody cs ++ ['\'']

/-- The letters of the short escapes. -/
def shortEscapes : List (Nat × Char) := [
  (0x0, '0'), (0x7, 'a'), (0x8, 'b'), (0x9, 't'), (0xA, 'n'), (0xB, 'v'), (0xC, 'f'), (0xD, 'r'),
  (0x1B, 'e'), (0x22, '"'), (0x5C, '\\'), (0x85, 'N'), (0x2028, 'L'), (0x2029, 'P')]

/-- The number `n` in `digits` digits of base sixteen. -/
def hexDigits : Nat → Nat → List Char
  | 0, _ => []
  | digits + 1, n => hexDigits digits (n / 16) ++ [(Json.hexDigit (n % 16)).toUpper]

/-- A character inside double quotes. -/
def escaped (c : Char) : List Char :=
  let n := c.toNat
  match shortEscapes.lookup n with
  | some letter => ['\\', letter]
  | none =>
    if isPrintable c then [c]
    else if n ≤ 0xFF then '\\' :: 'x' :: hexDigits 2 n
    else if n ≤ 0xFFFF then '\\' :: 'u' :: hexDigits 4 n
    else '\\' :: 'U' :: hexDigits 8 n

/-- A string between double quotes, with escapes. -/
def doubleQuoted (cs : List Char) : List Char := '"' :: cs.flatMap escaped ++ ['"']

/-- What stands behind the bar of a block: a digit if the block starts with a blank, and how its end
is to be kept. -/
def blockHints (cs : List Char) : List Char :=
  (if cs.head?.any (fun c => c == ' ' || isBreak c) then ['2'] else []) ++
    match cs.reverse with
    | [] => ['-']
    | [last] => if isBreak last then ['+'] else ['-']
    | last :: before :: _ => if !isBreak last then ['-'] else if isBreak before then ['+'] else []

/-- A string as a block of lines. -/
def literalBlock (cs : List Char) : List Char := '|' :: blockHints cs ++ '\n' :: indented true cs

/-- A string as the value of a field. -/
def stringChars (s : String) : List Char :=
  let cs := s.toList
  if cs.contains '\n' then if isBlockText cs then literalBlock cs else doubleQuoted cs
  else if isPlainText cs && !readsOtherwise s then cs
  else if isSingleQuotable cs then singleQuoted cs
  else doubleQuoted cs

/-- A field on a line of its own. -/
def fieldLine (name : String) (value : List Char) : List Char :=
  name.toList ++ ':' :: ' ' :: value ++ if value.getLast?.any isBreak then [] else ['\n']

/-- A value that a field can have. -/
inductive FieldValue where
  | natural (n : Nat)
  | bool (b : Bool)
  | string (s : String)

/-- The text of a value. -/
def FieldValue.chars : FieldValue → List Char
  | .natural n => (toString n).toList
  | .bool b => (if b then "true" else "false").toList
  | .string s => stringChars s

/-- The fields of a record. -/
def recordText (fields : List (String × FieldValue)) : String :=
  String.ofList (fields.flatMap fun (name, v) => fieldLine name v.chars)

end SqlRender.Yaml
