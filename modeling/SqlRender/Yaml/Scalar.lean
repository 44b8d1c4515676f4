import SqlRender.Json.Reading
import SqlRender.Yaml.Cursor
import SqlRender.Yaml.Token

/-!
# Yaml/Scalar — the text of scalars

Each function reads one scalar in front of a cursor. Line breaks inside flow scalars and folded
blocks are folded: one break between two lines becomes a space, and more breaks lose their first.

Loops pass at least one character on each round, so the length of the text is fuel enough.
-/

namespace SqlRender.Yaml

/-- Breaks met between two words: the first one, and those behind it. -/
structure Breaks where
  first : List Char := []
  others : List Char := []

/-- What breaks between two words of a folded text become. -/
def Breaks.fold (b : Breaks) : List Char :=
  if b.first = ['\n'] then (if b.others.isEmpty then [' '] else b.others)
  else b.first ++ b.others

/-- Blanks and breaks between two words: the blanks, and the breaks once there is one. -/
structure Between where
  blanks : List Char := []
  breaks : Option Breaks := none

/-- What stands for the space between two words. -/
def Between.text (b : Between) : List Char :=
  match b.breaks with
  | some breaks => breaks.fold
  | none => b.blanks

/-- Pass blanks and breaks. Blanks behind a break are dropped; a tab behind a break may not stand
left of column `indent`. -/
def scanBetween (indent : Nat) : Nat → Cursor → Between → Option (Between × Cursor)
  | 0, c, b => some (b, c)
  | fuel + 1, c, b =>
    match c.peek with
    | none => some (b, c)
    | some ch =>
      if isGap ch then
        match b.breaks with
        | none => scanBetween indent fuel (c.skip 1) { b with blanks := b.blanks ++ [ch] }
        | some _ =>
          if ch = '\t' ∧ c.column < indent then none
          else scanBetween indent fuel (c.skip 1) b
      else if isBreak ch then
        let breaks : Breaks := match b.breaks with
          | none => ⟨c.lineBreak, []⟩
          | some breaks => ⟨breaks.first, breaks.others ++ c.lineBreak⟩
        scanBetween indent fuel c.skipLine ⟨[], some breaks⟩
      else some (b, c)

/-! ## Plain scalars -/

/-- Whether a plain scalar ends in front of the cursor. In a flow, a colon before a flow indicator
is an error, given as `none`. -/
def plainEnds? (inFlow : Bool) (c : Cursor) : Option Bool :=
  match c.peek with
  | none => some true
  | some ch =>
    if isGap ch || isBreak ch then some true
    else if ch = ':' then
      if inFlow && (c.peekAt 1).any (",?[]\x7b\x7d".toList.contains ·) then none
      else some (isGapOrEnd (c.peekAt 1))
    else some (inFlow && ",[]\x7b\x7d".toList.contains ch)

/-- The characters of a plain scalar up to the next gap or indicator. -/
def plainWord (inFlow : Bool) : Nat → Cursor → List Char → Option (List Char × Cursor)
  | 0, c, word => some (word.reverse, c)
  | fuel + 1, c, word => do
    if ← plainEnds? inFlow c then return (word.reverse, c)
    match c.peek with
    | none => return (word.reverse, c)
    | some ch => plainWord inFlow fuel (c.skip 1) (ch :: word)

/-- The words of a plain scalar. The result says whether it ended behind a line break. -/
def plainWords (inFlow : Bool) (indent : Nat) :
    Nat → Cursor → List Char → Between → Option (List Char × Bool × Cursor)
  | 0, _, _, _ => none
  | fuel + 1, c, text, between => do
    let broke := between.breaks.isSome
    if c.atDocumentMarker || c.peek == some '#' then return (text, broke, c)
    let (word, c') ← plainWord inFlow (c.rest.length + 1) c []
    let text := if word.isEmpty then text else text ++ between.text ++ word
    let between : Between := if word.isEmpty then between else {}
    let broke := between.breaks.isSome
    if !(c'.peek.any fun ch => isGap ch || isBreak ch) then return (text, broke, c')
    let (between, c'') ← scanBetween indent (c'.rest.length + 1) c' between
    if !inFlow && c''.column < indent then return (text, between.breaks.isSome, c'')
    plainWords inFlow indent fuel c'' text between

/-- A plain scalar, and whether it ended behind a line break. -/
def plainScalar (inFlow : Bool) (indent : Nat) (c : Cursor) : Option (Token × Bool × Cursor) := do
  let (text, broke, c) ← plainWords inFlow indent (c.rest.length + 1) c [] {}
  return (.scalar (String.ofList text) .plain, broke, c)

/-! ## Quoted scalars -/

/-- A number of hexadecimal digits as a character. -/
def hexChar? (n : Nat) (c : Cursor) : Option Char := do
  let ds := c.rest.take n
  if ds.length < n then none
  let value ← ds.foldlM (fun v d => (Reading.hexValue? d).map (v * 16 + ·)) 0
  if (0xD800 ≤ value ∧ value ≤ 0xDFFF) ∨ value > 0x10FFFF then none
  else some (Char.ofNat value)

/-- The character of an escape that is named by one character. -/
def namedEscape? : Char → Option Char
  | '0' => some '\x00'
  | 'a' => some '\x07'
  | 'b' => some '\x08'
  | 't' | '\t' => some '\t'
  | 'n' => some '\n'
  | 'v' => some '\x0b'
  | 'f' => some '\x0c'
  | 'r' => some '\r'
  | 'e' => some '\x1b'
  | ' ' => some ' '
  | '"' => some '"'
  | '/' => some '/'
  | '\\' => some '\\'
  | 'N' => some '\u0085'
  | '_' => some '\u00a0'
  | 'L' => some '\u2028'
  | 'P' => some '\u2029'
  | _ => none

/-- An escape behind its backslash. -/
def escape? (c : Cursor) : Option (Char × Cursor) := do
  let name ← c.peek
  match name with
  | 'x' => return (← hexChar? 2 (c.skip 1), c.skip 3)
  | 'u' => return (← hexChar? 4 (c.skip 1), c.skip 5)
  | 'U' => return (← hexChar? 8 (c.skip 1), c.skip 9)
  | name => return (← namedEscape? name, c.skip 1)

/-- The characters of a quoted scalar up to a gap or its closing quote. The flag says that an
escaped line break ended them. -/
def quotedWord (single : Bool) : Nat → Cursor → List Char → Option (List Char × Bool × Cursor)
  | 0, c, word => some (word.reverse, false, c)
  | fuel + 1, c, word =>
    match c.peek with
    | none => some (word.reverse, false, c)
    | some ch =>
      if isGap ch || isBreak ch then some (word.reverse, false, c)
      else if single then
        if ch = '\'' then
          if c.peekAt 1 = some '\'' then quotedWord single fuel (c.skip 2) ('\'' :: word)
          else some (word.reverse, false, c)
        else quotedWord single fuel (c.skip 1) (ch :: word)
      else if ch = '"' then some (word.reverse, false, c)
      else if ch = '\\' then
        if (c.peekAt 1).any isBreak then some (word.reverse, true, (c.skip 1).skipLine)
        else do
          let (ch, c) ← escape? (c.skip 1)
          quotedWord single fuel c (ch :: word)
      else quotedWord single fuel (c.skip 1) (ch :: word)

/-- The words of a quoted scalar up to its closing quote. -/
def quotedWords (single : Bool) : Nat → Cursor → List Char → Option (List Char × Cursor)
  | 0, _, _ => none
  | fuel + 1, c, text => do
    if c.atDocumentMarker || c.rest.isEmpty then none
    let (word, escaped, c) ← quotedWord single (c.rest.length + 1) c []
    let text := text ++ word
    if c.peek == some (if single then '\'' else '"') then return (text, c)
    let start : Between := if escaped then ⟨[], some {}⟩ else {}
    let (between, c) ← scanBetween 0 (c.rest.length + 1) c start
    quotedWords single fuel c (text ++ between.text)

/-- A quoted scalar from its opening quote on. -/
def quotedScalar (single : Bool) (c : Cursor) : Option (Token × Cursor) := do
  let c := c.skip 1
  let (text, c) ← quotedWords single (c.rest.length + 1) c []
  return (.scalar (String.ofList text) (if single then .singleQuoted else .doubleQuoted), c.skip 1)

/-! ## Block scalars -/

/-- What becomes of the line breaks at the end of a block. -/
inductive Chomp where
  | strip
  | clip
  | keep
  deriving DecidableEq

/-- The sign that says what becomes of the line breaks. -/
def chomp? : Option Char → Option Chomp
  | some '+' => some .keep
  | some '-' => some .strip
  | _ => none

/-- An indentation digit in front; zero is refused. -/
def indentDigit? (c : Cursor) : Option (Option Nat × Cursor) :=
  match c.peek with
  | some d =>
    if d = '0' then none
    else if d.isDigit then some (some (d.toNat - 0x30), c.skip 1)
    else some (none, c)
  | none => some (none, c)

/-- The header behind the block indicator: how to chomp and an indentation, in either order. -/
def blockHeader (c : Cursor) : Option (Chomp × Option Nat × Cursor) := do
  match chomp? c.peek with
  | some chomp =>
    let (digit, c) ← indentDigit? (c.skip 1)
    return (chomp, digit, c)
  | none =>
    let (digit, c) ← indentDigit? c
    match digit, chomp? c.peek with
    | some _, some chomp => return (chomp, digit, c.skip 1)
    | _, _ => return (.clip, digit, c)

/-- The end of a header line: blanks, a comment, the break. -/
def headerEnd (c : Cursor) : Option Cursor :=
  let c := c.skipWhile isGap
  let c := if c.peek == some '#' then c.skipWhile (!isBreak ·) else c
  if isBreakOrEnd c.peek then some c.skipLine else none

/-- Pass empty lines and the indentation of the next line. With no indentation given yet, all
leading spaces count; the widest run is returned. -/
def blockBreaks (indent : Option Nat) :
    Nat → Cursor → List Char → Nat → Option (List Char × Nat × Cursor)
  | 0, c, breaks, widest => some (breaks, widest, c)
  | fuel + 1, c, breaks, widest =>
    let spaces := (c.rest.takeWhile (· == ' ')).length
    let c := c.skip (match indent with
      | some n => min spaces (n - c.column)
      | none => spaces)
    let widest := max widest c.column
    if (indent.all (c.column < ·)) && c.peek == some '\t' then none
    else if c.peek.any isBreak then
      blockBreaks indent fuel c.skipLine (breaks ++ c.lineBreak) widest
    else some (breaks, widest, c)

/-- The lines of a block, with the break behind the last line and the breaks behind that one. -/
def blockLines (folded : Bool) (indent : Nat) :
    Nat → Cursor → List Char → List Char → List Char → Bool →
      Option (List Char × List Char × List Char × Cursor)
  | 0, c, text, lead, trail, _ => some (text, lead, trail, c)
  | fuel + 1, c, text, lead, trail, leadingBlank =>
    if c.column = indent ∧ !c.rest.isEmpty then do
      let startsBlank := c.peek.any isGap
      let joined :=
        if folded && lead == ['\n'] && !leadingBlank && !startsBlank then
          (if trail.isEmpty then [' '] else [])
        else lead
      let (line, c) := c.span (!isBreak ·)
      let text := text ++ joined ++ trail ++ line
      let lead := c.lineBreak
      let c := c.skipLine
      let (trail, _, c) ← blockBreaks (some indent) (c.rest.length + 1) c [] 0
      blockLines folded indent fuel c text lead trail startsBlank
    else some (text, lead, trail, c)

/-- A block scalar from its indicator on, inside a block indented by `parent`. -/
def blockScalar (folded : Bool) (parent : Int) (c : Cursor) : Option (Token × Cursor) := do
  let (chomp, digit, c) ← blockHeader (c.skip 1)
  let c ← headerEnd c
  let given : Option Nat := digit.map fun n => (max parent 0).toNat + n
  let (trail, widest, c) ← blockBreaks given (c.rest.length + 1) c [] 0
  let indent := given.getD (max (max widest (parent + 1).toNat) 1)
  let (text, lead, trail, c) ← blockLines folded indent (c.rest.length + 1) c [] [] trail false
  let text := text ++ (if chomp = .strip then [] else lead) ++
    (if chomp = .keep then trail else [])
  return (.scalar (String.ofList text) (if folded then .folded else .literal), c)

end SqlRender.Yaml
