import SqlRender.Yaml.Property
import SqlRender.Yaml.Scalar

/-!
# Yaml/Lexer — tokens of a YAML text, on demand

Indentation opens and closes blocks. Whether a scalar is a key shows only at the colon behind it, so
the lexer remembers where a key may have begun and puts the key token there afterwards. A token is
handed out once no key can be put in front of it any more; text behind it is not looked at.

* `Lexer.peek?` gives the next token, `Lexer.pop` takes it away.
-/

namespace SqlRender.Yaml

/-- A place where a key may have begun. -/
structure KeyMark where
  /-- The token that would be the key's first, counted from the start of the text. -/
  token : Nat
  /-- Whether only a key can stand here. -/
  required : Bool
  index : Nat
  line : Nat
  column : Nat

/-- The state of the lexer between two tokens. -/
structure Lexer where
  cursor : Cursor
  /-- Tokens that were made and not taken. -/
  queue : List Token := []
  /-- The number of tokens taken. -/
  taken : Nat := 0
  /-- The column of the innermost block. -/
  indent : Int := -1
  /-- The columns of the blocks around it. -/
  outer : List Int := []
  /-- Where a key may have begun, for each flow level, the innermost first. -/
  marks : List (Option KeyMark) := [none]
  keyAllowed : Bool := true
  flowLevel : Nat := 0

namespace Lexer

/-- The lexer of a text. A byte order mark in front is passed; it takes a column. -/
def ofText (text : String) : Lexer :=
  let c : Cursor := { rest := text.toList }
  { cursor := if c.peek == some '\uFEFF' then c.skip 1 else c }

/-- Whether brackets or braces are open. -/
def inFlow (l : Lexer) : Bool := l.flowLevel != 0

/-- Put a token at the end. -/
def emit (l : Lexer) (t : Token) : Lexer := { l with queue := l.queue ++ [t] }

/-- Put a token in front of the one with number `n`. -/
def insert (l : Lexer) (n : Nat) (t : Token) : Lexer :=
  { l with queue := l.queue.take (n - l.taken) ++ t :: l.queue.drop (n - l.taken) }

/-! ## Keys -/

/-- A place where only a key can stand and none came. -/
def dropMark? : Option KeyMark → Option (Option KeyMark)
  | some mark => if mark.required then none else some none
  | none => some none

/-- Give up the innermost place where a key may have begun. -/
def forgetKey (l : Lexer) : Option Lexer :=
  match l.marks with
  | mark :: rest => do
    let mark ← dropMark? mark
    return { l with marks := mark :: rest }
  | [] => some l

/-- A key is on one line and shorter than 1024 characters: give up places that are too far back. -/
def forgetStale (l : Lexer) : Option Lexer := do
  let marks ← l.marks.mapM fun mark =>
    match mark with
    | some m =>
      if m.line < l.cursor.line || m.index + 1024 < l.cursor.index then dropMark? mark
      else some mark
    | none => some none
  return { l with marks := marks }

/-- Remember that a key may begin here. -/
def markKey (l : Lexer) : Option Lexer :=
  if l.keyAllowed then do
    let l ← l.forgetKey
    let mark : KeyMark := {
      token := l.taken + l.queue.length
      required := !l.inFlow && l.indent == (l.cursor.column : Int)
      index := l.cursor.index, line := l.cursor.line, column := l.cursor.column }
    return { l with marks := some mark :: l.marks.drop 1 }
  else some l

/-! ## Blocks -/

/-- Open a block at `column` if it lies deeper, its start token put by `place`. -/
def openBlock (l : Lexer) (column : Nat) (place : Lexer → Lexer) : Lexer :=
  if l.inFlow || (column : Int) ≤ l.indent then l
  else place { l with indent := column, outer := l.indent :: l.outer }

/-- Close the blocks deeper than `column`. -/
def closeBlocks (l : Lexer) (column : Int) : Lexer :=
  if l.inFlow then l
  else
    let rec go (indent : Int) (ends : List Token) : List Int → Lexer
      | [] => { l with indent := indent, outer := [], queue := l.queue ++ ends }
      | next :: outer =>
        if indent > column then go next (.blockEnd :: ends) outer
        else { l with indent := indent, outer := next :: outer, queue := l.queue ++ ends }
    go l.indent [] l.outer

/-! ## Tokens -/

/-- Pass white space, comments and line breaks in front of a token. A tab may not indent a place
where a key can begin. -/
def skipToToken : Nat → Lexer → Lexer
  | 0, l => l
  | fuel + 1, l =>
    let c := l.cursor.skipWhile fun ch => ch == ' ' || ((l.inFlow || !l.keyAllowed) && ch == '\t')
    let c := if c.peek == some '#' then c.skipWhile (!isBreak ·) else c
    if c.peek.any isBreak then
      skipToToken fuel { l with cursor := c.skipLine, keyAllowed := l.keyAllowed || !l.inFlow }
    else { l with cursor := c }

/-- Pass an indicator of `n` characters and put its token. -/
def indicator (l : Lexer) (n : Nat) (t : Token) : Lexer :=
  { l with cursor := l.cursor.skip n }.emit t

/-- The end of the text closes every block. -/
def fetchEnd (l : Lexer) : Option Lexer := do
  let c := l.cursor
  let c := if c.column = 0 then c else { c with column := 0, line := c.line + 1 }
  let l ← ({ l with cursor := c }.closeBlocks (-1)).forgetKey
  return { l with keyAllowed := false }.emit .streamEnd

/-- A directive. -/
def fetchDirective (l : Lexer) : Option Lexer := do
  let l ← (l.closeBlocks (-1)).forgetKey
  let (t, c) ← directive l.cursor
  return { l with cursor := c, keyAllowed := false }.emit t

/-- A document marker. -/
def fetchMarker (l : Lexer) (t : Token) : Option Lexer := do
  let l ← (l.closeBlocks (-1)).forgetKey
  return { l with keyAllowed := false }.indicator 3 t

/-- An opening bracket or brace. It may begin a key itself. -/
def fetchFlowStart (l : Lexer) (t : Token) : Option Lexer := do
  let l ← l.markKey
  return { l with marks := none :: l.marks, flowLevel := l.flowLevel + 1
                  keyAllowed := true }.indicator 1 t

/-- A closing bracket or brace. -/
def fetchFlowEnd (l : Lexer) (t : Token) : Option Lexer := do
  let l ← l.forgetKey
  let l := if l.inFlow then { l with marks := l.marks.drop 1, flowLevel := l.flowLevel - 1 } else l
  return { l with keyAllowed := false }.indicator 1 t

/-- A comma between brackets or braces. -/
def fetchFlowEntry (l : Lexer) : Option Lexer := do
  let l ← l.forgetKey
  return { l with keyAllowed := true }.indicator 1 .flowEntry

/-- An entry of a block sequence. -/
def fetchBlockEntry (l : Lexer) : Option Lexer := do
  if !l.inFlow && !l.keyAllowed then none
  let l := l.openBlock l.cursor.column (·.emit .blockSequenceStart)
  let l ← l.forgetKey
  return { l with keyAllowed := true }.indicator 1 .blockEntry

/-- A key given by its own indicator. -/
def fetchKey (l : Lexer) : Option Lexer := do
  if !l.inFlow && !l.keyAllowed then none
  let l := l.openBlock l.cursor.column (·.emit .blockMappingStart)
  let l ← l.forgetKey
  return { l with keyAllowed := !l.inFlow }.indicator 1 .key

/-- The colon behind a key: the key token goes where the key began. -/
def fetchValue (l : Lexer) : Option Lexer := do
  match l.marks with
  | some mark :: rest =>
    let l := l.insert mark.token .key
    let l := l.openBlock mark.column (·.insert mark.token .blockMappingStart)
    return { l with marks := none :: rest, keyAllowed := false }.indicator 1 .value
  | _ =>
    if !l.inFlow && !l.keyAllowed then none
    let l := l.openBlock l.cursor.column (·.emit .blockMappingStart)
    return { l with keyAllowed := !l.inFlow }.indicator 1 .value

/-- A token that may begin a key. -/
def fetchKeyPart (l : Lexer) (scan : Cursor → Option (Token × Cursor)) : Option Lexer := do
  let l ← l.markKey
  let (t, c) ← scan l.cursor
  return { l with cursor := c, keyAllowed := false }.emit t

/-- A scalar behind a bar or an angle bracket. -/
def fetchBlockScalar (l : Lexer) (folded : Bool) : Option Lexer := do
  let l ← l.forgetKey
  let (t, c) ← blockScalar folded l.indent l.cursor
  return { l with cursor := c, keyAllowed := true }.emit t

/-- A plain scalar. A key may follow only if it went over a line break. -/
def fetchPlain (l : Lexer) : Option Lexer := do
  let l ← l.markKey
  let (t, broke, c) ← plainScalar l.inFlow (l.indent + 1).toNat l.cursor
  return { l with cursor := c, keyAllowed := broke }.emit t

/-- Whether a plain scalar can start with `ch`, `next` being the character behind it. -/
def startsPlain (inFlow : Bool) (ch : Char) (next : Option Char) : Bool :=
  if ch = '-' then !next.any isGap
  else if ch = '?' || ch = ':' then !inFlow && !isGapOrEnd next
  else !isGap ch && !isBreak ch && !",[]\x7b\x7d#&*!|>'\"%@`".toList.contains ch

/-- Make the next token. -/
def fetch (l : Lexer) : Option Lexer := do
  let l := skipToToken (l.cursor.rest.length + 1) l
  let l ← l.forgetStale
  let l := l.closeBlocks l.cursor.column
  let c := l.cursor
  match c.peek with
  | none => l.fetchEnd
  | some ch =>
    if ch = '%' && c.column = 0 then l.fetchDirective
    else if c.atMarker "---" then l.fetchMarker .documentStart
    else if c.atMarker "..." then l.fetchMarker .documentEnd
    else
      let next := c.peekAt 1
      if ch = '[' then l.fetchFlowStart .flowSequenceStart
      else if ch = '\x7b' then l.fetchFlowStart .flowMappingStart
      else if ch = ']' then l.fetchFlowEnd .flowSequenceEnd
      else if ch = '\x7d' then l.fetchFlowEnd .flowMappingEnd
      else if ch = ',' then l.fetchFlowEntry
      else if ch = '-' && isGapOrEnd next then l.fetchBlockEntry
      else if ch = '?' && (l.inFlow || isGapOrEnd next) then l.fetchKey
      else if ch = ':' && (l.inFlow || isGapOrEnd next) then l.fetchValue
      else if ch = '*' then
        l.fetchKeyPart fun c => (anchorName c).map fun (name, c) => (.reference name, c)
      else if ch = '&' then
        l.fetchKeyPart fun c => (anchorName c).map fun (name, c) => (.anchor name, c)
      else if ch = '!' then l.fetchKeyPart (tag l.inFlow)
      else if ch = '|' && !l.inFlow then l.fetchBlockScalar false
      else if ch = '>' && !l.inFlow then l.fetchBlockScalar true
      else if ch = '\'' then l.fetchKeyPart (quotedScalar true)
      else if ch = '"' then l.fetchKeyPart (quotedScalar false)
      else if startsPlain l.inFlow ch next then l.fetchPlain
      else none

/-! ## Handing out tokens -/

/-- Whether a key token may still be put in front of the first token. -/
def mayBeKey (l : Lexer) : Bool := l.marks.any fun mark => mark.any (·.token == l.taken)

/-- Make tokens until the first one is settled. -/
def settle : Nat → Lexer → Option Lexer
  | 0, _ => none
  | fuel + 1, l =>
    if l.queue.isEmpty then l.fetch.bind (settle fuel)
    else do
      let l ← l.forgetStale
      if l.mayBeKey then l.fetch.bind (settle fuel) else return l

/-- The next token. -/
def peek? (l : Lexer) : Option (Token × Lexer) := do
  let l ← settle (l.cursor.rest.length + 4) l
  let t ← l.queue.head?
  return (t, l)

/-- Take the next token away. -/
def pop (l : Lexer) : Lexer := { l with queue := l.queue.drop 1, taken := l.taken + 1 }

end Lexer

end SqlRender.Yaml
