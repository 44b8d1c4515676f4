/-!
# Yaml/Cursor — a place in a YAML text

A cursor is the text that is still to come together with its position. Lines are told apart by line
feeds, carriage returns (alone or before a line feed), next-line marks and the two Unicode
separators.
-/

namespace SqlRender.Yaml

/-! ## Character classes -/

/-- A character that ends a line. -/
def isBreak (c : Char) : Bool :=
  c == '\r' || c == '\n' || c.toNat == 0x85 || c.toNat == 0x2028 || c.toNat == 0x2029

/-- A space or a tab. -/
def isGap (c : Char) : Bool := c == ' ' || c == '\t'

/-- A line break or the end of the text. -/
def isBreakOrEnd (c : Option Char) : Bool := c.all isBreak

/-- White space or the end of the text. -/
def isGapOrEnd (c : Option Char) : Bool := c.all fun c => isGap c || isBreak c

/-- A character of anchors and directive names. -/
def isNameChar (c : Char) : Bool := c.isAlphanum || c == '_' || c == '-'

/-- A character that a YAML text may hold. -/
def isAllowed (c : Char) : Bool :=
  let n := c.toNat
  n == 0x9 || n == 0xA || n == 0xD || (0x20 ≤ n && n ≤ 0x7E) || n == 0x85 ||
    (0xA0 ≤ n && n ≤ 0xD7FF) || (0xE000 ≤ n && n ≤ 0xFFFD) || 0x10000 ≤ n

/-! ## Cursors -/

/-- What is left of a text, and where it starts. -/
structure Cursor where
  rest : List Char
  index : Nat := 0
  line : Nat := 0
  column : Nat := 0

namespace Cursor

/-- The character in front. -/
def peek (c : Cursor) : Option Char := c.rest.head?

/-- The character `n` places ahead. -/
def peekAt (c : Cursor) (n : Nat) : Option Char := c.rest[n]?

/-- Whether a word stands in front. -/
def startsWith (c : Cursor) (word : String) : Bool := word.toList.isPrefixOf c.rest

/-- Pass `n` characters of the same line. -/
def skip (c : Cursor) (n : Nat) : Cursor :=
  { c with rest := c.rest.drop n, index := c.index + n, column := c.column + n }

/-- Pass a line break, if there is one. -/
def skipLine (c : Cursor) : Cursor :=
  match c.rest with
  | '\r' :: '\n' :: rest => ⟨rest, c.index + 2, c.line + 1, 0⟩
  | b :: rest => if isBreak b then ⟨rest, c.index + 1, c.line + 1, 0⟩ else c
  | [] => c

/-- The line break in front: a Unicode separator stands for itself, any other for a line feed. -/
def lineBreak (c : Cursor) : List Char :=
  match c.rest with
  | b :: _ =>
    if !isBreak b then []
    else if b.toNat == 0x2028 || b.toNat == 0x2029 then [b]
    else ['\n']
  | [] => []

/-- The characters of this line in front that satisfy `p`, and the cursor behind them. -/
def span (c : Cursor) (p : Char → Bool) : List Char × Cursor :=
  let taken := c.rest.takeWhile p
  (taken, c.skip taken.length)

/-- Pass the characters of this line that satisfy `p`. -/
def skipWhile (c : Cursor) (p : Char → Bool) : Cursor := (c.span p).2

/-- Whether a document marker starts the line. -/
def atMarker (c : Cursor) (word : String) : Bool :=
  c.column == 0 && c.startsWith word && isGapOrEnd (c.peekAt 3)

/-- Whether the line starts or ends a document. -/
def atDocumentMarker (c : Cursor) : Bool := c.atMarker "---" || c.atMarker "..."

end Cursor

end SqlRender.Yaml
