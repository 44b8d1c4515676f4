import SqlRender.Json.Reading
import SqlRender.Text.Utf8
import SqlRender.Yaml.Cursor
import SqlRender.Yaml.Token

/-!
# Yaml/Property — directives, anchors and tags
-/

namespace SqlRender.Yaml

/-! ## Anchors -/

/-- The name of an anchor or alias behind its indicator. -/
def anchorName (c : Cursor) : Option (String × Cursor) :=
  let (name, c) := (c.skip 1).span isNameChar
  if name.isEmpty then none
  else if isGapOrEnd c.peek || c.peek.any ("?:,]\x7d%@`".toList.contains ·) then
    some (String.ofList name, c)
  else none

/-! ## Tags -/

/-- A tag handle: exclamation marks around a name, or the mark alone with what follows it. -/
def tagHandle (inDirective : Bool) (c : Cursor) : Option (List Char × Cursor) :=
  if c.peek != some '!' then none
  else
    let (name, c) := (c.skip 1).span isNameChar
    if c.peek == some '!' then some ('!' :: (name ++ ['!']), c.skip 1)
    else if inDirective && !name.isEmpty then none
    else some ('!' :: name, c)

/-- A character of a tag; the verbatim form also takes flow indicators. -/
def isTagChar (verbatim : Bool) (c : Char) : Bool :=
  isNameChar c || ";/?:@&=+$.!~*'()%".toList.contains c || (verbatim && ",[]".toList.contains c)

/-- The length of the character that octet `b` starts. -/
def octetWidth? (b : Nat) : Option Nat :=
  if b < 0x80 then some 1
  else if b / 0x20 = 6 then some 2
  else if b / 0x10 = 14 then some 3
  else if b / 0x08 = 30 then some 4
  else none

/-- One octet given by a percent sign and two digits. -/
def percentOctet? (c : Cursor) : Option (Nat × Cursor) := do
  if c.peek != some '%' then none
  let a ← (c.peekAt 1).bind Reading.hexValue?
  let b ← (c.peekAt 2).bind Reading.hexValue?
  return (a * 16 + b, c.skip 3)

/-- Continuation octets. -/
def tailOctets : Nat → Cursor → List Nat → Option (List Nat × Cursor)
  | 0, c, octets => some (octets.reverse, c)
  | n + 1, c, octets => do
    let (b, c) ← percentOctet? c
    if b / 0x40 ≠ 2 then none
    tailOctets n c (b :: octets)

/-- A character given by its octets. -/
def percentChar? (c : Cursor) : Option (Char × Cursor) := do
  let (b, c) ← percentOctet? c
  let width ← octetWidth? b
  let (octets, c) ← tailOctets (width - 1) c [b]
  let text := Utf8.lossy ⟨(octets.map (·.toUInt8)).toArray⟩
  return (text.toList.headD Utf8.replacement, c)

/-- The characters of a tag. -/
def tagText (verbatim : Bool) : Nat → Cursor → List Char → Option (List Char × Cursor)
  | 0, c, text => some (text.reverse, c)
  | fuel + 1, c, text =>
    match c.peek with
    | some '%' => do
      let (ch, c) ← percentChar? c
      tagText verbatim fuel c (ch :: text)
    | some ch =>
      if isTagChar verbatim ch then tagText verbatim fuel (c.skip 1) (ch :: text)
      else some (text.reverse, c)
    | none => some (text.reverse, c)

/-- A tag from its exclamation mark on. -/
def tag (inFlow : Bool) (c : Cursor) : Option (Token × Cursor) := do
  let (token, c) ←
    if c.peekAt 1 = some '<' then do
      let (suffix, c) ← tagText true c.rest.length (c.skip 2) []
      if suffix.isEmpty || c.peek != some '>' then none
      pure (Token.tag "" (String.ofList suffix), c.skip 1)
    else do
      let (handle, c) ← tagHandle false c
      if 2 ≤ handle.length && handle.getLast? == some '!' then do
        let (suffix, c) ← tagText false c.rest.length c []
        if suffix.isEmpty then none
        pure (Token.tag (String.ofList handle) (String.ofList suffix), c)
      else do
        let (rest, c) ← tagText false c.rest.length c []
        let suffix := handle.drop 1 ++ rest
        if suffix.isEmpty then pure (Token.tag "" "!", c)
        else pure (Token.tag "!" (String.ofList suffix), c)
  if isGapOrEnd c.peek || (inFlow && c.peek == some ',') then return (token, c) else none

/-! ## Directives -/

/-- A version number of at most nine digits. -/
def versionNumber (c : Cursor) : Option (Nat × Cursor) :=
  let (ds, c) := c.span Char.isDigit
  if ds.isEmpty || ds.length > 9 then none else some (Reading.digitsValue ds, c)

/-- A directive from its percent sign on, its line included. -/
def directive (c : Cursor) : Option (Token × Cursor) := do
  let (name, c) := (c.skip 1).span isNameChar
  if name.isEmpty || !isGapOrEnd c.peek then none
  let c := c.skipWhile isGap
  let (token, c) ←
    if name = "YAML".toList then do
      let (major, c) ← versionNumber c
      if c.peek != some '.' then none
      let (minor, c) ← versionNumber (c.skip 1)
      pure (Token.version major minor, c)
    else if name = "TAG".toList then do
      let (handle, c) ← tagHandle true c
      if !c.peek.any isGap then none
      let (stem, c) ← tagText true c.rest.length (c.skipWhile isGap) []
      if stem.isEmpty || !isGapOrEnd c.peek then none
      pure (Token.tagDirective (String.ofList handle) (String.ofList stem), c)
    else none
  let c := c.skipWhile isGap
  let c := if c.peek == some '#' then c.skipWhile (!isBreak ·) else c
  if isBreakOrEnd c.peek then return (token, c.skipLine) else none

end SqlRender.Yaml
