/-!
# Text/Utf8 — byte strings as text, and where they fail to be text

* `decode` reads bytes that are text and names the first defect of those that are not;
* `lossy` reads any bytes, putting U+FFFD for each longest run that starts a character and cannot
  finish it.

Defects are found by an octet machine. Inside a character it owes a number of continuation octets
and knows the least and the greatest octet that may come next; an octet outside these bounds closes
the run before it and is read afresh.
-/

namespace SqlRender.Utf8

/-- The first place where bytes are not text. `length` is the length of the offending run, or
`none` when the bytes end inside a character. -/
structure Defect where
  index : Nat
  length : Option Nat
  deriving DecidableEq, Repr

/-- The text of a defect. -/
def Defect.message (d : Defect) : String :=
  let index := d.index
  match d.length with
  | some length => s!"invalid utf-8 sequence of {length} bytes from index {index}"
  | none => s!"incomplete utf-8 byte sequence from index {index}"

/-- A character some of whose octets are still owed. -/
structure Pending where
  start : Nat
  seen : Nat
  owed : Nat
  least : UInt8
  greatest : UInt8
  code : Nat

/-- The machine between two octets. -/
structure Scan where
  index : Nat := 0
  pending : Option Pending := none
  text : String := ""
  defect : Option Defect := none

/-- The character that octet `b` opens, if it opens a longer one. -/
def opening (index : Nat) (b : UInt8) : Option Pending :=
  let owing (owed : Nat) (mask least greatest : UInt8) : Option Pending :=
    some ⟨index, 1, owed, least, greatest, (b &&& mask).toNat⟩
  if b < 0xC2 then none
  else if b ≤ 0xDF then owing 1 0x1F 0x80 0xBF
  else if b = 0xE0 then owing 2 0x0F 0xA0 0xBF
  else if b = 0xED then owing 2 0x0F 0x80 0x9F
  else if b ≤ 0xEF then owing 2 0x0F 0x80 0xBF
  else if b = 0xF0 then owing 3 0x07 0x90 0xBF
  else if b ≤ 0xF3 then owing 3 0x07 0x80 0xBF
  else if b = 0xF4 then owing 3 0x07 0x80 0x8F
  else none

/-- The character that stands for what is no text. -/
def replacement : Char := '\uFFFD'

/-- Close a run that is no character; the first one is the defect. -/
def Scan.refuse (s : Scan) (start : Nat) (length : Option Nat) : Scan :=
  { s with pending := none, text := s.text.push replacement
           defect := s.defect.or (some ⟨start, length⟩) }

/-- Read an octet between characters. -/
def Scan.start (s : Scan) (b : UInt8) : Scan :=
  if b < 0x80 then { s with index := s.index + 1, text := s.text.push (Char.ofNat b.toNat) }
  else match opening s.index b with
    | some p => { s with index := s.index + 1, pending := some p }
    | none => { s.refuse s.index (some 1) with index := s.index + 1 }

/-- Read an octet. -/
def Scan.step (s : Scan) (b : UInt8) : Scan :=
  match s.pending with
  | none => s.start b
  | some p =>
    if p.least ≤ b && b ≤ p.greatest then
      let code := p.code * 64 + (b &&& 0x3F).toNat
      if p.owed ≤ 1 then
        { s with index := s.index + 1, pending := none, text := s.text.push (Char.ofNat code) }
      else
        { s with index := s.index + 1
                 pending := some ⟨p.start, p.seen + 1, p.owed - 1, 0x80, 0xBF, code⟩ }
    else (s.refuse p.start (some p.seen)).start b

/-- No octet is left: a character still owed is cut off. -/
def Scan.finish (s : Scan) : Scan :=
  match s.pending with
  | none => s
  | some p => s.refuse p.start none

/-- Run the machine over all octets. -/
def scan (bytes : ByteArray) : Scan := (bytes.data.foldl Scan.step {}).finish

/-- The text that `bytes` encode, or the first defect. -/
def decode (bytes : ByteArray) : Except Defect String :=
  match String.fromUTF8? bytes with
  | some text => .ok text
  | none => .error ((scan bytes).defect.getD ⟨0, none⟩)

/-- The text of `bytes`, with U+FFFD in place of what is no text. -/
def lossy (bytes : ByteArray) : String :=
  match String.fromUTF8? bytes with
  | some text => text
  | none => (scan bytes).text

end SqlRender.Utf8
