/-!
# Template/Slot — a template cut at its markers

A template is a sequence of slots, each a run of literal text and the marker behind it, and a last
literal run. A percent sign always begins a marker; there is no way to write a literal one.
-/

namespace SqlRender

/-- A marker and the literal run in front of it. -/
structure Slot where
  before : List Char
  /-- The byte position of the percent sign. -/
  offset : Nat
  /-- The character behind the percent sign, if there is one. -/
  marker : Option Char
  deriving DecidableEq, Repr

/-- A template as slots and the literal run behind the last one. -/
structure Slots where
  slots : List Slot
  tail : List Char
  deriving DecidableEq, Repr

/-- Put a literal character in front. -/
def Slots.cons (c : Char) : Slots → Slots
  | ⟨[], tail⟩ => ⟨[], c :: tail⟩
  | ⟨s :: rest, tail⟩ => ⟨{ s with before := c :: s.before } :: rest, tail⟩

/-- Cut `template`, which starts at byte `pos`. -/
def Slots.cut (pos : Nat) : List Char → Slots
  | [] => ⟨[], []⟩
  | ['%'] => ⟨[⟨[], pos, none⟩], []⟩
  | '%' :: m :: rest =>
    let after := cut (pos + 1 + m.utf8Size) rest
    ⟨⟨[], pos, some m⟩ :: after.slots, after.tail⟩
  | c :: rest => (cut (pos + c.utf8Size) rest).cons c

/-- The slots of a template. -/
def Slots.ofTemplate (template : String) : Slots := cut 0 template.toList

end SqlRender
