import SqlRender.Span
import SqlRender.Text.Utf8
import SqlRender.Template.Node
import SqlRender.Template.Scan

/-!
# Buffer — text that grows by filling templates

A buffer only grows. While tracking is on it records the span of every tracked literal. Writing
fills one template after the other; a fault stops it and keeps what was written before.

Writing follows the tree of nodes and calls, so it always ends.
-/

namespace SqlRender

/-- Something the buffer was asked to do, for its journal. -/
inductive BufferEvent where
  | interpret (template : String) (args : Nat)
  | tracked (span : Span)
  deriving DecidableEq, Repr

/-- Rendered bytes, the spans of tracked literals while tracking is on, and a journal. -/
structure Buffer where
  bytes : ByteArray := .empty
  tracked : Option (Array Span) := none
  journal : Array BufferEvent := #[]
  deriving Inhabited

/-- A buffer after writing, and the fault that stopped the writing, if one did. -/
structure Progress where
  buffer : Buffer
  fault : Option Fault := none

/-- Go on unless a fault has occurred. -/
def Progress.andThen (p : Progress) (next : Buffer → Progress) : Progress :=
  match p.fault with
  | none => next p.buffer
  | some _ => p

namespace Buffer

/-- An empty buffer. -/
def new (tracking : Bool) : Buffer := { tracked := if tracking then some #[] else none }

/-- Whether spans are being recorded. -/
def isTracking (b : Buffer) : Bool := b.tracked.isSome

/-- The spans of tracked literals, in the order they were written. None while tracking is off. -/
def spans (b : Buffer) : Array Span := b.tracked.getD #[]

/-- The number of bytes written so far. -/
def size (b : Buffer) : Nat := b.bytes.size

/-- Append bytes. -/
def append (b : Buffer) (bs : ByteArray) : Buffer := { b with bytes := b.bytes ++ bs }

/-- Append a string. -/
def appendString (b : Buffer) (s : String) : Buffer := b.append s.toUTF8

/-- Put an event at the end of the journal. -/
def note (b : Buffer) (e : BufferEvent) : Buffer := { b with journal := b.journal.push e }

/-- Append a tracked literal and record its span while tracking is on. -/
def appendTracked (b : Buffer) (s : String) : Buffer :=
  let span : Span := ⟨b.size, s.utf8ByteSize⟩
  let b' := b.appendString s
  match b.tracked with
  | none => b'
  | some spans => { b'.note (.tracked span) with tracked := some (spans.push span) }

/-- Stop with a fault. -/
def stop (b : Buffer) (f : Fault) : Progress := ⟨b, some f⟩

mutual

/-- Write a node: make its calls in order. -/
def writeNode : Node → Buffer → Progress
  | ⟨_, calls⟩, b => writeCalls calls b

/-- Make calls in order. -/
def writeCalls : List Call → Buffer → Progress
  | [], b => ⟨b, none⟩
  | c :: rest, b => (writeCall c b).andThen (writeCalls rest)

/-- Fill one template. -/
def writeCall : Call → Buffer → Progress
  | ⟨template, args⟩, b => fill template args 0 0 (b.note (.interpret template args.length))

/-- Fill a template from byte `i` on. The first of the arguments has position `index`, and surplus
arguments are ignored. -/
def fill : String → List Arg → Nat → Nat → Buffer → Progress
  | template, args, index, i, b =>
    let run := Template.literalRun template i
    let b := b.append run.toByteArray
    match Template.landmark template (i + run.length), args with
    | .finish, _ => ⟨b, none⟩
    | .fault f, _ => b.stop f
    | .marker d _, [] => b.stop (.missing index d)
    | .marker d next, arg :: args =>
      (dispatch arg d b).andThen (fill template args (index + 1) next)

/-- Write one argument as its marker asks. -/
def dispatch : Arg → Directive → Buffer → Progress
  | .byte v, .charLiteral, b => ⟨b.append ⟨#[v]⟩, none⟩
  | .char c, .charLiteral, b => ⟨b.appendString c.toString, none⟩
  | .bytes bs, .rawText, b => ⟨b.append bs, none⟩
  | .str s, .rawText, b => ⟨b.appendString s, none⟩
  | .node n, .subNode, b => writeNode n b
  | .str s, .trackedLiteral, b => ⟨b.appendTracked s, none⟩
  | arg, d, b => b.stop (.mismatch d arg.type)

end

/-- Fill `template` with `args`. -/
def interpret (b : Buffer) (template : String) (args : List Arg) : Progress :=
  writeCall ⟨template, args⟩ b

/-- Write a whole node through a marker of its own. -/
def write (b : Buffer) (n : Node) : Progress := b.interpret "%v" [.node n]

/-- Write nodes with `sep` between neighbours. -/
def writeSeparated (b : Buffer) (nodes : List Node) (sep : String) : Progress :=
  writeCalls (Node.separated sep nodes) b

/-- Drop all text and spans and keep the tracking mode. -/
def clear (b : Buffer) : Buffer :=
  { b with bytes := .empty, tracked := b.tracked.map fun _ => #[] }

/-- The bytes of a span, none if it reaches past the text. -/
def spanBytes (b : Buffer) (s : Span) : Except Overflow ByteArray := do
  let stop ← s.stop
  return if stop ≤ b.size then b.bytes.extract s.offset stop else .empty

/-- The text, with replacement characters for bytes that are no text. -/
def text (b : Buffer) : String := Utf8.lossy b.bytes

/-- The text, or the first defect of bytes that are no text. -/
def toText (b : Buffer) : Except Utf8.Defect String := Utf8.decode b.bytes

end Buffer

/-- Reading out bytes that are no text. -/
def invalidTextMessage (d : Utf8.Defect) : String :=
  "rendered output is not valid UTF-8: " ++ d.message

/-- The text of a node on its own. -/
def Node.text (n : Node) : Except Fault String :=
  let p := (Buffer.new false).write n
  match p.fault with
  | none => .ok p.buffer.text
  | some f => .error f

end SqlRender
