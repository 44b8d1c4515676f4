import SqlRender.Words

/-!
# Span — where a tracked literal landed in rendered text

Offsets and lengths are byte counts that fit a machine word. The end of a span is their sum, and a
sum that does not fit the word is refused.
-/

namespace SqlRender

/-- A byte range: its start and its length. -/
structure Span where
  offset : Nat
  len : Nat
  deriving DecidableEq, Repr, Inhabited

/-- The end of a span lies beyond the largest word. -/
inductive Overflow where
  | add
  deriving DecidableEq, Repr

/-- The message of an overflow. -/
def Overflow.message : Overflow → String
  | .add => "attempt to add with overflow"

namespace Span

/-- The offset just past the span. -/
def stop (s : Span) : Except Overflow Nat :=
  if s.offset + s.len < wordSize then .ok (s.offset + s.len) else .error .add

/-- Whether the span covers no bytes. -/
def isEmpty (s : Span) : Bool := s.len == 0

/-- The half-open range as text. -/
def display (s : Span) : Except Overflow String := do
  let stop ← s.stop
  return toString s.offset ++ ".." ++ toString stop

end Span

end SqlRender
