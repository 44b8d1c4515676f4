import SqlRender.Span
import SqlRender.Text.Slice

/-!
# Command/Highlight — text with painted spans

Spans are painted from left to right. A span that starts before the end of the last painted one, or
whose ends are no good offsets of the text, is left alone.
-/

namespace SqlRender

/-- A way to make a text stand out. -/
abbrev Paint := List Char → List Char

namespace Paint

/-- What ends a colour on a terminal. -/
def reset : List Char := "\x1b[0m".toList

/-- What starts bold yellow on a terminal. -/
def boldYellow : List Char := "\x1b[1;33m".toList

/-- Start the style anew behind each place where it is reset. The number is how much of a reset has
been passed already. -/
def restyle : Nat → List Char → List Char
  | _, [] => []
  | 0, c :: rest =>
    if reset.isPrefixOf (c :: rest) then c :: restyle (reset.length - 1) rest
    else c :: restyle 0 rest
  | 1, c :: rest => c :: boldYellow ++ restyle 0 rest
  | n + 2, c :: rest => c :: restyle (n + 1) rest

/-- Colour a text for a terminal. -/
def color : Paint := fun cs => boldYellow ++ restyle 0 cs ++ reset

/-- Leave a text as it is. -/
def plain : Paint := fun cs => cs

end Paint

/-- Paint the spans of a text from byte `cursor` on. -/
def highlightFrom (paint : Paint) (text : List Char) : Nat → List Span → Except Overflow (List Char)
  | cursor, [] => .ok ((sliceFrom? text cursor).getD [])
  | cursor, s :: rest => do
    let stop ← s.stop
    match slice? text cursor s.offset, slice? text s.offset stop with
    | some before, some inside =>
      let after ← highlightFrom paint text stop rest
      return before ++ paint inside ++ after
    | _, _ => highlightFrom paint text cursor rest

/-- A text with its spans painted. -/
def highlight (paint : Paint) (text : String) (spans : List Span) : Except Overflow String :=
  (highlightFrom paint text.toList 0 spans).map String.ofList

/-- The text of a span, empty if its ends are no good offsets. -/
def spanText (text : String) (s : Span) : Except Overflow String := do
  let stop ← s.stop
  return String.ofList ((slice? text.toList s.offset stop).getD [])

end SqlRender
