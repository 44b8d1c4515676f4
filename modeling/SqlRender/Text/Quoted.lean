import SqlRender.Text.Marks
import SqlRender.Text.Invisible

/-!
# Text/Quoted — text between quotes, with every unclear character escaped

The backslash, the quote in use, NUL, tab, line feed and carriage return are written by name. A
mark or an invisible character is written by its code point in braces, so that two different texts
never look alike.
-/

namespace SqlRender.Quoted

/-- The digits of `n` in base sixteen, in lower case. -/
def hex (n : Nat) : String := String.ofList (Nat.toDigits 16 n)

/-- How `c` is written between two `quote`s. -/
def encodeChar (quote c : Char) : String :=
  if c = quote ∨ c = '\\' then "\\" ++ c.toString
  else if c = '\t' then "\\t"
  else if c = '\n' then "\\n"
  else if c = '\r' then "\\r"
  else if c.toNat = 0 then "\\0"
  else if isMark c || isInvisible c then "\\u\x7b" ++ hex c.toNat ++ "\x7d"
  else c.toString

/-- `s` between double quotes. -/
def text (s : String) : String :=
  "\"" ++ String.join (s.toList.map (encodeChar '"')) ++ "\""

/-- `c` between single quotes. -/
def char (c : Char) : String := "'" ++ encodeChar '\'' c ++ "'"

end SqlRender.Quoted
