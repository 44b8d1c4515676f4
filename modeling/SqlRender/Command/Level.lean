/-!
# Command/Level — how grave a log record is
-/

namespace SqlRender

/-- How grave a log record is, the gravest first. -/
inductive Level where
  | error
  | warn
  | info
  | debug
  | trace
  deriving DecidableEq, Repr

namespace Level

/-- The name that stands in a line of the log. -/
def name : Level → String
  | .error => "ERROR"
  | .warn => "WARN"
  | .info => "INFO"
  | .debug => "DEBUG"
  | .trace => "TRACE"

/-- The gravest level has rank one. -/
def rank : Level → Nat
  | .error => 1
  | .warn => 2
  | .info => 3
  | .debug => 4
  | .trace => 5

end Level

/-- The highest rank that is let through; zero lets nothing through. -/
abbrev Threshold := Nat

namespace Threshold

/-- Everything is let through. -/
def trace : Threshold := Level.trace.rank

/-- Whether a record of a level is let through. -/
def admits (t : Threshold) (l : Level) : Bool := l.rank ≤ t

/-- The words for thresholds. -/
def words : List (String × Threshold) := [
  ("off", 0), ("error", 1), ("warn", 2), ("info", 3), ("debug", 4), ("trace", 5)]

/-- The value of decimal digits, with a plus sign in front or not. -/
def number? (cs : List Char) : Option Nat :=
  let digits := match cs with
    | '+' :: rest => rest
    | cs => cs
  if digits.isEmpty || !digits.all Char.isDigit then none
  else some (digits.foldl (fun n c => n * 10 + (c.toNat - '0'.toNat)) 0)

/-- A threshold by its number or by its word in any case. No text at all means errors only. -/
def ofText? (text : String) : Option Threshold :=
  match (number? text.toList).filter (· ≤ trace) with
  | some n => some n
  | none => if text.isEmpty then some Level.error.rank else words.lookup (text.map Char.toLower)

end Threshold

end SqlRender
