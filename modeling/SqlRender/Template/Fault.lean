import SqlRender.Template.Directive

/-!
# Template/Fault — how a call breaks its template's contract

Offsets are byte positions in the template.
-/

namespace SqlRender

/-- A template and its arguments do not fit together. -/
inductive Fault where
  /-- A percent sign before a character that is no marker. -/
  | unsupported (marker : Char) (offset : Nat)
  /-- A percent sign at the end of the template. -/
  | dangling (offset : Nat)
  /-- An argument of a kind that the marker does not accept. -/
  | mismatch (directive : Directive) (found : String)
  /-- More markers than arguments. -/
  | missing (index : Nat) (directive : Directive)
  /-- A marker looked for inside a character. -/
  | torn (offset : Nat)
  deriving DecidableEq, Repr

/-- The text of a fault. -/
def Fault.message : Fault → String
  | .unsupported marker offset =>
    s!"unsupported directive '%{marker}' at template offset {offset}"
  | .dangling offset => s!"dangling '%' at end of template (offset {offset})"
  | .mismatch directive found =>
    let shown := directive.display
    let expected := directive.expects
    s!"unexpected TrackedBuffer type {found} for {shown} (expected {expected})"
  | .missing index directive =>
    let shown := directive.display
    s!"missing argument #{index} for {shown}"
  | .torn offset => s!"byte index {offset} is not a char boundary"

end SqlRender
