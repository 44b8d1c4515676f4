import SqlRender.Template.Fault
import SqlRender.Text.Slice

/-!
# Template/Scan — a template scanned by its bytes

From any position on, bytes are literal up to the next percent sign. The character behind the
percent sign is the marker, and the scan goes on behind that character. Where a literal run ends is
found among bytes, and the marker is read from the text behind it, so a scan has to take care that
it never looks for a marker inside a character.
-/

namespace SqlRender

/-- What a scan meets where a literal run ends. -/
inductive Landmark where
  /-- The end of the template. -/
  | finish
  /-- A marker; the scan goes on at byte `next`. -/
  | marker (directive : Directive) (next : Nat)
  /-- A percent sign that is no marker. -/
  | fault (f : Fault)
  deriving DecidableEq, Repr

namespace Template

/-- The percent sign. -/
def markerByte : UInt8 := 0x25

/-- The literal bytes from position `i` on. -/
def literalRun (template : String) (i : Nat) : List UInt8 :=
  (template.toUTF8.data.toList.drop i).takeWhile (· != markerByte)

/-- What stands at byte `offset`, where a literal run ends. -/
def landmark (template : String) (offset : Nat) : Landmark :=
  if template.utf8ByteSize ≤ offset then .finish
  else
    match sliceFrom? template.toList (offset + 1) with
    | none => .fault (.torn (offset + 1))
    | some [] => .fault (.dangling offset)
    | some (m :: _) =>
      match Directive.ofMarker? m with
      | none => .fault (.unsupported m offset)
      | some d => .marker d (offset + 1 + m.utf8Size)

end Template

end SqlRender
