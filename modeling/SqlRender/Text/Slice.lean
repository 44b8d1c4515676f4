/-!
# Text/Slice — pieces of a text by byte offsets

An offset is good if it lies between two characters or at an end. A piece between offsets that are
not both good does not exist.
-/

namespace SqlRender

/-- The characters in front of byte `n` and those behind it. None if `n` cuts a character or lies
behind the end. -/
def splitBytes? : Nat → List Char → Option (List Char × List Char)
  | 0, cs => some ([], cs)
  | _ + 1, [] => none
  | n + 1, c :: cs =>
    if c.utf8Size ≤ n + 1 then
      (splitBytes? (n + 1 - c.utf8Size) cs).map fun (front, back) => (c :: front, back)
    else none

/-- The characters from byte `start` up to byte `stop`. -/
def slice? (cs : List Char) (start stop : Nat) : Option (List Char) :=
  if stop < start then none
  else do
    let (_, back) ← splitBytes? start cs
    let (front, _) ← splitBytes? (stop - start) back
    return front

/-- The characters from byte `start` on. -/
def sliceFrom? (cs : List Char) (start : Nat) : Option (List Char) :=
  (splitBytes? start cs).map (·.2)

end SqlRender
