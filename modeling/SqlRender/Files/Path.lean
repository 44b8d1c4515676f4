/-!
# Files/Path — names of files

A path is a text of pieces between slashes. Empty pieces and single dots lead nowhere, so the parts
of a path are the pieces without them.
-/

namespace SqlRender

/-- The name of a file or a directory, as it was given. -/
structure Path where
  text : String
  deriving DecidableEq, Repr, Inhabited

namespace Path

/-- The pieces of a text between slashes. -/
def pieces : List Char → List (List Char)
  | [] => [[]]
  | c :: rest =>
    if c = '/' then [] :: pieces rest
    else
      match pieces rest with
      | [] => [[c]]
      | p :: ps => (c :: p) :: ps

/-- Whether a piece leads somewhere. -/
def leads (piece : List Char) : Bool := piece != [] && piece != ['.']

/-- The parts that lead from one directory to the next, and last to what is named. -/
def parts (p : Path) : List String := ((pieces p.text.toList).filter leads).map String.ofList

/-- Whether a path starts at the root. -/
def isAbsolute (p : Path) : Bool := p.text.toList.head? == some '/'

/-- Whether only a directory can have this name. -/
def namesDirectory (p : Path) : Bool :=
  match (pieces p.text.toList).getLast? with
  | some piece => !leads piece
  | none => true

/-- The path of `name` in the directory `p`. -/
def child (p : Path) (name : String) : Path :=
  if p.text.isEmpty || p.text.toList.getLast? == some '/' then ⟨p.text ++ name⟩
  else ⟨p.text ++ "/" ++ name⟩

/-- What follows the last dot of a name. A dot in front of the whole name does not count, and the
two dots that lead up have no extension. -/
def extensionOf? (name : List Char) : Option (List Char) :=
  let after := name.reverse.takeWhile (· != '.')
  let before := name.reverse.drop (after.length + 1)
  if name = ['.', '.'] || before.isEmpty then none else some after.reverse

/-- The extension of the last part. -/
def extension? (p : Path) : Option String :=
  (p.parts.getLast?.bind fun name => extensionOf? name.toList).map String.ofList

end Path

end SqlRender
