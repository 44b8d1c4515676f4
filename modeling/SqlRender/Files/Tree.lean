import SqlRender.Text.Utf8
import SqlRender.Files.Path

/-!
# Files/Tree — files by their names

Places are reached part by part, from the working directory or, along an absolute path, from the
root. Every part but the last must lead to a directory. The directories above the working directory
have no names here: they are as many steps up.

* `read`, `readText`, `has` and `names` look at the files;
* `makeDirs`, `setMode`, `write`, `move` and `erase` change them. A change that fails changes
  nothing.
-/

namespace SqlRender

/-- Why files could not be used as asked. -/
inductive FileError where
  | notFound
  | alreadyExists
  | notDirectory
  | isDirectory
  | nameTooLong
  /-- A null character in a name. -/
  | unusableName
  /-- The bytes of a file are not text. -/
  | notText
  deriving DecidableEq, Repr

/-- The text of an error as the operating system gives it. -/
def FileError.message : FileError → String
  | .notFound => "No such file or directory (os error 2)"
  | .alreadyExists => "File exists (os error 17)"
  | .notDirectory => "Not a directory (os error 20)"
  | .isDirectory => "Is a directory (os error 21)"
  | .nameTooLong => "File name too long (os error 36)"
  | .unusableName => "file name contained an unexpected NUL byte"
  | .notText => "stream did not contain valid UTF-8"

/-- The parts that lead from the working directory to something. Absolute places start at the
root. -/
abbrev Place := List String

/-- The part that stands for the root in front of an absolute place. -/
def rootPart : String := "/"

/-- What can stand at a place, with its permission bits. -/
inductive Entry where
  | file (bytes : ByteArray) (mode : Nat)
  | dir (mode : Nat)

/-- The permissions of a new file. -/
def newFileMode : Nat := 0o644

/-- The permissions of a new directory. -/
def newDirMode : Nat := 0o755

/-- Files and directories, each at its place. -/
structure Files where
  entries : List (Place × Entry) := []

namespace Files

/-- Whether a place is the working directory or one above it. -/
def isAbove (place : Place) : Bool := place.all (· == "..")

/-- What stands at a place. The working directory, those above it and the root are always there. -/
def find? (files : Files) (place : Place) : Option Entry :=
  if isAbove place || place == [rootPart] then some (.dir newDirMode)
  else files.entries.lookup place

/-- Let `e` stand at a place. -/
def put (files : Files) (place : Place) (e : Entry) : Files :=
  ⟨(place, e) :: files.entries.filter (·.1 != place)⟩

/-- Let nothing stand at a place. -/
def drop (files : Files) (place : Place) : Files := ⟨files.entries.filter (·.1 != place)⟩

/-! ## From paths to places -/

/-- The greatest length of a name, and the length from which on a path is too long. -/
def maxName : Nat := 255

/-- The length in bytes from which on a path is too long. -/
def maxPath : Nat := 4096

/-- Refuse a path that cannot be looked up at all. -/
def requireUsable (p : Path) : Except FileError Unit :=
  if p.text.toList.contains '\x00' then .error .unusableName
  else if p.text.isEmpty then .error .notFound
  else if maxPath ≤ p.text.utf8ByteSize then .error .nameTooLong
  else .ok ()

/-- Where a path sets out. -/
def startOf (p : Path) : Place := if p.isAbsolute then [rootPart] else []

/-- The place that `part` leads to from a directory. -/
def enter (files : Files) (here : Place) (part : String) : Except FileError Place :=
  match files.find? here with
  | none => .error .notFound
  | some (.file ..) => .error .notDirectory
  | some (.dir _) =>
    if part = ".." then
      if isAbove here then .ok (here ++ [".."])
      else if here = [rootPart] then .ok here
      else .ok here.dropLast
    else if maxName < part.utf8ByteSize then .error .nameTooLong
    else .ok (here ++ [part])

/-- The place that a path leads to. Something may stand there or not. -/
def locate (files : Files) (p : Path) : Except FileError Place := do
  requireUsable p
  let place ← p.parts.foldlM files.enter (startOf p)
  match files.find? place with
  | some (.file ..) => if p.namesDirectory then throw .notDirectory else return place
  | _ => return place

/-! ## Looking -/

/-- What a path leads to. -/
def look (files : Files) (p : Path) : Except FileError Entry := do
  match files.find? (← files.locate p) with
  | some e => return e
  | none => throw .notFound

/-- Whether a path leads to anything. -/
def has (files : Files) (p : Path) : Bool := (files.look p).isOk

/-- The bytes of a file. -/
def read (files : Files) (p : Path) : Except FileError ByteArray := do
  match ← files.look p with
  | .file bytes _ => return bytes
  | .dir _ => throw .isDirectory

/-- The text of a file. -/
def readText (files : Files) (p : Path) : Except FileError String := do
  match Utf8.decode (← files.read p) with
  | .ok text => return text
  | .error _ => throw .notText

/-- The names in a directory, in order. -/
def names (files : Files) (p : Path) : List String :=
  match files.locate p with
  | .error _ => []
  | .ok place =>
    let found := files.entries.filterMap fun (q, _) =>
      if q.dropLast = place then q.getLast? else none
    found.mergeSort fun a b => !(b < a)

/-! ## Changing -/

/-- Make the missing directories along `parts`. -/
def makeAlong : Files → Place → List String → Except FileError Files
  | files, _, [] => .ok files
  | files, here, part :: rest => do
    let next ← files.enter here part
    match files.find? next with
    | some (.dir _) => makeAlong files next rest
    | some (.file ..) => throw (if rest.isEmpty then .alreadyExists else .notDirectory)
    | none => makeAlong (files.put next (.dir newDirMode)) next rest

/-- Make a directory and all that leads to it. -/
def makeDirs (files : Files) (p : Path) : Except FileError Files := do
  requireUsable p
  files.makeAlong (startOf p) p.parts

/-- Change permissions. -/
def setMode (files : Files) (p : Path) (mode : Nat) : Except FileError Files := do
  let place ← files.locate p
  match files.find? place with
  | some (.file bytes _) => return files.put place (.file bytes mode)
  | some (.dir _) => return files.put place (.dir mode)
  | none => throw .notFound

/-- Write a file. One that is there keeps its permissions. -/
def write (files : Files) (p : Path) (bytes : ByteArray) : Except FileError Files := do
  let place ← files.locate p
  match files.find? place with
  | some (.file _ mode) => return files.put place (.file bytes mode)
  | some (.dir _) => throw .isDirectory
  | none =>
    if p.namesDirectory then throw .isDirectory
    else return files.put place (.file bytes newFileMode)

/-- Move a file to a new name, over a file that has it. -/
def move (files : Files) (source target : Path) : Except FileError Files := do
  let origin ← files.locate source
  let goal ← files.locate target
  match files.find? origin, files.find? goal with
  | none, _ => throw .notFound
  | some (.dir _), _ | _, some (.dir _) => throw .isDirectory
  | some e, _ => return (files.drop origin).put goal e

/-- Let `e` stand at a path, and make the directories that lead there. -/
def place (files : Files) (p : Path) (e : Entry) : Except FileError Files := do
  let parent ← files.makeAlong (startOf p) p.parts.dropLast
  return parent.put (← parent.locate p) e

/-- Erase a file. -/
def erase (files : Files) (p : Path) : Except FileError Files := do
  let place ← files.locate p
  match files.find? place with
  | some (.file ..) => return files.drop place
  | some (.dir _) => throw .isDirectory
  | none => throw .notFound

end Files

end SqlRender
