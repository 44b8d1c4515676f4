import SqlRender.Files.Tree

/-!
# Files/Change — changes in order

A plan is a list of changes. It is carried out in order and stops at the first change that fails;
what was changed before that stays changed.
-/

namespace SqlRender

/-- One change of the files. -/
inductive Change where
  | makeDirs (dir : Path)
  | setMode (path : Path) (mode : Nat)
  | write (path : Path) (bytes : ByteArray)
  | move (source target : Path)

namespace Change

/-- Make one change. -/
def apply (files : Files) : Change → Except FileError Files
  | .makeDirs dir => files.makeDirs dir
  | .setMode path mode => files.setMode path mode
  | .write path bytes => files.write path bytes
  | .move source target => files.move source target

/-- Make changes in order, up to the first that fails. -/
def applyAll : List Change → Files → Files × Except FileError Unit
  | [], files => (files, .ok ())
  | c :: rest, files =>
    match c.apply files with
    | .ok files => applyAll rest files
    | .error e => (files, .error e)

end Change

end SqlRender
