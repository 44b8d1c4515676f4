import SqlRender.Command.Run

/-!
# Main — the program on this machine

The files that a request looks at are taken from disk, the request is carried out on them, and the
changes it makes are made on disk as well.
-/

namespace SqlRender

/-- What stands on disk at a path. -/
def Path.onDisk (p : Path) : IO (Option Entry) := do
  try
    return some (.file (← IO.FS.readBinFile p.text) newFileMode)
  catch
    | .inappropriateType .. => return some (.dir newDirMode)
    | _ => return none

/-- The files on disk at some paths. -/
def Files.onDisk (paths : List Path) : IO Files :=
  paths.foldlM (fun files p => do
    match ← p.onDisk with
    | none => return files
    | some e => return (files.place p e).toOption.getD files) {}

/-- The three rights in an octal digit. -/
def accessRight (digit : Nat) : IO.AccessRight :=
  ⟨digit / 4 % 2 == 1, digit / 2 % 2 == 1, digit % 2 == 1⟩

/-- Make a change on disk. -/
def Change.onDisk : Change → IO Unit
  | .makeDirs dir => IO.FS.createDirAll dir.text
  | .setMode path mode =>
    IO.setAccessRights path.text
      ⟨accessRight (mode / 64), accessRight (mode / 8), accessRight mode⟩
  | .write path bytes => IO.FS.writeBinFile path.text bytes
  | .move source target => IO.FS.rename source.text target.text

/-- Whether colours are wanted: if they are forced, or else if they are not refused and a terminal
shows them. -/
def wantsColor : IO Bool := do
  let isOn (name : String) : IO (Option Bool) := return (← IO.getEnv name).map (· != "0")
  if (← isOn "CLICOLOR_FORCE") == some true then return true
  else if (← isOn "NO_COLOR").isSome then return false
  else return (← isOn "CLICOLOR").getD true && (← (← IO.getStdout).isTty)

/-- All that is said here about a document beside its shape. -/
def DocumentError.brief : DocumentError → String
  | .malformed => "malformed document"
  | .shape .. => ""

end SqlRender

open SqlRender in
/-- Read the command line and the environment, run, and carry out what was decided: the changes to
files first, then the log and the output. -/
def main (args : List String) : IO UInt32 := do
  let home : Path := ⟨(← IO.getEnv "HOME").getD ""⟩
  let environment : Environment :=
    ⟨home, ← wantsColor, ← IO.getEnv "RUST_LOG", fun _ => DocumentError.brief⟩
  let files ← match Arguments.parse args with
    | .error _ => pure {}
    | .ok request => do
      let files ← Files.onDisk (request.paths home)
      for change in request.changes home files do
        change.onDisk
      pure files
  let (_, outcome) := run environment files args
  for record in outcome.log do
    IO.eprintln record.line
  for line in outcome.errors do
    IO.eprintln line
  IO.print outcome.output
  return outcome.status.toUInt32
