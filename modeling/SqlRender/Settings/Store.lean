import SqlRender.Text.Blank
import SqlRender.Files.Change
import SqlRender.Settings.Basic

/-!
# Settings/Store — settings kept in the home directory

Settings are kept in one file of a directory of their own. Saving writes a file beside it and then
moves that over it, so the settings file is at all times the old one or the new one.

* `load` reads the settings; without a file they are the defaults;
* `save` carries out `plan`;
* `init` saves the defaults where there is no file.
-/

namespace SqlRender.Settings

/-- Why settings could not be read or written. -/
inductive StoreError where
  | file (e : FileError)
  | unreadable (path : Path) (e : DocumentError)
  deriving DecidableEq, Repr

namespace StoreError

/-- What lies behind the error. -/
def cause (remarks : Remarks) : StoreError → String
  | .file e => e.message
  | .unreadable path e => e.message .yaml (remarks path e)

/-- The error in full. -/
def message (remarks : Remarks) : StoreError → String
  | e@(.file _) => "I/O error: " ++ e.cause remarks
  | e@(.unreadable path _) => "failed to parse config at " ++ path.text ++ ": " ++ e.cause remarks

end StoreError

/-! ## Where settings are -/

/-- The directory of the settings file. -/
def directory (home : Path) : Path := home.child ".querytext"

/-- The settings file. -/
def path (home : Path) : Path := (directory home).child "config.yaml"

/-- The file that is written before it takes the place of the settings file. -/
def draftPath (home : Path) : Path := (directory home).child "config.yaml.tmp"

/-! ## Reading -/

/-- The settings that a text holds; a blank text holds the defaults. -/
def ofText (text : String) : Except DocumentError Settings :=
  if isBlankText text then .ok {} else ofYaml text

/-- The settings of a home directory. -/
def load (files : Files) (home : Path) : Except StoreError Settings := do
  if !files.has (path home) then return {}
  let text ← (files.readText (path home)).mapError .file
  (ofText text).mapError (.unreadable (path home))

/-! ## Writing -/

/-- Only the owner may look into the directory and at the file. -/
def directoryMode : Nat := 0o700

/-- Only the owner may read and write the file. -/
def fileMode : Nat := 0o600

/-- The changes that save settings. -/
def plan (files : Files) (home : Path) (s : Settings) : List Change :=
  (if files.has (directory home) then []
    else [.makeDirs (directory home), .setMode (directory home) directoryMode]) ++
  [.write (draftPath home) s.yaml.toUTF8, .setMode (draftPath home) fileMode,
    .move (draftPath home) (path home)]

/-- Save settings. What was changed before a failure stays changed. -/
def save (files : Files) (home : Path) (s : Settings) : Files × Except StoreError Path :=
  let (files, result) := Change.applyAll (plan files home s) files
  (files, (result.map fun _ => path home).mapError .file)

/-- The settings of a home directory, the defaults being saved if it has none. The truth value says
whether they were. -/
def init (files : Files) (home : Path) : Files × Except StoreError (Settings × Bool) :=
  if files.has (path home) then (files, (load files home).map (·, false))
  else
    let (files, result) := save files home {}
    (files, result.map fun _ => ({}, true))

end SqlRender.Settings
