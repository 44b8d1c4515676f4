import SqlRender.Files.Path

/-!
# Command/Arguments — command lines

A command has flags, may have one value, and may have subcommands. A command line is read from left
to right, down the subcommands that it names. `--` ends the flags. A flag can be written in full
behind two dashes or, if it has a letter, behind one dash together with others.

* `Arguments.read` reads a command line for any command;
* `Arguments.parse` gives the request that a command line makes.
-/

namespace SqlRender

/-- A flag of a command. -/
structure Flag where
  /-- Its name, written behind two dashes. -/
  long : String
  /-- Its letter, written behind one dash. -/
  short : Option Char := none
  /-- Whether it may stand several times and is counted. -/
  counted : Bool := false
  /-- The flags that it cannot stand with. -/
  conflicts : List String := []
  deriving DecidableEq, Repr

/-- A flag as messages show it. -/
def Flag.shown (f : Flag) : String := "--" ++ f.long ++ if f.counted then "..." else ""

/-- What a command line may say to a command. -/
inductive Command where
  | mk (name about : String) (flags : List Flag) (value : Option String)
      (subcommands : List Command)

namespace Command

/-- The name by which the command is called. -/
def name : Command → String
  | ⟨name, _, _, _, _⟩ => name

/-- What the command does, in a line. -/
def about : Command → String
  | ⟨_, about, _, _, _⟩ => about

/-- The flags that the command knows. -/
def flags : Command → List Flag
  | ⟨_, _, flags, _, _⟩ => flags

/-- The name of the value that the command needs. -/
def value : Command → Option String
  | ⟨_, _, _, value, _⟩ => value

/-- The commands below this one. -/
def subcommands : Command → List Command
  | ⟨_, _, _, _, subcommands⟩ => subcommands

/-- The subcommand with a name, if there is one. -/
def find? (c : Command) (name : String) : Option Command := c.subcommands.find? (·.name == name)

/-- How the command is used, in short; `path` are the names that lead to it. -/
def help (c : Command) (path : List String) : String :=
  c.about ++ "\n\nUsage: " ++ " ".intercalate path ++ " [OPTIONS]" ++
    (match c.value with
      | some name => " <" ++ name ++ ">"
      | none => "") ++
    if c.subcommands.isEmpty then "" else " <COMMAND>"

end Command

/-- What is wrong with a command line. -/
inductive UsageError where
  | unknownArgument (arg : String)
  | unknownSubcommand (name : String)
  | surplusValue (value flag : String)
  | repeatedFlag (flag : String)
  | conflict (flag other : String)
  | emptyValue (name : String)
  | missingValue (name : String)
  | missingSubcommand (command : String)
  /-- Nothing was asked of a command that needs to be told what to do. -/
  | nothingAsked (help : String)
  deriving DecidableEq, Repr

/-- The line that tells a user what is wrong. -/
def UsageError.message : UsageError → String
  | .unknownArgument arg => "error: unexpected argument '" ++ arg ++ "' found"
  | .unknownSubcommand name => "error: unrecognized subcommand '" ++ name ++ "'"
  | .surplusValue value flag =>
    "error: unexpected value '" ++ value ++ "' for '" ++ flag ++ "' found; no more were expected"
  | .repeatedFlag flag => "error: the argument '" ++ flag ++ "' cannot be used multiple times"
  | .conflict flag other =>
    "error: the argument '" ++ flag ++ "' cannot be used with '" ++ other ++ "'"
  | .emptyValue name => "error: a value is required for '<" ++ name ++ ">' but none was supplied"
  | .missingValue name =>
    "error: the following required arguments were not provided:\n  <" ++ name ++ ">"
  | .missingSubcommand command =>
    "error: '" ++ command ++ "' requires a subcommand but one was not provided"
  | .nothingAsked help => help

/-- Why a command line is not read to its end. -/
inductive Interruption where
  | usage (e : UsageError)
  | help (text : String)
  | version
  deriving DecidableEq, Repr

namespace Arguments

/-- What was said to one command. -/
structure Matched where
  command : String
  /-- The flags in the order in which they stand. -/
  flags : List String := []
  value : Option String := none
  /-- Whether the flags are over. -/
  literal : Bool := false
  deriving DecidableEq, Repr

/-- A step of reading. -/
abbrev Step := Except Interruption

/-- Every command can be asked for help. -/
def helpFlag : Flag := ⟨"help", some 'h', false, []⟩

/-- The topmost command can be asked for its version. -/
def versionFlag : Flag := ⟨"version", some 'V', false, []⟩

/-- The flags of a command to which `path` leads. -/
def flagsAt (c : Command) (path : List String) : List Flag :=
  c.flags ++ helpFlag :: if path.length ≤ 1 then [versionFlag] else []

/-- A value that was given is looked at when the next flag comes, or at the end. -/
def checkValue (c : Command) (m : Matched) : Step Unit :=
  match c.value, m.value with
  | some name, some "" => .error (.usage (.emptyValue name))
  | _, _ => .ok ()

/-- Take note of a flag. -/
def note (c : Command) (path : List String) (m : Matched) (f : Flag) : Step Matched := do
  checkValue c m
  if f = helpFlag then throw (.help (c.help path))
  else if f = versionFlag then throw .version
  else if !f.counted && m.flags.contains f.long then throw (.usage (.repeatedFlag f.shown))
  else return { m with flags := m.flags ++ [f.long] }

/-- Read what stands behind two dashes. -/
def readLong (c : Command) (path : List String) (m : Matched) (body : List Char) : Step Matched :=
  let name := String.ofList (body.takeWhile (· != '='))
  match (flagsAt c path).find? (·.long == name), body.dropWhile (· != '=') with
  | none, _ => .error (.usage (.unknownArgument ("--" ++ name)))
  | some f, [] => note c path m f
  | some f, _ :: value => .error (.usage (.surplusValue (String.ofList value) f.shown))

/-- Read the letters behind one dash. -/
def readShort (c : Command) (path : List String) : Matched → List Char → Step Matched
  | m, [] => .ok m
  | m, letter :: rest =>
    match (flagsAt c path).find? (·.short == some letter) with
    | none => .error (.usage (.unknownArgument ("-" ++ letter.toString)))
    | some f => do readShort c path (← note c path m f) rest

/-- Read what is no flag. -/
def readValue (c : Command) (m : Matched) (arg : String) : Step Matched :=
  if c.value.isSome && m.value.isNone then .ok { m with value := some arg }
  else if c.subcommands.isEmpty || (m.literal && (c.find? arg).isSome) then
    .error (.usage (.unknownArgument arg))
  else .error (.usage (.unknownSubcommand arg))

/-- Two flags that cannot stand together, the one that stands first in front. -/
def conflict? (c : Command) (m : Matched) : Option (Flag × Flag) :=
  let present := m.flags.eraseDups.filterMap fun name => c.flags.find? (·.long == name)
  present.findSome? fun f =>
    (present.find? fun g => f.conflicts.contains g.long || g.conflicts.contains f.long).map (f, ·)

/-- The end of a command line. -/
def finish (c : Command) (path : List String) (m : Matched) : Step Unit := do
  checkValue c m
  if !c.subcommands.isEmpty then
    throw (.usage (if m.flags.isEmpty then .nothingAsked (c.help path)
      else .missingSubcommand (" ".intercalate path)))
  match conflict? c m with
  | some (f, g) => throw (.usage (.conflict f.shown g.shown))
  | none => pure ()
  match c.value, m.value with
  | some name, none => throw (.usage (.missingValue name))
  | _, _ => return ()

/-- Read the names of the command that help is wanted for. -/
def readHelp : Command → List String → List String → Step (List Matched)
  | c, path, [] => .error (.help (c.help path))
  | c, path, name :: rest =>
    match c.find? name with
    | some sub => readHelp sub (path ++ [name]) rest
    | none =>
      if name == "help" && !c.subcommands.isEmpty then .error (.help (c.help path))
      else .error (.usage (.unknownSubcommand name))

/-- Read what is said to a command to which `path` leads, and to its subcommands. -/
def readFrom : Command → List String → Matched → List String → Step (List Matched)
  | c, path, m, [] => do
    finish c path m
    return [m]
  | c, path, m, arg :: rest =>
    if m.literal then do readFrom c path (← readValue c m arg) rest
    else
      match c.find? arg with
      | some sub => do
        let below ← readFrom sub (path ++ [arg]) ⟨arg, [], none, false⟩ rest
        return m :: below
      | none =>
        if arg == "help" && !c.subcommands.isEmpty then readHelp c path rest
        else
          match arg.toList with
          | ['-', '-'] => readFrom c path { m with literal := true } rest
          | '-' :: '-' :: body => do readFrom c path (← readLong c path m body) rest
          | '-' :: letter :: letters => do
            readFrom c path (← readShort c path m (letter :: letters)) rest
          | _ => do readFrom c path (← readValue c m arg) rest

/-- Read a command line: what was said to the command and to the subcommands it leads to. -/
def read (c : Command) (args : List String) : Step (List Matched) :=
  readFrom c [c.name] ⟨c.name, [], none, false⟩ args

end Arguments

/-! ## The command line of this program -/

/-- The name and the version of the program. -/
def programName : String := "querytext"

/-- The version that `--version` tells. -/
def programVersion : String := "0.1.0"

/-- More records in the log. -/
def verboseFlag : Flag := ⟨"verbose", some 'v', true, []⟩

/-- Write JSON instead of text. -/
def jsonFlag : Flag := ⟨"json", none, false, []⟩

/-- Render a document. JSON has no colours, so the two flags exclude each other. -/
def renderCommand : Command :=
  ⟨"render", "Render an AST document (JSON or YAML) to SQL",
    [⟨"tracked", none, false, []⟩, ⟨"highlight", none, false, []⟩,
      { jsonFlag with conflicts := ["highlight"] }, verboseFlag],
    some "PATH", []⟩

/-- Show the settings, write default ones, or tell where they are. -/
def configCommand : Command :=
  ⟨"config", "Inspect or create ~/.querytext/config.yaml", [verboseFlag], none, [
    ⟨"show", "Print the effective configuration", [jsonFlag, verboseFlag], none, []⟩,
    ⟨"init", "Write a default config file if none exists", [verboseFlag], none, []⟩,
    ⟨"path", "Print the config file location", [verboseFlag], none, []⟩]⟩

/-- The program itself. It asks for a subcommand. -/
def mainCommand : Command :=
  ⟨programName, "Render SQL abstract syntax trees back to query text", [verboseFlag], none,
    [renderCommand, configCommand]⟩

/-- What to do with a document. -/
structure RenderOptions where
  path : Path
  /-- List tracked literals. -/
  tracked : Bool := false
  /-- Colour tracked literals. -/
  highlight : Bool := false
  /-- Write JSON. -/
  json : Bool := false
  deriving DecidableEq, Repr

/-- What the program is asked to do. -/
inductive Action where
  | render (options : RenderOptions)
  | showSettings (json : Bool)
  | initSettings
  | settingsPath
  deriving DecidableEq, Repr

/-- What to do, and how much to tell about it. -/
structure Request where
  verbosity : Nat
  action : Action
  deriving DecidableEq, Repr

namespace Arguments

/-- How often the flag for more records stands, where it stands furthest down. -/
def verbosity (ms : List Matched) : Nat :=
  ((ms.map fun m => m.flags.count verboseFlag.long).filter (0 < ·)).getLast?.getD 0

/-- The action that was asked of the last command. -/
def action (ms : List Matched) : Action :=
  match ms.getLast? with
  | none => .settingsPath
  | some m =>
    match m.command with
    | "render" =>
      .render ⟨⟨m.value.getD ""⟩, m.flags.contains "tracked", m.flags.contains "highlight",
        m.flags.contains "json"⟩
    | "show" => .showSettings (m.flags.contains "json")
    | "init" => .initSettings
    | _ => .settingsPath

/-- The request that a command line makes. -/
def parse (args : List String) : Except Interruption Request := do
  let ms ← read mainCommand args
  return ⟨verbosity ms, action ms⟩

end Arguments

end SqlRender
