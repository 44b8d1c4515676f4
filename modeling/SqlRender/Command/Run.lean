import SqlRender.Text.Blank
import SqlRender.Command.Filter
import SqlRender.Command.Render

/-!
# Command/Run — the program

The program reads its command line and its settings, does what it is asked, and says how that went.
Settings that cannot be read matter only to the commands that need them.
-/

namespace SqlRender

/-- What the program finds around it. -/
structure Environment where
  home : Path
  /-- Whether a terminal shows colours. -/
  color : Bool := false
  /-- The log filter that goes before all others. -/
  logFilter : Option String := none
  /-- What the parsers say about documents that they cannot read. -/
  remarks : Remarks := fun _ _ => ""

/-- How a run went. -/
structure Outcome where
  status : Nat
  output : String := ""
  /-- The lines about errors. -/
  errors : List String := []
  log : List LogRecord := []

/-- The filter for a run: that of the environment if it can be read, else by how much the command
line wants told, else that of the settings. -/
def chooseFilter (environment : Option String) (verbosity : Nat) (settings : Settings) :
    Filter × List String :=
  match environment.bind Filter.parse? with
  | some filter => (filter, [])
  | none => Filter.parseLossy (match verbosity with
      | 0 => settings.effectiveFilter
      | 1 => "debug"
      | _ => "trace")

/-- The settings as they are shown. -/
def settingsText (json : Bool) (s : Settings) : String :=
  trimEnd (if json then s.json.pretty else s.yaml) ++ "\n"

/-- What is said when settings are there, `created` or not. -/
def initText (home : Path) (created : Bool) : String :=
  (if created then "✓ Wrote default config to " else "Config already exists at ") ++
    (Settings.path home).text ++ "\n"

/-- Settings, or the failure to read them. -/
def requireSettings (loaded : Except Settings.StoreError Settings) : Except Failure Settings :=
  loaded.mapError .settings

/-- Do what is asked: the files afterwards, what goes to the log, and what is printed. -/
def perform (environment : Environment) (files : Files)
    (loaded : Except Settings.StoreError Settings) :
    Action → Files × List LogRecord × Except Failure String
  | .render options =>
    match requireSettings loaded with
    | .error f => (files, [], .error f)
    | .ok settings =>
      let paint := if environment.color then Paint.color else Paint.plain
      (files, renderDocument files options settings paint)
  | .showSettings json => (files, [], (requireSettings loaded).map (settingsText json))
  | .initSettings =>
    let (files, result) := Settings.init files environment.home
    (files, [], (result.map fun (_, created) => initText environment.home created).mapError
      .initSettings)
  | .settingsPath =>
    let log := match loaded with
      | .ok _ => []
      | .error e => [LogRecord.unusableSettings (e.message environment.remarks)]
    (files, log, .ok ((Settings.path environment.home).text ++ "\n"))

/-- The paths that a request looks at. -/
def Request.paths (r : Request) (home : Path) : List Path :=
  [Settings.directory home, Settings.path home] ++
    match r.action with
    | .render options => [options.path]
    | _ => []

/-- The changes that a request makes. -/
def Request.changes (r : Request) (home : Path) (files : Files) : List Change :=
  if r.action = .initSettings && !files.has (Settings.path home) then Settings.plan files home {}
  else []

/-- Carry out a request. -/
def runRequest (environment : Environment) (files : Files) (request : Request) : Files × Outcome :=
  let loaded := Settings.load files environment.home
  let settings := loaded.toOption.getD {}
  let (filter, notes) := chooseFilter environment.logFilter request.verbosity settings
  let (files, log, result) := perform environment files loaded request.action
  let log := log.filter filter.shows
  (files, match result with
    | .ok output => { status := 0, output := output, errors := notes, log := log }
    | .error f => { status := 1, errors := notes ++ [f.report environment.remarks], log := log })

/-- Run the program on a command line. -/
def run (environment : Environment) (files : Files) (args : List String) : Files × Outcome :=
  match Arguments.parse args with
  | .ok request => runRequest environment files request
  | .error (.usage e) => (files, { status := 2, errors := [e.message] })
  | .error (.help text) => (files, { status := 0, output := text ++ "\n" })
  | .error .version =>
    (files, { status := 0, output := programName ++ " " ++ programVersion ++ "\n" })

end SqlRender
