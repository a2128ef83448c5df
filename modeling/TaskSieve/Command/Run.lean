import TaskSieve.Command.Help
import TaskSieve.Command.Report

/-!
# Running commands

A command reads files, may ask the predictor and the push log, and prints a
report.  How it ends shows in its exit status: each kind of failure has its
own.
-/

namespace TaskSieve.Command

/-- What a command finds around it. -/
structure Surroundings where
  /-- The directory that the program is started in. -/
  directory : String
  /-- Where the environment says the configuration is. -/
  config : Option String := none
  files : Files
  server : Web.Server

/-- How a command ends. -/
structure Ending where
  status : Nat := 0
  output : String := ""
  errors : String := ""
  /-- What was asked for on the way. -/
  requests : List Web.Request := []

/-- Why a command has no report. -/
inductive Obstacle
  /-- The directory to work in is none. -/
  | directory (fault : PathFault)
  | unreadable (path : String) (fault : ReadFault)
  /-- The text in a file is not what is wanted there. -/
  | unclear (path : String)
  | failed (failure : Failure)
  /-- The tasks of a push could not be decided. -/
  | undecided (push : Push) (failure : Failure)

namespace Obstacle

/-- The message of a failure with its cause. -/
def messageOf : Failure → String
  | .config .notText =>
      ConfigError.notText.message ++ ": " ++ ReadFault.notText.message
  | failure => failure.message

/-- The message of an obstacle. -/
def message : Obstacle → String
  | .directory fault => fault.message
  | .unreadable path fault => s!"failed to read {path}: {fault.message}"
  | .unclear path =>
      s!"failed to parse {path}: the text is not of the kind wanted here"
  | .failed failure => messageOf failure
  | .undecided push failure =>
      s!"unable to optimize push {push.id} of {push.project}, "
        ++ "run the full task set: " ++ messageOf failure

/-- The exit status for a kind of failure. -/
def statusOf : Failure → Nat
  | .config _ => 2
  | .evidence _ => 3
  | .pushLog _ => 4
  | .strategy _ => 5

/-- The exit status for an obstacle. -/
def status : Obstacle → Nat
  | .failed failure => statusOf failure
  | .undecided _ failure => statusOf failure
  | _ => 1

/-- How a command ends at an obstacle. -/
def ending (obstacle : Obstacle) (requests : List Web.Request) : Ending where
  status := obstacle.status
  errors := line ("✗ " ++ obstacle.message)
  requests := requests

end Obstacle

/-- The text in a file. -/
def readText (files : Files) (path : String) : Except Obstacle String :=
  (files.read path).mapError (.unreadable path)

/-- What the document in a file says. -/
def readDocument (files : Files) (decode : Decoder α) (path : String) :
    Except Obstacle α := do
  match (Json.read? (← readText files path)).bind decode with
  | some value => return value
  | none => throw (.unclear path)

/-- The lines of a text without blanks around them; lines with nothing else do
not count. -/
def pathsOf (text : String) : List String :=
  ((Text.lines text).map Text.trim).filter (!·.isEmpty)

/-- The context that files tell of. -/
def contextOf (files : Files) (told : Optimization) (tasks : List Task) :
    Except Obstacle Context := do
  let importance ← told.importance.mapM
    (readDocument files (Decoder.table Importance.decode))
  let changedFiles ← told.changedFiles.mapM (readText files)
  let components ← told.components.mapM (readDocument files Decoder.names)
  return {
    candidates := tasks
    importance := importance.getD ∅
    changedFiles := changedFiles.map pathsOf
    components := components }

/-- The engine of the configuration that is asked for, or else of the nearest
one. -/
def engineOf (surroundings : Surroundings) (settings : Settings) :
    Except Obstacle Engine := do
  let files := surroundings.files
  let (config, path) ← (match settings.config with
    | some path =>
        (Config.load (files.within surroundings.directory) path).map
          fun config => (config, some path)
    | none => Config.loadOrDefault files surroundings.directory).mapError
        (.failed <| .config ·)
  (Engine.ofConfig surroundings.server config path).mapError .failed

/-- Everything needed for deciding the tasks of a push. -/
structure Preparation where
  push : Push
  tasks : List Task
  engine : Engine
  /-- What the strategy is called in the report. -/
  name : String
  strategy : Strategy
  context : Context

/-- The project whose policy applies. -/
def Optimization.projectFor (told : Optimization) (push : Push) : String :=
  told.project.getD push.project

/-- The strategy to decide with and its name in the report. -/
def chosen (engine : Engine) (told : Optimization) (push : Push) :
    Except StrategyError (String × Strategy) :=
  let project := told.projectFor push
  match told.strategy with
  | some name =>
      (engine.registry.require name).map fun strategy => (name, strategy)
  | none =>
      (engine.policies.require project told.purpose).map fun strategy =>
        (project ++ "/" ++ told.purpose, strategy)

/-- Reads all that is needed for deciding the tasks of a push. -/
def prepare (surroundings : Surroundings) (settings : Settings)
    (told : Optimization) :
    Except Obstacle Preparation := do
  let files := surroundings.files.within surroundings.directory
  let push ← readDocument files Push.decode told.params
  let tasks ← readDocument files Task.decodeSet told.tasks
  let engine ← engineOf surroundings settings
  let (name, strategy) ←
      (chosen engine told push).mapError (.failed <| .strategy ·)
  let context ← contextOf files told tasks
  return { push, tasks, engine, name, strategy, context }

/-- Decides the tasks of a push. -/
def optimize (surroundings : Surroundings) (settings : Settings)
    (told : Optimization) : Ending :=
  match prepare surroundings settings told with
  | .error obstacle => obstacle.ending []
  | .ok ⟨push, tasks, engine, name, strategy, context⟩ =>
      let (result, state) :=
        evaluate engine.client context push strategy tasks {}
      let requests := Web.requests engine.config.predictor state
      match result with
      | .error failure => (Obstacle.undecided push failure).ending requests
      | .ok outcome =>
          let decisions : Decisions := {
            project := told.projectFor push
            purpose := told.purpose
            strategy := name
            push := push
            outcome := outcome }
          { output := decisions.report settings told.removedOnly,
            requests := requests }

/-- Lists strategies and policies. -/
def list (surroundings : Surroundings) (settings : Settings) (long : Bool) :
    Ending :=
  match engineOf surroundings settings with
  | .error obstacle => obstacle.ending []
  | .ok engine =>
      let (output, errors) := Listing.report engine settings long
      { output := output, errors := errors }

/-- The surroundings in the directory that the settings ask for. -/
def Surroundings.enter (surroundings : Surroundings) (settings : Settings) :
    Except Obstacle Surroundings :=
  match settings.directory with
  | none => .ok surroundings
  | some directory =>
      let path := Path.join surroundings.directory directory
      match surroundings.files.within surroundings.directory directory with
      | .directory => .ok { surroundings with directory := Path.plain path }
      | .nowhere fault => .error (.directory fault)
      | .file _ => .error (.directory .blocked)

/-- Does what is asked for. -/
def perform (surroundings : Surroundings) (settings : Settings)
    (action : Action) : Ending :=
  match surroundings.enter settings with
  | .error obstacle => obstacle.ending []
  | .ok surroundings =>
      match action with
      | .optimize told => optimize surroundings settings told
      | .strategies long => list surroundings settings long

/-- How a command line ends that asks for nothing to be done.  The environment
may name the configuration. -/
def Stop.ending (named : Option String) : Stop → Ending
  | .nothing => { status := 2, errors := Scope.program.helpText .brief named }
  | .help scope detail => { output := scope.helpText detail named }
  | .version scope => { output := scope.versionText }
  | .fault found => { status := 2, errors := found.text }

/-- The paths of all files that an action may read, those given relative to the
directory among them. -/
def Action.files : Action → List String
  | .strategies _ => []
  | .optimize told =>
      [told.params, told.tasks] ++ told.importance.toList ++
        told.changedFiles.toList
        ++ told.components.toList

/-- The absolute paths of all that a command line started in a directory may
look at. -/
def pathsOfInterest (directory : String) (settings : Settings)
    (action : Action) : List String :=
  match settings.directory with
  | none => inside directory
  | some inner =>
      let path := Path.join directory inner
      path :: inside (Path.plain path)
where
  /-- What is looked at from the directory to work in. -/
  inside (place : String) : List String :=
    let named := (action.files ++ settings.config.toList).map (Path.join place)
    if settings.config.isSome then named else named ++ Config.searchPath place

/-- Runs a command line without the name of the program. -/
def run (surroundings : Surroundings) (words : List String) : Ending :=
  match read surroundings.config words with
  | .error stop => stop.ending surroundings.config
  | .ok (settings, action) => perform surroundings settings action

end TaskSieve.Command
