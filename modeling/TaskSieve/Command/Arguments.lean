import TaskSieve.Text.Blank

/-!
# The command line

The program has two commands.  Some parameters may stand before or after the
command; what stands after it counts.  A parameter that takes a value has it
in the same word, after an equals sign, or in the next word.  A value in a word
of its own is looked at when the next parameter comes or the words end, so a
command that follows it is read first.
-/

namespace TaskSieve.Command

/-- Whose help or version is asked for, and who reads a word. -/
inductive Scope
  | program
  | optimize
  | strategies
  /-- The command that shows the help of the others. -/
  | help
  deriving DecidableEq, Repr

/-- What parameters are about. -/
inductive Parameter
  | verbose
  | quiet
  | format
  | directory
  | config
  | help
  | version
  | params
  | tasks
  | project
  | purpose
  | strategy
  | importance
  | changedFiles
  | components
  | removedOnly
  | long
  deriving DecidableEq, Repr

/-- What a parameter takes. -/
inductive Takes
  | nothing
  | text
  /-- A text that is not empty. -/
  | path
  /-- One of the formats. -/
  | format
  deriving DecidableEq

namespace Parameter

/-- The long name. -/
def name : Parameter → String
  | .verbose => "verbose"
  | .quiet => "quiet"
  | .format => "format"
  | .directory => "directory"
  | .config => "config"
  | .help => "help"
  | .version => "version"
  | .params => "params"
  | .tasks => "tasks"
  | .project => "project"
  | .purpose => "purpose"
  | .strategy => "strategy"
  | .importance => "importance"
  | .changedFiles => "changed-files"
  | .components => "components"
  | .removedOnly => "removed-only"
  | .long => "long"

/-- The name of one character. -/
def short? : Parameter → Option Char
  | .verbose => some 'v'
  | .quiet => some 'q'
  | .directory => some 'C'
  | .help => some 'h'
  | .version => some 'V'
  | .long => some 'l'
  | _ => none

/-- What the parameter takes. -/
def takes : Parameter → Takes
  | .format => .format
  | .directory | .config | .params | .tasks | .importance | .changedFiles
  | .components => .path
  | .project | .purpose | .strategy => .text
  | _ => .nothing

end Parameter

/-- The parameters that may stand anywhere. -/
def Parameter.everywhere : List Parameter :=
  [.verbose, .quiet, .format, .directory, .config, .help, .version]

/-- The parameters that a scope knows, in the order of its help. -/
def Scope.parameters : Scope → List Parameter
  | .program => Parameter.everywhere
  | .optimize =>
      [.params, .verbose, .quiet, .tasks, .format, .project, .directory,
        .purpose, .config, .strategy, .importance, .changedFiles, .components,
        .removedOnly, .help, .version]
  | .strategies => .long :: Parameter.everywhere
  | .help => []

/-- What is wrong with a command line. -/
inductive UsageFault
  | unexpected (word : String)
  | unknownCommand (word : String)
  | missingCommand
  | missingValue (parameter : Parameter)
  | invalidValue (parameter : Parameter) (value : String)
  | repeated (parameter : Parameter)
  | missing (parameter : Parameter)
  | conflict (first second : Parameter)
  deriving DecidableEq, Repr

/-- The message of a fault. -/
def UsageFault.message : UsageFault → String
  | .unexpected word => s!"unexpected argument '{word}' found"
  | .unknownCommand word => s!"unrecognized subcommand '{word}'"
  | .missingCommand => "'gantry' requires a subcommand but one was not provided"
  | .missingValue parameter =>
      s!"a value is required for '--{parameter.name}' but none was supplied"
  | .invalidValue parameter value =>
      s!"invalid value '{value}' for '--{parameter.name}'"
  | .repeated parameter =>
      s!"the argument '--{parameter.name}' cannot be used multiple times"
  | .missing parameter =>
      s!"the argument '--{parameter.name}' is required but was not provided"
  | .conflict first second =>
      s!"the argument '--{first.name}' cannot be used with '--{second.name}'"

/-- How much a help tells. -/
inductive Detail
  | brief
  | full
  deriving DecidableEq, Repr

/-- Why reading a command line stops before its end. -/
inductive Stop
  /-- The command line is empty. -/
  | nothing
  | help (scope : Scope) (detail : Detail)
  | version (scope : Scope)
  | fault (fault : UsageFault)
  deriving DecidableEq, Repr

/-- The formats of answers. -/
inductive Format
  | text
  | json
  deriving DecidableEq, Repr

/-- The format with a name. -/
def Format.ofName? : String → Option Format
  | "text" => some .text
  | "json" => some .json
  | _ => none

/-- The parameters read so far with their values. -/
abbrev Given := List (Parameter × String)

/-- The value of a parameter. -/
def Given.value? (given : Given) (parameter : Parameter) : Option String :=
  (given.find? fun entry => entry.1 == parameter).map (·.2)

/-- Whether a parameter is there. -/
def Given.has (given : Given) (parameter : Parameter) : Bool :=
  (given.value? parameter).isSome

/-- Whether a parameter may have a value. -/
def Takes.allows : Takes → String → Bool
  | .path, value => !value.isEmpty
  | .format, value => (Format.ofName? value).isSome
  | _, _ => true

/-- Adds a parameter with its value, which must be allowed.  Parameters stand
once in a scope. -/
def Given.add (given : Given) (parameter : Parameter) (value : String) :
    Except Stop Given :=
  if !parameter.takes.allows value then
    .error (.fault (.invalidValue parameter value))
  else if given.has parameter then .error (.fault (.repeated parameter))
  else .ok ((parameter, value) :: given)

/-- The parameters of a scope while its words are read. -/
structure Reading where
  given : Given := []
  /-- The last parameter with its value, when that has not been looked at. -/
  pending : Option (Parameter × String) := none

namespace Reading

/-- Whether no parameter has been read. -/
def isEmpty (reading : Reading) : Bool :=
  reading.given.isEmpty && reading.pending.isNone

/-- The parameters, after a look at the last one. -/
def settle (reading : Reading) : Except Stop Given :=
  match reading.pending with
  | none => .ok reading.given
  | some (parameter, value) => reading.given.add parameter value

/-- Adds a parameter with its value. -/
def add (reading : Reading) (parameter : Parameter) (value : String) :
    Except Stop Reading := do
  return { given := ← (← reading.settle).add parameter value }

/-- Adds a parameter whose value is not looked at yet. -/
def await (reading : Reading) (parameter : Parameter) (value : String) :
    Except Stop Reading := do
  return { given := ← reading.settle, pending := some (parameter, value) }

end Reading

namespace Scope

/-- The parameter of the scope with a long name. -/
def ofName? (scope : Scope) (name : String) : Option Parameter :=
  scope.parameters.find? fun parameter => parameter.name == name

/-- The parameter of the scope with a short name. -/
def ofShort? (scope : Scope) (mark : Char) : Option Parameter :=
  scope.parameters.find? fun parameter => parameter.short? == some mark

/-- Adds a parameter that takes no value.  Help and version end the reading. -/
def addBare (scope : Scope) (detail : Detail) (reading : Reading)
    (parameter : Parameter) :
    Except Stop Reading := do
  let given ← reading.settle
  match parameter with
  | .help => throw (.help scope detail)
  | .version => throw (.version scope)
  | _ => return { given := ← given.add parameter "" }

/-- Reads a word of short names.  A parameter that takes a value has it in the
rest of the word; if there is no rest, the parameter is owed a value. -/
def readShort (scope : Scope) (word : String) :
    Reading → List Char → Except Stop (Reading × Option Parameter)
  | reading, [] => .ok (reading, none)
  | reading, mark :: rest =>
      match scope.ofShort? mark with
      | none => .error (.fault (.unexpected word))
      | some parameter =>
          if parameter.takes == .nothing then
            match scope.addBare .brief reading parameter with
            | .error stop => .error stop
            | .ok reading => readShort scope word reading rest
          else
            let added (value : List Char) :
                Except Stop (Reading × Option Parameter) := do
              return (← reading.add parameter (String.ofList value), none)
            match rest with
            | [] => .ok (reading, some parameter)
            | '=' :: value => added value
            | value => added value

/-- Reads a word with a long name.  The parameter may be owed a value. -/
def readLong (scope : Scope) (reading : Reading) (word : String)
    (body : List Char) :
    Except Stop (Reading × Option Parameter) := do
  let name := body.takeWhile (· != '=')
  match scope.ofName? (String.ofList name), body.drop name.length with
  | none, _ => throw (.fault (.unexpected word))
  | some parameter, [] =>
      if parameter.takes == .nothing then
        return (← scope.addBare .full reading parameter, none)
      else return (reading, some parameter)
  | some parameter, _ :: value =>
      if parameter.takes == .nothing then throw (.fault (.unexpected word))
      else return (← reading.add parameter (String.ofList value), none)

/-- The command with a name. -/
def ofCommand? : String → Option Scope
  | "optimize" => some .optimize
  | "strategies" => some .strategies
  | "help" => some .help
  | _ => none

end Scope

/-- Whether a word starts a parameter and so is no value of one. -/
def isParameterWord (word : String) : Bool :=
  word.toList.head? == some '-' && word.toList.length != 1

/-- What the words of a scope give, and the command among them with the words
after it. -/
structure Words where
  reading : Reading
  command : Option (String × List String) := none

/-- Reads the words of a scope after the parameters read before. -/
def readWords (scope : Scope) (reading : Reading) :
    List String → Except Stop Words
  | [] => .ok { reading }
  | word :: rest =>
      let next : Except Stop (Option (Reading × Option Parameter)) :=
        match word.toList with
        | ['-', '-'] =>
            match rest with
            | [] => .ok none
            | extra :: _ => .error (.fault (.unexpected extra))
        | '-' :: '-' :: body => (scope.readLong reading word body).map some
        | '-' :: mark :: marks =>
            (scope.readShort word reading (mark :: marks)).map some
        | _ =>
            if scope == .program then
              .ok none else .error (.fault (.unexpected word))
      match next with
      | .error stop => .error stop
      | .ok none =>
          if word == "--" then
            .ok { reading } else .ok { reading, command := some (word, rest) }
      | .ok (some (reading, none)) => readWords scope reading rest
      | .ok (some (reading, some parameter)) =>
          match rest with
          | [] => .error (.fault (.missingValue parameter))
          | value :: rest =>
              if isParameterWord value then
                .error (.fault (.missingValue parameter))
              else match reading.await parameter value with
                | .error stop => .error stop
                | .ok reading => readWords scope reading rest

/-- What both commands are told. -/
structure Settings where
  verbose : Bool := false
  quiet : Bool := false
  format : Format := .text
  /-- The directory to work in. -/
  directory : Option String := none
  /-- Where the configuration is, when it is not searched for. -/
  config : Option String := none

/-- What deciding the tasks of a push is told. -/
structure Optimization where
  params : String
  tasks : String
  /-- The project whose policy applies, when it is not that of the push. -/
  project : Option String := none
  purpose : String := "test"
  /-- The strategy that applies instead of a policy. -/
  strategy : Option String := none
  importance : Option String := none
  changedFiles : Option String := none
  components : Option String := none
  removedOnly : Bool := false

/-- What is asked for. -/
inductive Action
  | optimize (told : Optimization)
  | strategies (long : Bool)

/-- The settings that parameters give, those after the command first, with the
configuration that the environment names. -/
def settingsOf (given : Given) (named : Option String) : Settings where
  verbose := given.has .verbose
  quiet := given.has .quiet
  format := ((given.value? .format).bind Format.ofName?).getD .text
  directory := given.value? .directory
  config := (given.value? .config).or named

/-- What a required parameter gives. -/
def required (given : Given) (parameter : Parameter) : Except Stop String :=
  match given.value? parameter with
  | some value => .ok value
  | none => .error (.fault (.missing parameter))

/-- What deciding the tasks is told by parameters. -/
def optimizationOf (given : Given) : Except Stop Optimization := do
  let params ← required given .params
  let tasks ← required given .tasks
  if given.has .strategy && given.has .project then
    throw (.fault (.conflict .strategy .project))
  return {
    params := params
    tasks := tasks
    project := given.value? .project
    purpose := (given.value? .purpose).getD "test"
    strategy := given.value? .strategy
    importance := given.value? .importance
    changedFiles := given.value? .changedFiles
    components := given.value? .components
    removedOnly := given.has .removedOnly }

/-- Reads which help is asked for. -/
def helpOf : List String → Stop
  | [] => .help .program .full
  | [name] =>
      match Scope.ofCommand? name with
      | some scope => .help scope .full
      | none => .fault (.unknownCommand name)
  | _ :: extra :: _ => .fault (.unknownCommand extra)

/-- Reads a command line without the name of the program.  The environment may
name the configuration; an empty name is refused unless nothing needs it. -/
def read (named : Option String) (words : List String) :
    Except Stop (Settings × Action) := do
  let first ← readWords .program {} words
  match first.command with
  | none =>
      if first.reading.isEmpty && named.isNone then throw .nothing
      else throw (.fault .missingCommand)
  | some (name, rest) =>
      match Scope.ofCommand? name with
      | none | some .program => throw (.fault (.unknownCommand name))
      | some .help => throw (helpOf rest)
      | some scope =>
          let second ← (← readWords scope {} rest).reading.settle
          let first ← first.reading.settle
          let needed := !(first.has .config && second.has .config)
          if named == some "" && needed then
            throw (.fault (.missingValue .config))
          let settings := settingsOf (second ++ first) named
          if scope == .strategies then
            return (settings, .strategies (second.has .long))
          else return (settings, .optimize (← optimizationOf second))

end TaskSieve.Command
