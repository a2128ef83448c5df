import TaskSieve.Command.Arguments
import TaskSieve.Text.Visible

/-!
# Help

What the program and its commands say about themselves.  A brief help has one
line for each parameter, unless the lines would be too wide; a full help puts
what a parameter is for below it, with its default and its values.
-/

namespace TaskSieve.Command

/-- The version of the program. -/
def version : String := "0.1.0"

namespace Scope

/-- The name under which a scope is shown. -/
def title : Scope → String
  | .program => "gantry"
  | .optimize => "gantry-optimize"
  | .strategies => "gantry-strategies"
  | .help => "gantry-help"

/-- What a scope is for. -/
def summary : Scope → String
  | .program => "Gantry - task optimization decision engine for CI pushes"
  | .optimize => "Decide which tasks of a push to run"
  | .strategies => "List registered strategies and project policies"
  | .help => "Print this message or the help of the given subcommand(s)"

/-- How a scope is called. -/
def usage : Scope → String
  | .program => "gantry [OPTIONS] <COMMAND>"
  | .optimize => "gantry optimize [OPTIONS] --params <PARAMS> --tasks <TASKS>"
  | .strategies => "gantry strategies [OPTIONS]"
  | .help => "gantry help [COMMAND]..."

/-- The text that asking for the version of a scope shows. -/
def versionText (scope : Scope) : String :=
  scope.title ++ " " ++ version ++ "\n"

end Scope

namespace Parameter

/-- What a parameter is for. -/
def summary (detail : Detail) : Parameter → String
  | .verbose => "Enable verbose output"
  | .quiet => "Suppress output except errors"
  | .format => "Output format"
  | .directory => "Working directory"
  | .config =>
      "Configuration file (searched upward from the working directory "
        ++ "by default)"
  | .help =>
      match detail with
      | .brief => "Print help (see more with '--help')"
      | .full => "Print help (see a summary with '-h')"
  | .version => "Print version"
  | .params => "Push parameters (JSON)"
  | .tasks => "Task set (JSON list of tasks, or a map of label to task)"
  | .project => "Project whose policy to apply (defaults to the push's project)"
  | .purpose => "Policy purpose"
  | .strategy =>
      "Evaluate a single registered strategy instead of the project policy"
  | .importance => "Per-group importance (JSON map of group to low/medium/high)"
  | .changedFiles => "Files changed by the push, one path per line"
  | .components => "Components scheduled by the push (JSON list)"
  | .removedOnly => "Only print removed tasks"
  | .long => "Also show each strategy's description"

/-- The values that a parameter may have, when there are few, with what they
mean. -/
def values : Parameter → List (String × String)
  | .format => [("text", "Human-readable text output"), ("json", "JSON output")]
  | _ => []

/-- What else there is to know about a parameter: where the environment, which
names a configuration or not, has it, and what it is when it is not there. -/
def notes (named : Option String) : Parameter → List String
  | .config => ["[env: GANTRY_CONFIG=" ++ named.getD "" ++ "]"]
  | .format => ["[default: text]"]
  | .purpose => ["[default: test]"]
  | _ => []

/-- How a parameter is written. -/
def form (parameter : Parameter) : String :=
  let short := match parameter.short? with
    | some mark => "-" ++ String.singleton mark ++ ", "
    | none => "    "
  let value :=
    if parameter.takes == .nothing then ""
    else " <" ++ (parameter.name.replace "-" "_").toUpper ++ ">"
  short ++ "--" ++ parameter.name ++ value

/-- What a brief help says about a parameter. -/
def brief (named : Option String) (parameter : Parameter) : String :=
  let values := parameter.values.map (·.1)
  let listed := if values.isEmpty then
    [] else ["[possible values: " ++ ", ".intercalate values ++ "]"]
  " ".intercalate (parameter.summary .brief :: parameter.notes named ++ listed)

end Parameter

/-- The width of a page of help. -/
def pageWidth : Nat := 100

/-- The start of a line below a parameter. -/
def margin : String := "\n          "

/-- A text whose further lines start with a margin. -/
def indented (margin text : String) : String := text.replace "\n" margin

/-- What a full help says about a parameter. -/
def Parameter.full (named : Option String) (parameter : Parameter) : String :=
  let value (entry : String × String) : String :=
    margin ++ "- " ++ entry.1 ++ ": " ++ entry.2
  let values :=
    if parameter.values.isEmpty then ""
    else
      "\n" ++ margin ++ "Possible values:" ++
        String.join (parameter.values.map value)
  let notes := (parameter.notes named).map fun note =>
    margin ++ margin ++ indented margin note
  margin ++ parameter.summary .full ++ values ++ String.join notes

/-- Pads a text to a width. -/
def padded (width : Nat) (text : String) : String :=
  text ++ String.ofList (List.replicate (width - text.length) ' ')

/-- The width of the first of two columns. -/
def firstWidth (rows : List (String × String)) : Nat :=
  rows.foldl (fun width row => Nat.max width row.1.length) 0

/-- Rows of two columns. -/
def columns (rows : List (String × String)) : List String :=
  let width := firstWidth rows + 2
  let start := "\n" ++ padded (width + 2) ""
  rows.map fun row => "  " ++ padded width row.1 ++ indented start row.2

/-- Whether two columns leave too little room for the second one. -/
def isCrowded (rows : List (String × String)) : Bool :=
  let taken := firstWidth rows + 8
  2 * pageWidth < 5 * taken && rows.any fun row => pageWidth <
    taken + row.2.length

/-- The table of the parameters of a scope. -/
def Scope.table (scope : Scope) (detail : Detail) (named : Option String) :
    String :=
  match detail with
  | .brief =>
      let rows := scope.parameters.map fun parameter =>
        (parameter.form, parameter.brief named)
      "\n".intercalate <|
        if isCrowded rows then
          rows.map fun row => "  " ++ row.1 ++ margin ++ indented margin row.2
        else columns rows
  | .full =>
      "\n\n".intercalate
        (scope.parameters.map fun parameter => "  " ++ parameter.form ++
          parameter.full named)

/-- The commands with what they are for. -/
def commandRows : List (String × String) :=
  [("optimize", Scope.optimize.summary),
    ("strategies", Scope.strategies.summary), ("help", Scope.help.summary)]

/-- The sections of the help of a scope. -/
def Scope.sections (scope : Scope) (detail : Detail) (named : Option String) :
    List String :=
  let optional := "Options:\n" ++ scope.table detail named
  match scope with
  | .program =>
      ["Commands:\n" ++ "\n".intercalate (columns commandRows), optional]
  | .help => ["Arguments:\n  [COMMAND]...  Print help for the subcommand(s)"]
  | _ => [optional]

/-- The help of a scope. -/
def Scope.helpText (scope : Scope) (detail : Detail) (named : Option String) :
    String :=
  let sections :=
    scope.summary :: ("Usage: " ++ scope.usage) :: scope.sections detail named
  Text.visible ("\n\n".intercalate sections ++ "\n")

/-- The text about a fault in a command line. -/
def UsageFault.text (fault : UsageFault) : String :=
  "error: " ++ fault.message ++ "\n\nFor more information, try '--help'.\n"

end TaskSieve.Command
