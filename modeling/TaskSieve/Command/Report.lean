import TaskSieve.Command.Arguments
import TaskSieve.Engine
import TaskSieve.Json.Write

/-!
# Reports

The answers of the commands as text for people and as documents for programs.
-/

namespace TaskSieve.Command

/-- A line with a name and a value. -/
def detail (name value : String) : String :=
  "  " ++ name ++ ": " ++ value ++ "\n"

/-- A text as a line. -/
def line (text : String) : String := text ++ "\n"

/-- Several texts as lines. -/
def lines (texts : List String) : String := String.join (texts.map line)

/-- What was decided about the tasks of a push. -/
structure Decisions where
  project : String
  purpose : String
  /-- The name of the strategy, or of the policy as project and purpose. -/
  strategy : String
  push : Push
  outcome : Outcome

namespace Decisions

/-- The decisions as a document. -/
def encode (decisions : Decisions) : Datum :=
  .record [
    ("kept", Datum.ofNames decisions.outcome.kept),
    ("project", .text decisions.project),
    ("purpose", .text decisions.purpose),
    ("pushdate", Datum.ofOption .text decisions.push.dateText),
    ("pushlog_id", .int decisions.push.id),
    ("removed", Datum.ofNames decisions.outcome.removed),
    ("strategy", .text decisions.strategy)]

/-- What stands above the labels. -/
def header (decisions : Decisions) : String :=
  let outcome := decisions.outcome
  let date := match decisions.push.dateText with
    | some date => detail "Pushed" date
    | none => ""
  "Optimization Results\n\n" ++ detail "Strategy" decisions.strategy
    ++ detail "Push" (toString decisions.push.id) ++ date
    ++ detail "Tasks"
      s!"{outcome.kept.length} kept, {outcome.removed.length} removed" ++ "\n"

/-- The decisions as text. -/
def text (decisions : Decisions) (quiet removedOnly : Bool) : String :=
  let outcome := decisions.outcome
  let kept := if removedOnly then [] else outcome.kept.map ("  + " ++ ·)
  let removed := outcome.removed.map ("  - " ++ ·)
  let labels := lines (kept ++ removed)
  if quiet then labels
  else
    decisions.header ++ labels ++ "\n" ++
      line s!"✓ Evaluated {outcome.total} tasks"

/-- The decisions in the format asked for. -/
def report (decisions : Decisions) (settings : Settings) (removedOnly : Bool) :
    String :=
  match settings.format with
  | .json => line (Json.writeIndented decisions.encode)
  | .text => decisions.text settings.quiet removedOnly

end Decisions

namespace Listing

/-- The strategies and policies of an engine as a document. -/
def encode (engine : Engine) : Datum :=
  .record [
    ("config_path", Datum.ofOption .text engine.path),
    ("policies", .list (engine.policies.keys.map fun key =>
      .record [("project", .text key.project),
      ("purpose", .text key.purpose)])),
    ("strategies", .list (engine.registry.listing.map fun entry =>
      .record [("description", .text entry.2), ("name", .text entry.1)]))]

/-- The strategies and policies of an engine as text.  Before a warning stands
an empty line. -/
def text (engine : Engine) (quiet long : Bool) : String :=
  let strategies := lines (engine.registry.listing.map fun entry =>
    "  " ++ entry.1 ++ if long then " " ++ entry.2 else "")
  let policies := lines (engine.policies.keys.map fun key =>
    "  " ++ key.project ++ "/" ++ key.purpose)
  if quiet then strategies
  else "Strategies\n" ++ strategies ++ "\nPolicies\n" ++ policies
    ++ if engine.path.isNone then "\n" else ""

/-- What is said when no configuration was found. -/
def warning : String := line "! No configuration file found, using defaults"

/-- The strategies and policies in the format asked for, and the warnings about
them. -/
def report (engine : Engine) (settings : Settings) (long : Bool) :
    String × String :=
  match settings.format with
  | .json => (line (Json.writeIndented (encode engine)), "")
  | .text =>
      (text engine settings.quiet long,
        if !settings.quiet && engine.path.isNone then warning else "")

end Listing

end TaskSieve.Command
