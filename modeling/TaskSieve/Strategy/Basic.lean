import TaskSieve.Client
import TaskSieve.Context
import TaskSieve.Selector

/-!
# Strategies

A strategy votes on removing a task.  The simple ones look at the push, the
task, the context or the predictor; the others are composed from them.
-/

namespace TaskSieve

/-- A gate for every push whose id is a multiple of an interval. -/
structure PushInterval where
  interval : Int
  /-- The projects where the gate removes tasks; all when absent. -/
  projects : Option (List String) := none
  positive : 0 < interval

/-- A rule that removes tasks of low confidence. -/
structure PredictorRule where
  selector : Selector
  /-- From how many pushes evidence is gathered. -/
  pushes : Nat := 1
  /-- The projects where the rule removes tasks; all when absent. -/
  projects : Option (List String) := none

/-- A strategy. -/
inductive Strategy
  /-- Removes unless the push runs every task. -/
  | backstop
  /-- Removes unless the push id is a multiple of the interval. -/
  | pushInterval (gate : PushInterval)
  /-- Removes unless the push runs every task or its id is a multiple of half
  the interval. -/
  | expanded (half : PushInterval)
  /-- Removes unless the task runs a debug build. -/
  | debug
  /-- Removes unless a component of the task is scheduled. -/
  | schedules
  /-- Removes unless a test group of the task lies near a changed file. -/
  | relevantTests
  /-- Removes what the dispersal plan does not retain. -/
  | disperse (targets : Targets)
  /-- Removes tasks of low confidence. -/
  | predictor (rule : PredictorRule)
  /-- Removes tasks of low confidence; another strategy decides when the
  predictor times out. -/
  | predictorOr (rule : PredictorRule) (fallback : Strategy)
  /-- Votes as a given function does. -/
  | custom (description : String) (vote : Task → Push → Context → Step Bool)
  /-- Removes when some child removes. -/
  | any (children : List Strategy)
  /-- Removes when every child removes and there is one. -/
  | all (children : List Strategy)
  /-- Removes when the child does not. -/
  | not (child : Strategy)

instance : Inhabited Strategy := ⟨.backstop⟩

/-- Whether a restriction to projects lets a project through. -/
def allowsProject (projects : Option (List String)) (project : String) : Bool :=
  match projects with
  | none => true
  | some projects => projects.contains project

namespace PushInterval

/-- The gate of an interval in all projects. -/
def make (interval : Int) : Except ConfigError PushInterval :=
  if positive : 0 < interval then .ok { interval, positive }
  else
    .error
      (.invalid "push_interval" s!"must be a positive integer, got {interval}")

/-- The gate of half a backstop interval. -/
def half (interval : Int) : Except ConfigError PushInterval :=
  match make (interval.tdiv 2) with
  | .ok gate => .ok gate
  | .error _ =>
      .error (.invalid "backstop.push_interval"
        s!"must be at least 2, got {interval}")

/-- The gate in the given projects only. -/
def onlyProjects (gate : PushInterval) (projects : List String) :
    PushInterval :=
  { gate with projects := some projects }

/-- Whether a push lies on the interval. -/
def isDue (gate : PushInterval) (push : Push) : Bool :=
  push.id % gate.interval = 0

/-- Whether the gate removes the tasks of a push. -/
def removes (gate : PushInterval) (push : Push) : Bool :=
  allowsProject gate.projects push.project && !gate.isDue push

/-- The text that describes the gate. -/
def description (gate : PushInterval) : String :=
  s!"skip-unless-push-interval({gate.interval})"

end PushInterval

namespace PredictorRule

/-- The rule of a threshold that asks about the push alone, in all projects. -/
def ofThreshold (threshold : Binary64) : Except ConfigError PredictorRule := do
  return { selector := ← Selector.ofThreshold threshold }

/-- The rule over a window of so many pushes. -/
def withPushes (rule : PredictorRule) (pushes : Nat) :
    Except ConfigError PredictorRule :=
  if pushes = 0 then .error (.invalid "num_pushes" "must be at least 1")
  else .ok { rule with pushes }

/-- The text that describes the rule. -/
def description (rule : PredictorRule) (fallback : Bool) : String :=
  s!"bugbug(threshold={rule.selector.threshold.text}, "
    ++ s!"pushes={rule.pushes}, fallback={fallback})"

end PredictorRule

namespace Strategy

mutual

/-- The text that describes a strategy. -/
def description : Strategy → String
  | .backstop => "skip-unless-backstop"
  | .pushInterval gate => gate.description
  | .expanded half =>
      s!"skip-unless-expanded(all(skip-unless-backstop, {half.description}))"
  | .debug => "skip-unless-debug"
  | .schedules => "skip-unless-schedules"
  | .relevantTests => "skip-unless-has-relevant-tests"
  | .disperse targets =>
      s!"disperse-groups(low={targets.low}, medium={targets.medium}, "
        ++ s!"high={targets.high})"
  | .predictor rule => rule.description false
  | .predictorOr rule _ => rule.description true
  | .custom description _ => description
  | .any children => "any(" ++ ", ".intercalate (descriptions children) ++ ")"
  | .all children => "all(" ++ ", ".intercalate (descriptions children) ++ ")"
  | .not child => "not(" ++ child.description ++ ")"

/-- The texts that describe several strategies. -/
def descriptions : List Strategy → List String
  | [] => []
  | child :: rest => child.description :: descriptions rest

end

end Strategy

end TaskSieve
