import TaskSieve.RelevantTests
import TaskSieve.State
import TaskSieve.Importance

/-!
# The context of a decision

What is known about a push besides its tasks.  Values that take longer to
compute are derived once and kept in the state of the run.
-/

namespace TaskSieve

/-- What decisions may look at. -/
structure Context where
  /-- The tasks over which groups are dispersed. -/
  candidates : List Task := []
  importance : Table String Importance := ∅
  /-- The files that the push changes, when known. -/
  changedFiles : Option (List String) := none
  /-- The components that the push schedules, when known. -/
  components : Option Names := none

namespace Context

/-- The directories that hold the files, derived once. -/
def directories (files : List String) : Step Names :=
  Step.derive "changed-dirs"
    (fun held => match held with
      | .directories names => some names
      | _ => none)
    .directories
    (fun _ => RelevantTests.directories files)

/-- The key of the plan for dispersal targets. -/
def planKey (targets : Targets) : String :=
  s!"dispersal-plan:{targets.low}:{targets.medium}"
    ++ s!":{targets.high}:{targets.unseen}"

/-- The plan for dispersal targets, derived once for each of them. -/
def plan (context : Context) (targets : Targets) : Step Plan :=
  Step.derive (planKey targets)
    (fun held => match held with
      | .plan plan => some plan
      | _ => none)
    .plan
    (fun _ => Plan.compute context.candidates context.importance targets)

end Context

end TaskSieve
