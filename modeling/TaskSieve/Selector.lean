import TaskSieve.Config.Check
import TaskSieve.Evidence
import TaskSieve.Task

/-!
# Selection by confidence

A task is removed when the predictor knows it and gives it less confidence
than a threshold, counting its own confidence and that of its test groups.
-/

namespace TaskSieve

/-- A threshold between 0 and 1 and which confidences count. -/
structure Selector where
  threshold : Binary64
  /-- Whether the confidences of test groups are left out. -/
  tasksOnly : Bool := false
  /-- Whether only confidences of the reduced set of tasks count. -/
  reducedTasks : Bool := false
  isFraction : threshold.isFraction = true

namespace Selector

/-- The selector of a threshold that counts all confidences. -/
def ofThreshold (threshold : Binary64) : Except ConfigError Selector :=
  if isFraction : threshold.isFraction = true then .ok { threshold, isFraction }
  else .error (.invalid "threshold" s!"{threshold.text} is outside [0, 1]")

/-- The largest of some confidences. -/
def largest? : List Binary64 → Option Binary64
  | [] => none
  | first :: rest => some (rest.foldl Binary64.larger first)

/-- The confidence that counts for a task, if there is any. -/
def score? (selector : Selector) (evidence : Evidence) (task : Task) :
    Option Binary64 :=
  if selector.reducedTasks then evidence.reducedTasks.find? task.label
  else
    let own := evidence.tasks.find? task.label
    if selector.tasksOnly then own
    else largest? (task.manifests.filterMap evidence.groups.find? ++ own.toList)

/-- Whether a task is removed.  Tasks without test groups and tasks that the
predictor has no data for are kept; a known task without any confidence counts
as having none. -/
def removes (selector : Selector) (evidence : Evidence) (task : Task) : Bool :=
  !task.manifests.isEmpty && evidence.knows task.label &&
    ((selector.score? evidence task).getD .zero).less selector.threshold

end Selector

end TaskSieve
