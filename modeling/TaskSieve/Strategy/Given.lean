import TaskSieve.Strategy.Basic

/-!
# Strategies with given votes

These strategies vote as they are told and note in the history which task they
were asked about.  They serve to try out compositions.
-/

namespace TaskSieve.Strategy

/-- Notes that a task was asked about. -/
def noteAsked (task : Task) : Step Unit :=
  Step.update fun state => state.record (.asked task.label)

/-- A strategy that always gives the same vote. -/
def fixed (vote : Bool) : Strategy :=
  .custom s!"fixed({vote})" fun task _ _ => do
    noteAsked task
    return vote

/-- A strategy that removes the tasks with the given labels. -/
def removing (labels : List String) : Strategy :=
  .custom "fixed(true)" fun task _ _ => do
    noteAsked task
    return labels.contains task.label

/-- A strategy that always fails. -/
def failing (failure : Failure) : Strategy :=
  .custom "failing" fun task _ _ => do
    noteAsked task
    Step.answer (.error failure)

end TaskSieve.Strategy
