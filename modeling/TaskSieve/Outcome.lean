import TaskSieve.Strategy.Decision

/-!
# Deciding all tasks of a push

The tasks are decided in order; the first failure is that of the push.
-/

namespace TaskSieve

/-- The labels kept and removed, each in the order of the tasks. -/
structure Outcome where
  kept : List String := []
  removed : List String := []
  deriving DecidableEq, Repr

namespace Outcome

/-- How many tasks were decided. -/
def total (outcome : Outcome) : Nat :=
  outcome.kept.length + outcome.removed.length

/-- The outcome with one more task before it. -/
def cons (label : String) (removed : Bool) (outcome : Outcome) : Outcome :=
  if removed then { outcome with removed := label :: outcome.removed }
  else { outcome with kept := label :: outcome.kept }

end Outcome

/-- Decides the tasks of a push. -/
def evaluate (client : Client) (context : Context) (push : Push)
    (strategy : Strategy) :
    List Task → Step Outcome
  | [] => pure {}
  | task :: rest => do
      let removed ← strategy.decide { client, context, push, task }
      let outcome ← evaluate client context push strategy rest
      return outcome.cons task.label removed

end TaskSieve
