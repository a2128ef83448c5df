import TaskSieve.Strategy.Basic

/-!
# How strategies decide

`Strategy.decide` answers whether a task is removed from a push.  Composites
ask their children from left to right and stop as soon as the answer is
settled; a failure stops the decision.
-/

namespace TaskSieve

/-- What a decision is about and what it may use. -/
structure Question where
  client : Client
  context : Context
  push : Push
  task : Task

/-- Whether a task is removed because none of its components is scheduled.
Pushes outside the push log, unknown components and tasks without components
keep the task. -/
def removesUnscheduled (context : Context) (push : Push) (task : Task) : Bool :=
  match context.components with
  | none => false
  | some scheduled =>
      push.id != -1 && !task.attributes.components.isEmpty &&
        !task.attributes.components.any scheduled.contains

/-- Whether a task is removed because no test group of it lies near a changed
file.  Tasks without a suite are kept, as are all tasks when the changed files
are not known. -/
def removesIrrelevant (context : Context) (task : Task) : Step Bool :=
  match task.attributes.suite, context.changedFiles with
  | some _, some files => do
      let directories ← Context.directories files
      return !RelevantTests.anyUnder task.manifests directories
  | _, _ => pure false

/-- Whether a task is removed by dispersing groups.  Without any importance all
tasks are kept. -/
def removesDispersed (context : Context) (targets : Targets) (task : Task) :
    Step Bool :=
  if context.importance.isEmpty then pure false
  else do
    let plan ← context.plan targets
    return plan.removes task.label

/-- Whether a task is removed for low confidence.  When the predictor times out,
the fallback decides; without one the timeout stands. -/
def removesUnlikely (question : Question) (rule : PredictorRule)
    (fallback : Option (Step Bool)) : Step Bool :=
  if !allowsProject rule.projects question.push.project then pure false
  else fun state =>
    match question.client.evidenceFor question.push rule.pushes state with
    | (.ok evidence, after) =>
        (.ok (rule.selector.removes evidence question.task), after)
    | (.error (.evidence (.timeout branch revision elapsed)), after) =>
        match fallback with
        | some decide => decide after
        | none => (.error (.evidence (.timeout branch revision elapsed)), after)
    | (.error failure, after) => (.error failure, after)

namespace Strategy

mutual

/-- Whether a strategy removes the task. -/
def decide (question : Question) : Strategy → Step Bool
  | .backstop => pure !question.push.backstop
  | .pushInterval gate => pure (gate.removes question.push)
  | .expanded half =>
      pure (!question.push.backstop && half.removes question.push)
  | .debug => pure !question.task.attributes.isDebug
  | .schedules =>
      pure (removesUnscheduled question.context question.push question.task)
  | .relevantTests => removesIrrelevant question.context question.task
  | .disperse targets => removesDispersed question.context targets question.task
  | .predictor rule => removesUnlikely question rule none
  | .predictorOr rule fallback =>
      removesUnlikely question rule (some (fallback.decide question))
  | .custom _ vote => vote question.task question.push question.context
  | .any children => decideAny question children
  | .all children =>
      match children with
      | [] => pure false
      | child :: rest => decideAll question (child :: rest)
  | .not child => do return !(← child.decide question)

/-- Whether some strategy removes the task, asked up to the first that does. -/
def decideAny (question : Question) : List Strategy → Step Bool
  | [] => pure false
  | child :: rest => do
      if ← child.decide question then return true
      decideAny question rest

/-- Whether every strategy removes the task, asked up to the first that does
not. -/
def decideAll (question : Question) : List Strategy → Step Bool
  | [] => pure true
  | child :: rest => do
      if ← child.decide question then decideAll question rest
      else return false

end

end Strategy

end TaskSieve
