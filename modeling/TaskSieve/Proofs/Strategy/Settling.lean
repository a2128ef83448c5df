import TaskSieve.Proofs.Memo
import TaskSieve.Proofs.Strategy.Asking
import TaskSieve.Proofs.Strategy.Standard

/-!
# Votes that do not depend on what was asked before

When an invariant fixes what the predictor answers about a push and bounds what
the memo holds, it fixes the vote of every standard strategy as well.  The
induction follows the composition: a composite goes on to its next child only
from states that satisfy the invariant again, and so does a predictor rule
whose fallback decides after a timeout.
-/

namespace TaskSieve

open Step

section Unlikely

variable {question : Question} {rule : PredictorRule}
  {fallback : Option (Step Bool)} {state after : State}

theorem removesUnlikely_elsewhere
    (elsewhere : allowsProject rule.projects question.push.project = false) :
    removesUnlikely question rule fallback = pure false := by
  simp [removesUnlikely, elsewhere]

variable (allowed : allowsProject rule.projects question.push.project = true)

include allowed

theorem removesUnlikely_ok {evidence : Evidence}
    (answered : question.client.evidenceFor question.push rule.pushes state =
      (.ok evidence, after)) :
    removesUnlikely question rule fallback state =
      (.ok (rule.selector.removes evidence question.task), after) := by
  simp [removesUnlikely, allowed, answered]

theorem removesUnlikely_timeout {branch revision : String} {elapsed : Nat}
    (answered : question.client.evidenceFor question.push rule.pushes state =
      (.error (.evidence (.timeout branch revision elapsed)), after)) :
    removesUnlikely question rule fallback state =
      match fallback with
      | some decide => decide after
      | none =>
          (.error (.evidence (.timeout branch revision elapsed)), after) := by
  cases fallback with
  | none => simp [removesUnlikely, allowed, answered]
  | some decide => simp [removesUnlikely, allowed, answered]

theorem removesUnlikely_failed {failure : Failure}
    (hard : failure.isTimeout = false)
    (answered : question.client.evidenceFor question.push rule.pushes state =
      (.error failure, after)) :
    removesUnlikely question rule fallback state = (.error failure, after) := by
  cases failure with
  | evidence error =>
      cases error with
      | timeout branch revision elapsed => cases hard
      | http url status detail => simp [removesUnlikely, allowed, answered]
      | decode url detail => simp [removesUnlikely, allowed, answered]
  | config error => simp [removesUnlikely, allowed, answered]
  | pushLog error => simp [removesUnlikely, allowed, answered]
  | strategy error => simp [removesUnlikely, allowed, answered]

end Unlikely

variable {client : Client} {context : Context} {push : Push}
  {invariant : State → Prop} {passing : Failure → Prop}

/-- A rule settles when the evidence does and its fallback does. -/
theorem removesUnlikely_settles {task : Task} {rule : PredictorRule}
    {fallback : Option (Step Bool)}
    (late : ∀ failure, failure.isTimeout = true → passing failure)
    (evidence : ∃ answer,
      Settles invariant passing (client.evidenceFor push rule.pushes) answer)
    (fallbackSettles : ∀ decide, fallback = some decide →
      ∃ answer, Settles invariant passing decide answer) :
    ∃ answer, Settles invariant passing
      (removesUnlikely { client, context, push, task } rule fallback)
        answer := by
  cases allowed : allowsProject rule.projects push.project with
  | false =>
      rw [removesUnlikely_elsewhere allowed]
      exact ⟨_, Settles.pure false⟩
  | true =>
      obtain ⟨answer, settled⟩ := evidence
      cases answer with
      | ok evidence =>
          refine ⟨.ok (rule.selector.removes evidence task),
            Settles.of_results ?_⟩
          intro state holds
          obtain ⟨after, answered, kept⟩ := settled.result_ok holds
          exact ⟨_, after, removesUnlikely_ok allowed answered, .same _,
            fun _ => kept⟩
      | error failure =>
          cases timeout : failure.isTimeout with
          | false =>
              refine ⟨.error failure, Settles.of_results ?_⟩
              intro state holds
              obtain ⟨other, after, failed, agree, kept⟩ :=
                settled.result_error holds
              have hard : other.isTimeout = false :=
                agree.isTimeout_eq.trans timeout
              exact ⟨.error other, after,
                removesUnlikely_failed allowed hard failed, agree.error_cast,
                fun passes => kept (passes other rfl)⟩
          | true =>
              cases fallback with
              | none =>
                  refine ⟨.error failure, Settles.of_results ?_⟩
                  intro state holds
                  obtain ⟨other, after, failed, agree, kept⟩ :=
                    settled.result_error holds
                  obtain ⟨branch, revision, elapsed, rfl⟩ :=
                    Failure.exists_of_isTimeout
                      (agree.isTimeout_eq.trans timeout)
                  exact ⟨_, after, removesUnlikely_timeout allowed failed,
                    agree.error_cast, fun passes => kept (passes _ rfl)⟩
              | some decide =>
                  obtain ⟨answer, settledFallback⟩ := fallbackSettles decide rfl
                  refine ⟨answer, settledFallback.of_continues ?_⟩
                  intro state holds
                  obtain ⟨other, after, failed, agree, kept⟩ :=
                    settled.result_error holds
                  obtain ⟨branch, revision, elapsed, rfl⟩ :=
                    Failure.exists_of_isTimeout
                      (agree.isTimeout_eq.trans timeout)
                  exact ⟨after, removesUnlikely_timeout allowed failed,
                    kept (late _ rfl)⟩

/-- What fixes every standard vote about a push: the evidence for each window
settles, timeouts do not end a run, and deriving values is allowed. -/
structure Client.SettlesOn (client : Client) (context : Context) (push : Push)
    (start : Memo) (invariant : State → Prop) (passing : Failure → Prop) :
    Prop where
  evidence : ∀ pushes, ∃ answer,
    Settles invariant passing (client.evidenceFor push pushes) answer
  late : ∀ failure, failure.isTimeout = true → passing failure
  allows : context.AllowsDeriving start invariant

namespace Strategy

variable {start : Memo}

theorem removesIrrelevant_settles
    (allows : context.AllowsDeriving start invariant) (task : Task) :
    ∃ answer,
      Settles invariant passing (removesIrrelevant context task) answer := by
  unfold removesIrrelevant
  cases task.attributes.suite with
  | none => exact ⟨_, Settles.pure false⟩
  | some suite =>
      cases known : context.changedFiles with
      | none => exact ⟨_, Settles.pure false⟩
      | some files =>
          exact ⟨_, (directories_settles allows known).bind_ok (Settles.pure _)⟩

theorem removesDispersed_settles
    (allows : context.AllowsDeriving start invariant) (targets : Targets)
    (task : Task) :
    ∃ answer, Settles invariant passing (removesDispersed context targets task)
      answer := by
  unfold removesDispersed
  cases context.importance.isEmpty with
  | true => exact ⟨_, Settles.pure false⟩
  | false => exact ⟨_, (plan_settles allows targets).bind_ok (Settles.pure _)⟩

theorem composes_settles
    (settling : client.SettlesOn context push start invariant passing)
    (task : Task) :
    Question.Composes { client, context, push, task }
      fun step => ∃ answer, Settles invariant passing step answer where
  pure removes := ⟨_, Settles.pure removes⟩
  bind _ _ settled settledNext := Settles.bind_exists settled settledNext
  irrelevant := removesIrrelevant_settles settling.allows task
  dispersed targets := removesDispersed_settles settling.allows targets task
  unlikely rule _ fallbackSettles :=
    removesUnlikely_settles settling.late (settling.evidence rule.pushes)
      fallbackSettles

/-- Every standard vote about the push is fixed. -/
theorem decide_settles
    (settling : client.SettlesOn context push start invariant passing)
    {strategy : Strategy} (standard : strategy.IsStandard) (task : Task) :
    ∃ answer, Settles invariant passing
      (strategy.decide { client, context, push, task }) answer :=
  decide_of_composes (composes_settles settling task) strategy standard

end Strategy

end TaskSieve
