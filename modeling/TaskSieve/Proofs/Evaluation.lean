import TaskSieve.Outcome
import TaskSieve.Proofs.Evidence.Continuation
import TaskSieve.Proofs.Strategy.Settling

/-!
# Decisions about a push do not depend on the order of its tasks

Which strategy asks the predictor first, which revisions are polled and when a
timeout is noticed all depend on the order of the tasks.  The votes do not:
each is fixed by the state that the evaluation starts from, and a vote that
fails for another reason than a timeout ends every evaluation.
-/

namespace TaskSieve

open Step

/-- The outcome of tasks of which some are removed, each part in the order of
the tasks. -/
def Outcome.ofVerdicts (removed : Task → Bool) (tasks : List Task) :
    Outcome where
  kept := (tasks.filter fun task => !removed task).map (·.label)
  removed := (tasks.filter removed).map (·.label)

theorem Outcome.ofVerdicts_cons (removed : Task → Bool) (task : Task)
    (rest : List Task) :
    ofVerdicts removed (task :: rest) =
      (ofVerdicts removed rest).cons task.label (removed task) := by
  cases verdict : removed task with
  | true => simp [ofVerdicts, cons, verdict]
  | false => simp [ofVerdicts, cons, verdict]

/-- Whether a vote, when there is one, removes the task. -/
def removedBy (votes : Task → Except Failure Bool) (task : Task) : Bool :=
  match votes task with
  | .ok removes => removes
  | .error _ => false

section Votes

variable {client : Client} {context : Context} {push : Push}
  {strategy : Strategy} {invariant : State → Prop} {passing : Failure → Prop}
  {votes : Task → Except Failure Bool}

variable (settled : ∀ task, Settles invariant passing
  (strategy.decide { client, context, push, task }) (votes task))

include settled

theorem evaluate_settles_of_verdicts {removed : Task → Bool} {tasks : List Task}
    (agreed : ∀ task ∈ tasks, votes task = .ok (removed task)) :
    Settles invariant passing (evaluate client context push strategy tasks)
      (.ok (Outcome.ofVerdicts removed tasks)) := by
  induction tasks with
  | nil => exact Settles.pure ({} : Outcome)
  | cons task rest induction =>
      have settledRest :=
        induction fun other member => agreed other (by simp [member])
      have settledFirst := settled task
      rw [agreed task (by simp)] at settledFirst
      rw [evaluate, Outcome.ofVerdicts_cons]
      apply settledFirst.bind_ok
      apply settledRest.bind_ok
      exact Settles.pure _

theorem evaluate_settles_of_failure {tasks : List Task}
    (failed : ∃ task ∈ tasks, ∃ failure, votes task = .error failure) :
    ∃ failure,
      Settles invariant passing (evaluate client context push strategy tasks)
      (.error failure) := by
  induction tasks with
  | nil =>
      obtain ⟨task, member, _⟩ := failed
      cases member
  | cons task rest induction =>
      have settledFirst := settled task
      rw [evaluate]
      cases vote : votes task with
      | error failure =>
          rw [vote] at settledFirst
          exact ⟨failure, settledFirst.bind_error⟩
      | ok removes =>
          rw [vote] at settledFirst
          have failedLater : ∃ task ∈ rest, ∃ failure, votes task =
              .error failure := by
            obtain ⟨other, member, failure, failedOther⟩ := failed
            rcases List.mem_cons.mp member with rfl | later
            · rw [vote] at failedOther
              cases failedOther
            · exact ⟨other, later, failure, failedOther⟩
          obtain ⟨failure, settledRest⟩ := induction failedLater
          exact ⟨failure, settledFirst.bind_ok settledRest.bind_error⟩

/-- An evaluation succeeds when every vote does, with the outcome of these
votes. -/
theorem evaluate_eq_ok_iff {state : State} (holds : invariant state)
    {tasks : List Task} {outcome : Outcome} :
    (evaluate client context push strategy tasks state).1 = .ok outcome ↔
      (∀ task ∈ tasks, votes task = .ok (removedBy votes task)) ∧
        outcome = Outcome.ofVerdicts (removedBy votes) tasks := by
  by_cases agreed : ∀ task ∈ tasks, votes task = .ok (removedBy votes task)
  · obtain ⟨after, evaluated, _⟩ :=
      (evaluate_settles_of_verdicts settled agreed).result_ok holds
    rw [evaluated]
    constructor
    · intro same
      cases same
      exact ⟨agreed, rfl⟩
    · rintro ⟨_, rfl⟩
      rfl
  · have failed : ∃ task ∈ tasks, ∃ failure, votes task = .error failure := by
      by_contra none
      apply agreed
      intro task member
      cases vote : votes task with
      | ok removes => rw [removedBy, vote]
      | error failure => exact (none ⟨task, member, failure, vote⟩).elim
    obtain ⟨failure, settledFailure⟩ :=
      evaluate_settles_of_failure settled failed
    obtain ⟨other, after, evaluated, _, _⟩ := settledFailure.result_error holds
    rw [evaluated]
    constructor
    · intro same
      cases same
    · intro ⟨all, _⟩
      exact (agreed all).elim

theorem exists_evaluate_eq_ok_iff {state : State} (holds : invariant state)
    (tasks : List Task) :
    (∃ outcome, (evaluate client context push strategy tasks state).1 =
      .ok outcome) ↔
      ∀ task ∈ tasks, votes task = .ok (removedBy votes task) := by
  constructor
  · rintro ⟨outcome, evaluated⟩
    exact ((evaluate_eq_ok_iff settled holds).mp evaluated).1
  · intro agreed
    exact ⟨_, (evaluate_eq_ok_iff settled holds).mpr ⟨agreed, rfl⟩⟩

end Votes

variable {client : Client} {context : Context} {push : Push}
  {script : (branch revision : String) → Nat → Except EvidenceError Reply × Nat}
  {log :
    (repository : String) → (first last : Int) → Except PushLogError PushLog}

theorem Client.settlesOn_from
    (scripted : client.environment.FollowsScript script)
    (fixed : client.environment.HasFixedLog log) (start : State) :
    client.SettlesOn context push start.memo
      (start.LeadsTo client log context push)
      (fun failure => failure.isTimeout = true) where
  evidence := evidenceFor_settles_from scripted fixed
  late _ timesOut := timesOut
  allows := State.LeadsTo.allowsDeriving

/-- With a scripted predictor and a push log that does not change, a tree of
built-in strategies decides each task as it would decide it alone at the start,
in every order of the tasks, or fails in every order.  Each task is kept or
removed, in the order of the tasks. -/
theorem evaluate_order_independent {config : Config} {registry : Registry}
    (builtin : Registry.builtin config = .ok registry) {spec : Spec}
    {strategy : Strategy} (built : spec.build registry = .ok strategy)
    (scripted : client.environment.FollowsScript script)
    (fixed : client.environment.HasFixedLog log) (context : Context)
    (push : Push) (start : State) :
    ∃ removed : Task → Bool,
      (∀ tasks : List Task,
        (∃ outcome, (evaluate client context push strategy tasks start).1 =
          .ok outcome) ↔
          ∀ task ∈ tasks,
            (strategy.decide { client, context, push, task } start).1 =
              .ok (removed task)) ∧
      ∀ tasks others : List Task, tasks.Perm others →
        ((∃ outcome, (evaluate client context push strategy tasks start).1 =
          .ok outcome) ↔
          ∃ outcome, (evaluate client context push strategy others start).1 =
            .ok outcome) ∧
        (∀ outcome, (evaluate client context push strategy tasks start).1 =
          .ok outcome →
          outcome.kept =
            (tasks.filter fun task => !removed task).map (·.label) ∧
          outcome.removed = (tasks.filter removed).map (·.label)) ∧
        ∀ outcome, (evaluate client context push strategy others start).1 =
          .ok outcome →
          outcome.kept =
            (others.filter fun task => !removed task).map (·.label) ∧
          outcome.removed = (others.filter removed).map (·.label) := by
  have standard : strategy.IsStandard :=
    Spec.build_isStandard (Registry.allStandard_of_builtin builtin) built
  have holds : start.LeadsTo client log context push start := .refl
  let votes (task : Task) :=
    (strategy.decide { client, context, push, task } start).1
  have settled : ∀ task, Settles (start.LeadsTo client log context push)
      (fun failure => failure.isTimeout = true)
      (strategy.decide { client, context, push, task }) (votes task) := by
    intro task
    exact Settles.at_state
      (Strategy.decide_settles (Client.settlesOn_from scripted fixed start)
        standard task) holds
  have succeeds := exists_evaluate_eq_ok_iff settled holds
  have outcomes : ∀ (tasks : List Task) (outcome : Outcome),
      (evaluate client context push strategy tasks start).1 = .ok outcome →
      outcome.kept =
        (tasks.filter fun task => !removedBy votes task).map (·.label) ∧
        outcome.removed = (tasks.filter (removedBy votes)).map (·.label) := by
    intro tasks outcome evaluated
    obtain ⟨_, rfl⟩ := (evaluate_eq_ok_iff settled holds).mp evaluated
    exact ⟨rfl, rfl⟩
  refine ⟨removedBy votes, succeeds, ?_⟩
  intro tasks others permuted
  refine ⟨?_, outcomes tasks, outcomes others⟩
  rw [succeeds tasks, succeeds others]
  constructor
  · intro all task member
    exact all task (permuted.mem_iff.mpr member)
  · intro all task member
    exact all task (permuted.mem_iff.mp member)

/-- A predictor that is ready when it is asked about a revision for the second
time. -/
def slowClient : Client where
  environment := {
    fetch := fun history branch revision =>
      (.ok (if history.count (.fetched branch revision) = 0
      then .pending else .ready {}), 1)
    pushes := fun _ _ _ _ => .ok ∅ }
  polling := { interval := 2, timeout := 5, positive := Nat.two_pos }

theorem evaluate_order_independent_of_two_tasks :
    ∃ registry strategy, Registry.builtin {} = .ok registry ∧
      (Spec.any [.named "bugbug-push-schedules",
        .named "platform-disperse"]).build registry =
        .ok strategy ∧
      let push : Push := {
        branch := "autoland", repository := "repo", revision := "abc",
        project := "autoland", id := 3 }
      let first := Task.test "first"
      let second := Task.test "second"
      (∃ outcome, (evaluate slowClient {} push strategy [first, second] {}).1 =
        .ok outcome) ↔
        ∃ outcome, (evaluate slowClient {} push strategy [second, first] {}).1 =
          .ok outcome := by
  have interval : 2 ≤ ({} : Config).backstop.pushInterval := by decide
  have fraction : ({} : Config).selection.threshold.isFraction = true := by
    decide
  obtain ⟨registry, builtin⟩ :=
    Registry.exists_builtin_iff.mpr ⟨interval, fraction⟩
  obtain ⟨named, _⟩ := Registry.find?_of_builtin builtin
  obtain ⟨rule, ruleFound⟩ := named "bugbug-push-schedules" (by decide)
  obtain ⟨dispersal, dispersalFound⟩ := named "platform-disperse" (by decide)
  have built : (Spec.any [.named "bugbug-push-schedules",
      .named "platform-disperse"]).build
      registry = .ok (.any [rule, dispersal]) := by
    simp [Spec.build, Spec.buildAll, Registry.require, ruleFound,
      dispersalFound, bind, Except.bind, pure, Except.pure]
  have scripted : slowClient.environment.FollowsScript fun _ _ count =>
      (.ok (if count = 0 then .pending else .ready {}), 1) :=
    fun _ _ _ => rfl
  have fixed : slowClient.environment.HasFixedLog fun _ _ _ =>
      .ok ∅ := fun _ => rfl
  refine ⟨registry, .any [rule, dispersal], builtin, built, ?_⟩
  intro push first second
  obtain ⟨removed, _, decided⟩ :=
    evaluate_order_independent builtin built scripted fixed {} push {}
  exact (decided [first, second] [second, first] (.swap second first [])).1

end TaskSieve
