import TaskSieve.Proofs.Evaluation
import TaskSieve.Proofs.Evidence.Collecting
import TaskSieve.Proofs.Strategy.Sparing
import TaskSieve.Strategy.Given

/-!
# One way of deciding for all tasks of a push

The first task of a push gathers the evidence, and evidence as well as a
timeout is remembered for the later ones.  So a predictor rule either selects
all tasks by the same evidence or leaves all of them to its fallback, as long
as the fallback spares the client.  A failure that is not remembered ends the
evaluation at the first task.
-/

namespace TaskSieve

open Step

section Evaluating

variable {client : Client} {context : Context} {push : Push}
  {strategy other : Strategy} {task : Task} {rest : List Task}
  {state after : State}

theorem evaluate_cons_ok {removed : Bool}
    (answered : strategy.decide { client, context, push, task } state =
      (.ok removed, after)) :
    evaluate client context push strategy (task :: rest) state =
      ((evaluate client context push strategy rest after).1.map
        (·.cons task.label removed),
        (evaluate client context push strategy rest after).2) := by
  rw [evaluate, bind_apply_ok _ answered]
  cases evaluated : evaluate client context push strategy rest after with
  | mk result last =>
      cases result with
      | ok outcome =>
          rw [bind_apply_ok _ evaluated]
          rfl
      | error failure =>
          rw [bind_apply_error _ evaluated]
          rfl

theorem evaluate_cons_error {failure : Failure}
    (answered : strategy.decide { client, context, push, task } state =
      (.error failure, after)) :
    evaluate client context push strategy (task :: rest) state =
      (.error failure, after) := by
  rw [evaluate, bind_apply_error _ answered]

/-- An evaluation goes on locally after its first vote. -/
theorem evaluate_cons_leadsLocally (spares : strategy.SparesClient) :
    State.LeadsLocally (strategy.decide { client, context, push, task } state).2
      (evaluate client context push strategy (task :: rest) state).2 := by
  cases answered : strategy.decide { client, context, push, task } state with
  | mk answer after =>
      cases answer with
      | ok removed =>
          rw [evaluate_cons_ok answered]
          exact evaluate_isLocal spares client context push rest after
      | error failure =>
          rw [evaluate_cons_error answered]
          exact .refl after

/-- Votes that do not change the state make the outcome. -/
theorem evaluate_of_votes {removes : Task → Bool}
    (votes : ∀ task, strategy.decide { client, context, push, task } state =
      (.ok (removes task), state)) (tasks : List Task) :
    evaluate client context push strategy tasks state =
      (.ok (Outcome.ofVerdicts removes tasks), state) := by
  induction tasks with
  | nil => rfl
  | cons task rest induction =>
      rw [evaluate_cons_ok (votes task), induction, Outcome.ofVerdicts_cons]
      rfl

/-- Two strategies that decide alike from every state with an invariant evaluate
alike, as long as the second one keeps the invariant. -/
theorem evaluate_congr {invariant : State → Prop}
    (same : ∀ task state, invariant state →
      strategy.decide { client, context, push, task } state =
        other.decide { client, context, push, task } state)
    (kept : ∀ task,
      Preserves invariant (other.decide { client, context, push, task }))
    (tasks : List Task) (holds : invariant state) :
    evaluate client context push strategy tasks state =
      evaluate client context push other tasks state := by
  induction tasks generalizing state with
  | nil => rfl
  | cons task rest induction =>
      have agree := same task state holds
      have holdsAfter := kept task state holds
      cases answered : other.decide { client, context, push, task } state with
      | mk answer after =>
          rw [answered] at agree holdsAfter
          cases answer with
          | error failure =>
              rw [evaluate_cons_error agree, evaluate_cons_error answered]
          | ok removed =>
              rw [evaluate_cons_ok agree, evaluate_cons_ok answered,
                induction holdsAfter]

end Evaluating

namespace PredictorRule

/-- The strategy of a rule, with or without a fallback. -/
def strategy (rule : PredictorRule) : Option Strategy → Strategy
  | none => .predictor rule
  | some fallback => .predictorOr rule fallback

theorem decide_strategy (rule : PredictorRule) (fallback : Option Strategy)
    (question : Question) :
    (rule.strategy fallback).decide question =
      removesUnlikely question rule
        (fallback.map fun strategy => strategy.decide question) := by
  cases fallback with
  | none => rw [strategy, Strategy.decide, Option.map_none]
  | some fallback => rw [strategy, Strategy.decide, Option.map_some]

section Rule

variable {client : Client} {context : Context} {push : Push}
  {rule : PredictorRule} {fallback : Option Strategy} {task : Task}
  {state after : State}

theorem evaluate_elsewhere
    (elsewhere : allowsProject rule.projects push.project = false)
    (tasks : List Task) :
    evaluate client context push (rule.strategy fallback) tasks state =
      (.ok (Outcome.ofVerdicts (fun _ => false) tasks), state) := by
  apply evaluate_of_votes
  intro task
  rw [decide_strategy, removesUnlikely_elsewhere elsewhere]
  rfl

variable (allowed : allowsProject rule.projects push.project = true)

include allowed

theorem decide_of_ready {evidence : Evidence}
    (gathered :
      client.evidenceFor push rule.pushes state = (.ok evidence, after)) :
    (rule.strategy fallback).decide { client, context, push, task } state =
      (.ok (rule.selector.removes evidence task), after) := by
  rw [decide_strategy]
  exact removesUnlikely_ok allowed gathered

theorem decide_of_timeout {strategy : Strategy} {branch revision : String}
    {elapsed : Nat} (gathered : client.evidenceFor push rule.pushes state =
      (.error (.evidence (.timeout branch revision elapsed)), after)) :
    (rule.strategy (some strategy)).decide
      { client, context, push, task } state =
      strategy.decide { client, context, push, task } after := by
  rw [decide_strategy]
  exact removesUnlikely_timeout allowed gathered

theorem decide_of_unanswered {branch revision : String} {elapsed : Nat}
    (gathered : client.evidenceFor push rule.pushes state =
      (.error (.evidence (.timeout branch revision elapsed)), after)) :
    (rule.strategy none).decide { client, context, push, task } state =
      (.error (.evidence (.timeout branch revision elapsed)), after) := by
  rw [decide_strategy]
  exact removesUnlikely_timeout allowed gathered

theorem decide_of_failed {failure : Failure} (hard : failure.isTimeout = false)
    (gathered :
      client.evidenceFor push rule.pushes state = (.error failure, after)) :
    (rule.strategy fallback).decide { client, context, push, task } state =
      (.error failure, after) := by
  rw [decide_strategy]
  exact removesUnlikely_failed allowed hard gathered

/-- Evidence that the first task has gathered decides all tasks. -/
theorem evaluate_of_ready {evidence : Evidence}
    (gathered :
      client.evidenceFor push rule.pushes state = (.ok evidence, after))
    {tasks : List Task} (nonempty : tasks ≠ []) :
    evaluate client context push (rule.strategy fallback) tasks state =
      (.ok (Outcome.ofVerdicts (rule.selector.removes evidence) tasks),
        after) := by
  cases tasks with
  | nil => exact (nonempty rfl).elim
  | cons first rest =>
      have remembered := Client.find?_of_evidenceFor gathered rfl
      have again : client.evidenceFor push rule.pushes after =
          (.ok evidence, after) :=
        Client.evidenceFor_of_found remembered
      rw [evaluate_cons_ok (decide_of_ready allowed gathered),
        evaluate_of_votes (fun task => decide_of_ready allowed again) rest,
        Outcome.ofVerdicts_cons]
      rfl

theorem evaluate_of_unanswered {branch revision : String} {elapsed : Nat}
    (gathered : client.evidenceFor push rule.pushes state =
      (.error (.evidence (.timeout branch revision elapsed)), after))
    {tasks : List Task} (nonempty : tasks ≠ []) :
    evaluate client context push (rule.strategy none) tasks state =
      (.error (.evidence (.timeout branch revision elapsed)), after) := by
  cases tasks with
  | nil => exact (nonempty rfl).elim
  | cons first rest =>
      exact evaluate_cons_error (decide_of_unanswered allowed gathered)

theorem evaluate_of_failed {failure : Failure}
    (hard : failure.isTimeout = false) (gathered :
      client.evidenceFor push rule.pushes state = (.error failure, after))
    {tasks : List Task} (nonempty : tasks ≠ []) :
    evaluate client context push (rule.strategy fallback) tasks state =
      (.error failure, after) := by
  cases tasks with
  | nil => exact (nonempty rfl).elim
  | cons first rest =>
      exact evaluate_cons_error (decide_of_failed allowed hard gathered)

section Timeout

variable {strategy : Strategy} (spares : strategy.SparesClient)
  {branch revision : String} {elapsed : Nat}
  (gathered : client.evidenceFor push rule.pushes state =
    (.error (.evidence (.timeout branch revision elapsed)), after))

include gathered

/-- Where a timeout is remembered, the rule decides as its fallback does. -/
theorem decide_of_remembered_timeout {between : State}
    (reached : after.LeadsLocally between) (task : Task) :
    (rule.strategy (some strategy)).decide { client, context, push, task }
      between =
      strategy.decide { client, context, push, task } between := by
  have remembered := Client.find?_of_evidenceFor gathered rfl
  rw [← reached.cache] at remembered
  exact decide_of_timeout allowed (Client.evidenceFor_of_found remembered)

include spares

/-- A timeout that the first task has met leaves all tasks to the fallback. -/
theorem evaluate_of_timeout {tasks : List Task} (nonempty : tasks ≠ []) :
    evaluate client context push (rule.strategy (some strategy)) tasks state =
      evaluate client context push strategy tasks after := by
  cases tasks with
  | nil => exact (nonempty rfl).elim
  | cons first rest =>
      -- The first task gathers; asked once more afterwards it would only
      -- remember the timeout.  From there on rule and fallback agree, since
      -- neither forgets what is remembered.
      have firstLater : (rule.strategy (some strategy)).decide
            { client, context, push, task := first } state =
          (rule.strategy (some strategy)).decide
            { client, context, push, task := first } after := by
        rw [decide_of_timeout allowed gathered,
          decide_of_remembered_timeout allowed gathered (.refl after)]
      calc
        evaluate client context push (rule.strategy (some strategy))
            (first :: rest) state
        _ = evaluate client context push (rule.strategy (some strategy))
            (first :: rest) after := by
          rw [evaluate]
          exact bind_apply_congr _ firstLater
        _ = evaluate client context push strategy (first :: rest) after :=
          evaluate_congr
            (fun task between reached =>
              decide_of_remembered_timeout allowed gathered reached task)
            (fun task between reached => reached.trans (spares _ between))
            (first :: rest) (State.LeadsLocally.refl after)

/-- After a timeout the vote on each task is the one that the fallback alone
gives in its turn. -/
theorem decide_evaluated_of_timeout (earlier : List Task) (task : Task) :
    (rule.strategy (some strategy)).decide { client, context, push, task }
        (evaluate client context push (rule.strategy (some strategy)) earlier
          state).2 =
      strategy.decide { client, context, push, task }
        (evaluate client context push strategy earlier after).2 := by
  by_cases isEmpty : earlier = []
  · subst isEmpty
    exact decide_of_timeout allowed gathered
  · rw [evaluate_of_timeout allowed spares gathered isEmpty]
    exact decide_of_remembered_timeout allowed gathered
      (evaluate_isLocal spares client context push earlier after) task

end Timeout

end Rule

end PredictorRule

/-- How the tasks of a push are decided. -/
inductive Regime where
  /-- The project is not listed. -/
  | elsewhere
  /-- The selector decides. -/
  | selecting
  /-- The fallback decides. -/
  | fallingBack
  /-- The evaluation fails. -/
  | stopped

section Regimes

variable (client : Client) (context : Context) (push : Push)
  (rule : PredictorRule) (fallback : Option Strategy) (tasks : List Task)
  (start : State)

/-- What an evaluation of tasks by a predictor rule comes to in each regime. -/
def Regime.Governs (regime : Regime) : Prop :=
  let listed := allowsProject rule.projects push.project
  let gathered := client.evidenceFor push rule.pushes start
  let evaluated :=
    evaluate client context push (rule.strategy fallback) tasks start
  match regime with
  | .elsewhere =>
      listed = false ∧
        evaluated = (.ok (Outcome.ofVerdicts (fun _ => false) tasks), start)
  | .selecting =>
      listed = true ∧
      (∃ evidence,
        evaluated.1 =
          .ok (Outcome.ofVerdicts (rule.selector.removes evidence) tasks) ∧
        (tasks ≠ [] → gathered = (.ok evidence, evaluated.2))) ∧
      -- Any other fallback, or none, would have made no difference.
      ∀ other, evaluate client context push (rule.strategy other) tasks start =
        evaluated
  | .fallingBack =>
      listed = true ∧ tasks ≠ [] ∧
      (∃ late, gathered.1 = .error late ∧ late.isTimeout = true) ∧
      ∃ strategy outcome, fallback = some strategy ∧ evaluated.1 = .ok outcome ∧
        evaluated = evaluate client context push strategy tasks gathered.2 ∧
        ∀ earlier task later, tasks = earlier ++ task :: later →
          (rule.strategy fallback).decide { client, context, push, task }
              (evaluate client context push (rule.strategy fallback) earlier
                start).2 =
            strategy.decide { client, context, push, task }
              (evaluate client context push strategy earlier gathered.2).2
  | .stopped =>
      listed = true ∧ tasks ≠ [] ∧
      ∃ failure, evaluated.1 = .error failure ∧
        (fallback = none ∧ failure.isTimeout = true ∧
          gathered = (.error failure, evaluated.2) ∨
        (∃ strategy late, fallback = some strategy ∧ gathered.1 = .error late ∧
          late.isTimeout = true ∧
          evaluated = evaluate client context push strategy tasks gathered.2) ∨
        failure.isTimeout = false ∧
          ((∃ error, failure = .evidence error) ∨
            ∃ error, failure = .pushLog error) ∧
          gathered = (.error failure, evaluated.2) ∧
          ∀ other, evaluate client context push (rule.strategy other) tasks
            start = evaluated)

variable {client context push rule fallback tasks start}

namespace Regime

theorem governs_elsewhere
    (elsewhere : allowsProject rule.projects push.project = false) :
    Governs client context push rule fallback tasks start .elsewhere :=
  ⟨elsewhere, rule.evaluate_elsewhere elsewhere tasks⟩

section Listed

variable (listed : allowsProject rule.projects push.project = true)

include listed

theorem governs_selecting_of_nil :
    Governs client context push rule fallback [] start .selecting :=
  ⟨listed, ⟨{}, rfl, fun nonempty => (nonempty rfl).elim⟩, fun _ => rfl⟩

variable (nonempty : tasks ≠ []) {after : State}

include nonempty

theorem governs_selecting {evidence : Evidence}
    (gathered :
      client.evidenceFor push rule.pushes start = (.ok evidence, after)) :
    Governs client context push rule fallback tasks start .selecting := by
  have selected :
      ∀ other, evaluate client context push (rule.strategy other) tasks start =
      (.ok (Outcome.ofVerdicts (rule.selector.removes evidence) tasks),
      after) :=
    fun _ => PredictorRule.evaluate_of_ready listed gathered nonempty
  refine ⟨listed, ⟨evidence, ?_, ?_⟩, ?_⟩
  · rw [selected]
  · intro _
    rw [selected, gathered]
  · intro other
    rw [selected, selected]

theorem governs_of_timeout
    (spares : ∀ strategy, fallback = some strategy → strategy.SparesClient)
    {branch revision : String} {elapsed : Nat}
    (gathered : client.evidenceFor push rule.pushes start =
      (.error (.evidence (.timeout branch revision elapsed)), after)) :
    Governs client context push rule fallback tasks start .fallingBack ∨
      Governs client context push rule fallback tasks start .stopped := by
  cases fallback with
  | none =>
      right
      have unanswered :
          evaluate client context push (rule.strategy none) tasks start =
          (.error (.evidence (.timeout branch revision elapsed)), after) :=
        PredictorRule.evaluate_of_unanswered listed gathered nonempty
      refine ⟨listed, nonempty, .evidence (.timeout branch revision elapsed),
        ?_, .inl ⟨rfl, rfl, ?_⟩⟩
      · rw [unanswered]
      · rw [unanswered, gathered]
  | some strategy =>
      have sparing := spares strategy rfl
      have fell : evaluate client context push (rule.strategy (some strategy))
          tasks start =
          evaluate client context push strategy tasks
            (client.evidenceFor push rule.pushes start).2 := by
        rw [PredictorRule.evaluate_of_timeout listed sparing gathered nonempty,
          gathered]
      have late : (client.evidenceFor push rule.pushes start).1 =
          .error (.evidence (.timeout branch revision elapsed)) :=
        congrArg Prod.fst gathered
      cases result :
          (evaluate client context push (rule.strategy (some strategy))
            tasks start).1 with
      | ok outcome =>
          left
          refine ⟨listed, nonempty, ⟨_, late, rfl⟩, strategy, outcome,
            rfl, result, fell, ?_⟩
          intro earlier task later _
          rw [PredictorRule.decide_evaluated_of_timeout listed sparing gathered,
            gathered]
      | error failure =>
          right
          exact ⟨listed, nonempty, failure, result,
            .inr (.inl ⟨strategy, _, rfl, late, rfl, fell⟩)⟩

theorem governs_stopped {failure : Failure} (hard : failure.isTimeout = false)
    (gathered :
      client.evidenceFor push rule.pushes start = (.error failure, after)) :
    Governs client context push rule fallback tasks start .stopped := by
  have failed :
      ∀ other, evaluate client context push (rule.strategy other) tasks start =
      (.error failure, after) :=
    fun _ => PredictorRule.evaluate_of_failed listed hard gathered nonempty
  have kind := Client.exists_of_evidenceFor_error (congrArg Prod.fst gathered)
  refine ⟨listed, nonempty, failure, ?_, .inr (.inr ⟨hard, kind, ?_, ?_⟩)⟩
  · rw [failed]
  · rw [failed, gathered]
  · intro other
    rw [failed, failed]

end Listed

theorem exists_governs
    (spares : ∀ strategy, fallback = some strategy → strategy.SparesClient) :
    ∃ regime, Governs client context push rule fallback tasks start regime := by
  cases listed : allowsProject rule.projects push.project with
  | false => exact ⟨_, governs_elsewhere listed⟩
  | true =>
      by_cases isEmpty : tasks = []
      · subst isEmpty
        exact ⟨_, governs_selecting_of_nil listed⟩
      · cases gathered : client.evidenceFor push rule.pushes start with
        | mk answer after =>
            cases answer with
            | ok evidence =>
                exact ⟨_, governs_selecting listed isEmpty gathered⟩
            | error failure =>
                rcases failure.exists_timeout_or with
                  ⟨branch, revision, elapsed, rfl⟩ | hard
                · rcases governs_of_timeout listed isEmpty spares gathered with
                    fell | stopped
                  · exact ⟨_, fell⟩
                  · exact ⟨_, stopped⟩
                · exact ⟨_, governs_stopped listed isEmpty hard gathered⟩

variable {regime other : Regime}

theorem Governs.elsewhere_iff
    (governs : Governs client context push rule fallback tasks start regime) :
    regime = .elsewhere ↔ allowsProject rule.projects push.project = false := by
  cases regime with
  | elsewhere => simp [governs.1]
  | selecting => simp [governs.1]
  | fallingBack => simp [governs.1]
  | stopped => simp [governs.1]

theorem Governs.stopped_iff
    (governs : Governs client context push rule fallback tasks start regime) :
    regime = .stopped ↔ ∃ failure,
      (evaluate client context push (rule.strategy fallback) tasks start).1 =
        .error failure := by
  cases regime with
  | elsewhere => simp [governs.2]
  | selecting =>
      obtain ⟨_, ⟨evidence, selected, _⟩, _⟩ := governs
      simp [selected]
  | fallingBack =>
      obtain ⟨_, _, _, strategy, outcome, _, fell, _⟩ := governs
      simp [fell]
  | stopped =>
      obtain ⟨_, _, failure, failed, _⟩ := governs
      simp [failed]

theorem Governs.ne_of_selecting
    (governs :
      Governs client context push rule fallback tasks start .selecting) :
    ¬Governs client context push rule fallback tasks start .fallingBack := by
  rintro ⟨_, nonempty, ⟨late, failed, _⟩, _⟩
  obtain ⟨_, ⟨evidence, _, gathered⟩, _⟩ := governs
  rw [gathered nonempty] at failed
  cases failed

/-- No two regimes govern one evaluation. -/
theorem Governs.unique
    (governs : Governs client context push rule fallback tasks start regime)
    (otherGoverns :
      Governs client context push rule fallback tasks start other) :
    other = regime := by
  -- Two of the regimes are told by facts without a regime in them, so only the
  -- other two are left to be told apart.
  have sameElsewhere :=
    governs.elsewhere_iff.trans otherGoverns.elsewhere_iff.symm
  have sameStopped := governs.stopped_iff.trans otherGoverns.stopped_iff.symm
  cases regime with
  | elsewhere => exact sameElsewhere.mp rfl
  | stopped => exact sameStopped.mp rfl
  | selecting =>
      cases other with
      | elsewhere => cases sameElsewhere.mpr rfl
      | stopped => cases sameStopped.mpr rfl
      | selecting => rfl
      | fallingBack => exact (governs.ne_of_selecting otherGoverns).elim
  | fallingBack =>
      cases other with
      | elsewhere => cases sameElsewhere.mpr rfl
      | stopped => cases sameStopped.mpr rfl
      | selecting => exact (otherGoverns.ne_of_selecting governs).elim
      | fallingBack => rfl

end Regime

/-- All requests are made for the first task. -/
theorem PredictorRule.leadsLocally_evaluate
    (spares : ∀ strategy, fallback = some strategy → strategy.SparesClient)
    (first : Task) (rest : List Task) :
    State.LeadsLocally
      ((rule.strategy fallback).decide { client, context, push, task := first }
        start).2
      (evaluate client context push (rule.strategy fallback) (first :: rest)
        start).2 := by
  have nonempty : first :: rest ≠ [] := nofun
  cases listed : allowsProject rule.projects push.project with
  | false =>
      rw [evaluate_elsewhere listed, decide_strategy,
        removesUnlikely_elsewhere listed]
      exact .refl start
  | true =>
      cases gathered : client.evidenceFor push rule.pushes start with
      | mk answer after =>
          cases answer with
          | ok evidence =>
              rw [decide_of_ready listed gathered,
                evaluate_of_ready listed gathered nonempty]
              exact .refl after
          | error failure =>
              rcases failure.exists_timeout_or with
                ⟨branch, revision, elapsed, rfl⟩ | hard
              · cases fallback with
                | none =>
                    rw [decide_of_unanswered listed gathered,
                      evaluate_of_unanswered listed gathered nonempty]
                    exact .refl after
                | some strategy =>
                    rw [decide_of_timeout listed gathered,
                      evaluate_of_timeout listed (spares strategy rfl)
                        gathered nonempty]
                    exact evaluate_cons_leadsLocally (spares strategy rfl)
              · rw [decide_of_failed listed hard gathered,
                  evaluate_of_failed listed hard gathered nonempty]
                exact .refl after

/-- The tasks of a push are all decided in one way, and whatever is requested is
requested for the first of them. -/
theorem PredictorRule.exists_unique_regime
    (spares : ∀ strategy, fallback = some strategy → strategy.SparesClient) :
    (∃! regime,
      Regime.Governs client context push rule fallback tasks start regime) ∧
      ∀ first rest, tasks = first :: rest →
        State.LeadsLocally
          ((rule.strategy fallback).decide
            { client, context, push, task := first } start).2
          (evaluate client context push (rule.strategy fallback) tasks
            start).2 := by
  constructor
  · obtain ⟨regime, governs⟩ :=
      @Regime.exists_governs client context push rule fallback tasks
        start spares
    exact ⟨regime, governs,
      fun other otherGoverns => governs.unique otherGoverns⟩
  · rintro first rest rfl
    exact leadsLocally_evaluate spares first rest

end Regimes

/-- A timeout that was remembered earlier leaves both tasks to the fallback. -/
theorem PredictorRule.exists_unique_regime_of_remembered_timeout :
    let push : Push := {
      branch := "autoland", repository := "repo", revision := "abc",
      project := "autoland", id := 3 }
    let rule : PredictorRule :=
      { selector := { threshold := .zero, isFraction := rfl } }
    let start : State :=
      { cache := Table.insert ∅ ⟨"autoland", "abc", 1⟩ (.timedOut 5) }
    let tasks := [Task.test "task-0", Task.test "task-1"]
    let fallback := some (Strategy.fixed true)
    (∀ strategy, fallback = some strategy → strategy.SparesClient) ∧
      (∃! regime,
        Regime.Governs slowClient {} push rule fallback tasks start regime) ∧
      Regime.Governs slowClient {} push rule fallback tasks start .fallingBack ∧
      (evaluate slowClient {} push (rule.strategy fallback) tasks start).1 =
        .ok { removed := ["task-0", "task-1"] } := by
  intro push rule start tasks fallback
  have spares : ∀ strategy, fallback = some strategy →
      strategy.SparesClient := by
    intro strategy isFallback
    obtain rfl : Strategy.fixed true = strategy := Option.some.inj isFallback
    apply Strategy.AvoidsClient.sparesClient
    intro task push context state
    exact ⟨rfl, [.asked task.label], rfl, by simp [Event.isLocal]⟩
  have nonempty : tasks ≠ [] := by simp [tasks]
  have remembered : start.cache.find? ⟨"autoland", "abc", 1⟩ =
      some (.timedOut 5) :=
    Table.find?_insert_self _ _ _
  have gathered : slowClient.evidenceFor push rule.pushes start =
      (.error (.evidence (.timeout "autoland" "abc" 5)), start) := by
    have told : slowClient.evidenceFor push rule.pushes start =
        ((Remembered.timedOut 5).told push.branch push.revision, start) :=
      Client.evidenceFor_of_found remembered
    exact told
  have removed :
      (evaluate slowClient {} push (rule.strategy fallback) tasks start).1 =
      .ok { removed := ["task-0", "task-1"] } := by
    have fell :
        evaluate slowClient {} push (rule.strategy fallback) tasks start =
        evaluate slowClient {} push (.fixed true) tasks start :=
      evaluate_of_timeout rfl (spares _ rfl) gathered nonempty
    rw [fell]
    rfl
  obtain ⟨⟨regime, governs, unique⟩, _⟩ :=
    @exists_unique_regime slowClient {} push rule fallback tasks start spares
  have fallsBack : regime = .fallingBack := by
    cases regime with
    | fallingBack => rfl
    | elsewhere => cases governs.1
    | selecting =>
        obtain ⟨_, ⟨evidence, _, ready⟩, _⟩ := governs
        rw [gathered] at ready
        cases ready nonempty
    | stopped =>
        obtain ⟨_, _, failure, failed, _⟩ := governs
        rw [removed] at failed
        cases failed
  exact ⟨spares, ⟨regime, governs, unique⟩, fallsBack ▸ governs, removed⟩

end TaskSieve
