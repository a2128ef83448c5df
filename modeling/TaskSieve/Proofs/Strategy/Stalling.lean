import TaskSieve.Outcome
import TaskSieve.Proofs.Evidence.Spending
import TaskSieve.Proofs.Strategy.Preserving

/-!
# How long an evaluation can stall

An evaluation asks the predictor for the sake of its rules only, and all rules
look at windows of the same push.  So what the longest window can cost bounds
what the whole evaluation costs, however many tasks and rules there are: votes
and tasks come one after the other, and each leaves the polls that it made to
those that follow or ends the evaluation.
-/

namespace TaskSieve

open Step

/-- A strategy without given votes whose predictor rules look at windows of at
most so many pushes.  No window has less than one push. -/
def Strategy.LooksBack (pushes : Nat) (strategy : Strategy) : Prop :=
  strategy.IsStandard ∧ strategy.RulesMeet fun rule =>
    max rule.pushes 1 ≤ pushes

/-- A rule keeps going when gathering its evidence does and its fallback
does. -/
theorem removesUnlikely_keepsGoing {question : Question} {rule : PredictorRule}
    {fallback : Option (Step Bool)} {going ended : State → Prop}
    (ends : ∀ state, going state → ended state)
    (evidence : KeepsGoing going ended
      (question.client.evidenceFor question.push rule.pushes))
    (fallbackGoes :
      ∀ decide, fallback = some decide → KeepsGoing going ended decide) :
    KeepsGoing going ended (removesUnlikely question rule fallback) := by
  cases allowed : allowsProject rule.projects question.push.project with
  | false =>
      rw [removesUnlikely_elsewhere allowed]
      exact .of_preserves ends (Preserves.pure false)
  | true =>
      intro state holds
      obtain ⟨goes, leaves⟩ := evidence state holds
      cases answered :
          question.client.evidenceFor question.push rule.pushes state with
      | mk answer after =>
          rw [answered] at goes leaves
          cases answer with
          | ok evidence =>
              rw [removesUnlikely_ok allowed answered]
              exact ⟨fun _ => goes trivial, leaves⟩
          | error failure =>
              rcases failure.exists_timeout_or with
                ⟨branch, revision, elapsed, rfl⟩ | hard
              · rw [removesUnlikely_timeout allowed answered]
                cases fallback with
                | none => exact ⟨goes, leaves⟩
                | some decide => exact fallbackGoes decide rfl after (goes rfl)
              · rw [removesUnlikely_failed allowed hard answered]
                exact ⟨goes, leaves⟩

section Votes

variable {client : Client} {push : Push} {longest : Nat} {strategy : Strategy}
  {start : State} {entries : (repository : String) → (id : Int) → PushEntry}

theorem Client.affords_ignoresDeriving (client : Client) (branch : String)
    (revisions : List String) (start : State) :
    IgnoresDeriving (client.Affords branch revisions start) where
  noted _ key affords := affords.of_free [.derived key] rfl rfl rfl fun _ => rfl
  kept _ _ affords := affords.of_free [] rfl rfl rfl fun _ => rfl

theorem Strategy.decide_keepsGoing
    (alike : client.environment.ListsAlike entries)
    (looksBack : strategy.LooksBack longest) (context : Context) (task : Task)
    (start : State) :
    KeepsGoing
      (client.Affords push.branch (Client.reach entries push longest) start)
      (client.Afforded push.branch (Client.reach entries push longest) start)
      (strategy.decide { client, context, push, task }) := by
  let revisions := Client.reach entries push longest
  have ignores := client.affords_ignoresDeriving push.branch revisions start
  have ends : ∀ state, client.Affords push.branch revisions start state →
      client.Afforded push.branch revisions start state :=
    fun _ affords => affords.afforded
  have composes : Question.ComposesUnder { client, context, push, task }
      (fun rule => max rule.pushes 1 ≤ longest)
      (KeepsGoing (client.Affords push.branch revisions start)
        (client.Afforded push.branch revisions start)) :=
    { pure := fun removes => .of_preserves ends (Preserves.pure removes)
      bind := fun _ _ kept keptNext => kept.bind keptNext
      irrelevant := .of_preserves ends (ignores.irrelevant context task)
      dispersed := fun targets =>
        .of_preserves ends (ignores.dispersed context targets task)
      unlikely := fun rule _ within fallbackGoes =>
        removesUnlikely_keepsGoing ends
          (Client.evidenceFor_keepsGoing alike within start) fallbackGoes }
  have noVotes : strategy.GivenVotes fun _ => False := looksBack.1.givenVotes
  exact Strategy.decide_of_rules composes nofun strategy noVotes looksBack.2

theorem evaluate_keepsGoing (alike : client.environment.ListsAlike entries)
    (looksBack : strategy.LooksBack longest) (context : Context)
    (tasks : List Task) (start : State) :
    KeepsGoing
      (client.Affords push.branch (Client.reach entries push longest) start)
      (client.Afforded push.branch (Client.reach entries push longest) start)
      (evaluate client context push strategy tasks) := by
  induction tasks with
  | nil =>
      exact .of_preserves (fun _ => Client.Affords.afforded) (Preserves.pure _)
  | cons task rest induction =>
      rw [evaluate]
      apply (Strategy.decide_keepsGoing alike looksBack context task start).bind
      intro removed
      apply induction.bind
      intro outcome
      exact .of_preserves (fun _ => Client.Affords.afforded) (Preserves.pure _)

/-- Whatever the predictor answers and however long that takes, and whatever is
remembered at the start, an evaluation of any tasks by a strategy whose windows
have at most so many pushes asks and waits no more than it takes to poll for as
many revisions.  Each poll waits as often as the interval fits into the limit of
the branch, and asks once more. -/
theorem evaluate_stall_le (alike : client.environment.ListsAlike entries)
    {pushes : Nat} (looksBack : strategy.LooksBack pushes) (context : Context)
    (push : Push) (tasks : List Task) (start : State) :
    let interval := client.polling.interval
    let turns := client.polling.limit push.branch / interval
    ∃ added,
      (evaluate client context push strategy tasks start).2.history =
        added ++ start.history ∧
      Event.waiting added ≤ pushes * (turns * interval) ∧
      Event.requests added ≤ pushes * (turns + 1) := by
  intro interval turns
  obtain ⟨_, ends⟩ :=
    evaluate_keepsGoing alike looksBack context tasks start start (.refl start)
  obtain ⟨added, grown, requests, waiting⟩ :=
    Client.Costs.mono ends (Client.length_reach_le entries push pushes)
  exact ⟨added, grown, waiting, requests⟩

end Votes

/-- A predictor that is never ready, and a push log that lists two pushes. -/
def silentClient : Client where
  environment := {
    fetch := fun _ _ _ => (.ok .pending, 0)
    pushes :=
      fun _ _ _ _ => .ok (Table.ofList [(1, ⟨["first"]⟩), (2, ⟨["second"]⟩)]) }
  polling := { interval := 2, timeout := 5, positive := Nat.two_pos }

/-- Two rules that wait for up to three pushes, on behalf of two tasks. -/
theorem evaluate_stall_le_of_silence :
    let entries := fun (_ : String) (id : Int) =>
      ((Table.ofList [(1, ⟨["first"]⟩), (2, ⟨["second"]⟩)] : PushLog).find?
        id).getD {}
    let rule : PredictorRule :=
      { selector := { threshold := .zero, isFraction := rfl } }
    let strategy : Strategy :=
      .any [.predictorOr rule .relevantTests,
        .predictorOr { rule with pushes := 3 } .debug]
    let push : Push := {
      branch := "autoland", repository := "repo", revision := "abc",
      project := "autoland", id := 3 }
    silentClient.environment.ListsAlike entries ∧ strategy.LooksBack 3 ∧
      ∃ added,
        (evaluate silentClient {} push
          strategy [Task.test "task-0", Task.test "task-1"] {}
          ).2.history = added ++ [] ∧
        Event.waiting added ≤ 12 ∧ Event.requests added ≤ 9 := by
  intro entries rule strategy push
  have alike : silentClient.environment.ListsAlike entries := by
    rintro _ _ _ _ log ⟨⟩ id _ _ entry present
    simp only [entries, present, Option.getD_some]
  have looksBack : strategy.LooksBack 3 := by
    simp [Strategy.LooksBack, strategy, rule, Strategy.IsStandard,
      Strategy.AllStandard, Strategy.RulesMeet, Strategy.AllRulesMeet]
  have turns : silentClient.polling.limit push.branch /
      silentClient.polling.interval = 2 := by
    decide
  obtain ⟨added, grown, waiting, requests⟩ :=
    evaluate_stall_le alike looksBack {}
      push [Task.test "task-0", Task.test "task-1"] {}
  rw [turns] at waiting requests
  exact ⟨alike, looksBack, added, grown, waiting, requests⟩

end TaskSieve
