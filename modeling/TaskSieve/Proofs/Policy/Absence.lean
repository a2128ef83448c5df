import TaskSieve.Proofs.Policy.Autoland
import TaskSieve.Proofs.Strategy.Deeds

/-!
# Keeping tasks for lack of data

Where nothing is known, nothing is removed.  Without scheduled components,
importance and changed files the strategies that look at the context keep every
task, and the predictor rules keep the tasks that no evidence knows, and those
without test groups.  Timeouts and failures remove nothing either, so under the
built-in policy such tasks are kept or the decision fails.
-/

namespace TaskSieve

open Step

/-- Nothing that is remembered knows a task, unless the predictor has answered
with evidence that does after the events of an earlier history. -/
structure State.Unaware (environment : Environment) (label : String)
    (since : List Event) (state : State) : Prop where
  follows : since <:+ state.history
  unknown : (∀ branch revision evidence,
      environment.Received branch revision evidence since state.history →
      evidence.knows label = false) →
    ∀ key evidence, state.cache.find? key = some (.ready evidence) →
    evidence.knows label = false

theorem State.Justifies.knows {state : State} {key : CacheKey}
    {evidence : Evidence} {label : String}
    (justified : state.Justifies key (.ready evidence))
    (unknown : ∀ other held, state.cache.find? other = some (.ready held) →
      held.knows label = false) : evidence.knows label = false := by
  obtain ⟨revisions, results, _, _, found, rfl⟩ := justified
  rw [Evidence.knows_merged, List.any_eq_false]
  intro result member
  obtain ⟨index, bound, rfl⟩ := List.getElem_of_mem member
  have here := found.get (found.length_eq ▸ bound) bound
  simp only [List.get_eq_getElem] at here
  simp [unknown _ _ here]

theorem Environment.upholds_unaware (environment : Environment) (label : String)
    (since : List Event) :
    environment.Upholds (State.Unaware environment label since) where
  single polling branch revision state unaware := by
    obtain ⟨added, grown, _⟩ :=
      Client.evidenceOf_history { environment, polling } branch revision state
    constructor
    · exact unaware.follows.trans ⟨added, grown.symm⟩
    · intro received key evidence found
      rcases Client.found_or_received_evidenceOf found with before | ⟨_, now⟩
      · apply unaware.unknown _ key evidence before
        intro otherBranch other held earlier
        exact received otherBranch other held
          (earlier.mono List.suffix_rfl ⟨added, grown.symm⟩)
      · exact received branch revision evidence
          (now.mono unaware.follows List.suffix_rfl)
  gathered state key value _ _ justified unaware := by
    refine ⟨unaware.follows, ?_⟩
    intro received other evidence found
    rw [State.find?_remember] at found
    by_cases same : other = key
    · rw [if_pos same] at found
      cases found
      exact justified.knows (unaware.unknown received)
    · rw [if_neg same] at found
      exact unaware.unknown received other evidence found
  quiet state after added sameCache grown _ unaware := by
    have longer : state.history <:+ after.history := ⟨added, grown.symm⟩
    refine ⟨unaware.follows.trans longer, ?_⟩
    intro received key evidence found
    rw [sameCache] at found
    apply unaware.unknown _ key evidence found
    intro branch revision held earlier
    exact received branch revision held (earlier.mono List.suffix_rfl longer)

/-- Evidence for a push does not know a task that nothing remembered knows and
that no answer of the predictor on the way knows. -/
theorem Client.knows_evidenceFor {client : Client} {push : Push} {pushes : Nat}
    {label : String} {state after : State} {evidence : Evidence}
    (answered : client.evidenceFor push pushes state = (.ok evidence, after))
    (cached : ∀ key held, state.cache.find? key = some (.ready held) →
      held.knows label = false)
    (received : ∀ branch revision held,
      client.environment.Received branch revision held state.history
        after.history →
      held.knows label = false) : evidence.knows label = false := by
  have unaware : after.Unaware client.environment label state.history := by
    have start : state.Unaware client.environment label state.history :=
      ⟨List.suffix_rfl, fun _ => cached⟩
    have kept :=
      ((client.environment.upholds_unaware label state.history).carries
      client.polling).evidenceFor push pushes state start
    rwa [show (client.evidenceFor push pushes state).2 =
      after from congrArg Prod.snd answered]
      at kept
  have conclusive : Conclusive (client.evidenceFor push pushes state).1 := by
    rw [answered]
    trivial
  obtain ⟨value, found, ready⟩ := exists_find?_evidenceFor conclusive
  rw [answered] at found ready
  obtain rfl := ready evidence rfl
  exact unaware.unknown received _ evidence found

/-- A context that carries no components, no importance and no changed files. -/
structure Context.HasNoData (context : Context) : Prop where
  components : context.components = none
  importance : context.importance.isEmpty = true
  changedFiles : context.changedFiles = none

/-- The predictor has nothing to say against a task: the task has no test
groups, or nothing that is remembered knows it and neither does any answer of
the predictor between two histories. -/
def Question.IsUnjudged (question : Question) (state : State)
    (later : List Event) : Prop :=
  question.task.manifests = [] ∨
    (∀ key evidence, state.cache.find? key = some (.ready evidence) →
      evidence.knows question.task.label = false) ∧
    ∀ branch revision evidence,
      question.client.environment.Received branch revision evidence
        state.history later →
      evidence.knows question.task.label = false

/-- A predictor rule whose fallback keeps does not remove a task that the
predictor does not judge, whatever the predictor and the push log answer. -/
theorem removesUnlikely_of_unjudged {question : Question} {rule : PredictorRule}
    {fallback : Option (Step Bool)}
    (fallbackKeeps : ∀ decide, fallback = some decide → decide = pure false)
    {state : State} (unjudged : question.IsUnjudged state
      (removesUnlikely question rule fallback state).2.history) :
    (removesUnlikely question rule fallback state).1 ≠ .ok true := by
  cases allowed : allowsProject rule.projects question.push.project with
  | false =>
      rw [removesUnlikely_elsewhere allowed]
      exact nofun
  | true =>
      cases answered :
          question.client.evidenceFor question.push rule.pushes state with
      | mk answer after =>
          cases answer with
          | ok evidence =>
              rw [removesUnlikely_ok allowed answered] at unjudged ⊢
              have keeps : rule.selector.removes evidence question.task =
                  false := by
                rcases unjudged with noGroups | ⟨cached, received⟩
                · simp [Selector.removes, noGroups]
                · simp [Selector.removes,
                    Client.knows_evidenceFor answered cached received]
              rw [keeps]
              exact nofun
          | error failure =>
              rcases failure.exists_timeout_or with
                ⟨branch, revision, elapsed, rfl⟩ | hard
              · rw [removesUnlikely_timeout allowed answered]
                cases fallback with
                | none => exact nofun
                | some decide =>
                    rw [fallbackKeeps decide rfl]
                    exact nofun
              · rw [removesUnlikely_failed allowed hard answered]
                exact nofun

section NoData

variable {question : Question} (noData : question.context.HasNoData)

include noData

theorem Context.HasNoData.schedules :
    Strategy.schedules.decide question = pure false := by
  rw [Strategy.decide, removesUnscheduled, noData.components]

theorem Context.HasNoData.relevantTests :
    Strategy.relevantTests.decide question = pure false := by
  rw [Strategy.decide, removesIrrelevant, noData.changedFiles]
  cases question.task.attributes.suite <;> rfl

theorem Context.HasNoData.disperse (targets : Targets) :
    (Strategy.disperse targets).decide question = pure false := by
  rw [Strategy.decide, removesDispersed, if_pos noData.importance]

/-- Without data a rule that falls back on tests near changed files removes
nothing that the predictor does not judge. -/
theorem Context.HasNoData.predictorOr {rule : PredictorRule} {state : State}
    (unjudged : question.IsUnjudged state
      ((Strategy.predictorOr rule .relevantTests).decide question
        state).2.history) :
    ((Strategy.predictorOr rule .relevantTests).decide question state).1 ≠
      .ok true := by
  rw [Strategy.decide] at unjudged ⊢
  apply removesUnlikely_of_unjudged _ unjudged
  intro decide isFallback
  cases isFallback
  exact noData.relevantTests

end NoData

theorem Step.firstRemoval_of_keeps (ask : Step Bool) :
    firstRemoval [pure false, ask, pure false] = ask := by
  funext state
  change firstRemoval [ask, pure false] state = ask state
  cases answered : ask state with
  | mk answer after =>
      rcases answer with failure | removes
      · simp [firstRemoval, answered]
      · cases removes with
        | true => simp [firstRemoval, answered]
        | false =>
            simp only [firstRemoval, answered]
            rfl

namespace Policies

/-- With a valid configuration the built-in policy exists, and without data it
removes nothing that the predictor does not judge: on any push, from any state,
whatever the predictor and the push log answer, the task is kept or the decision
fails. -/
theorem autolandTest_keeps_unjudged (config : Config)
    (valid : config.check = .ok ()) :
    ∃ registry policy, Registry.builtin config = .ok registry ∧
      IsAutolandTest registry policy ∧
      ∀ (question : Question) (state : State), question.context.HasNoData →
        question.IsUnjudged state (policy.decide question state).2.history →
        (policy.decide question state).1 ≠ .ok true := by
  obtain ⟨registry, built⟩ := Registry.exists_builtin_of_check valid
  obtain ⟨half, scheduling, single, window, dispersal, parts, everywhere, _⟩ :=
    HoldsParts.of_builtin built
  obtain ⟨rfl, rfl⟩ := parts.contextual_of_builtin built
  obtain ⟨⟨_, rfl, _⟩, _, rfl, _⟩ := parts.rules_of_builtin built
  refine ⟨registry, _, built, parts.isAutolandTest, ?_⟩
  intro question state noData unjudged
  rw [autolandTree_decide _ _ _ _ everywhere, noData.schedules, noData.disperse,
    firstRemoval_of_keeps, firstRemoval_of_keeps] at unjudged ⊢
  by_cases backstop : question.push.backstop = true
  · rw [if_pos backstop]
    exact nofun
  · rw [if_neg backstop] at unjudged ⊢
    by_cases due : question.push.id % half.interval = 0
    · rw [if_pos due] at unjudged ⊢
      exact noData.predictorOr unjudged
    · rw [if_neg due] at unjudged ⊢
      exact noData.predictorOr unjudged

/-- A predictor that is ready at once and knows one task. -/
def singleTaskClient : Client where
  environment := {
    fetch := fun _ _ _ => (.ok (.ready { known := Names.ofList ["known"] }), 1)
    pushes := fun _ _ _ _ => .ok ∅ }
  polling := { interval := 2, timeout := 5, positive := Nat.two_pos }

/-- With the default configuration a task is not removed when the predictor only
knows another one. -/
theorem autolandTest_keeps_unjudged_by_default :
    let question : Question := {
      client := singleTaskClient
      context := {}
      push := {
        branch := "autoland", repository := "repo", revision := "abc",
        project := "autoland", id := 3 }
      task := {
        label := "new", kind := "test"
        attributes := { manifests := some ["dom/tests/mochitest.toml"] } } }
    ({} : Config).check = .ok () ∧ question.context.HasNoData ∧
      ∃ registry policy, Registry.builtin {} = .ok registry ∧
        IsAutolandTest registry policy ∧
        question.IsUnjudged {} (policy.decide question {}).2.history ∧
        (policy.decide question {}).1 ≠ .ok true := by
  intro question
  have valid : ({} : Config).check = .ok () := by
    have accepted : ({} : Config).check.toOption = some () := by decide +kernel
    cases checked : ({} : Config).check with
    | ok _ => rfl
    | error error =>
        rw [checked] at accepted
        cases accepted
  have noData : question.context.HasNoData := ⟨rfl, rfl, rfl⟩
  have unknown : Evidence.knows { known := Names.ofList ["known"] } "new" =
      false := by decide
  have unjudged : ∀ later, question.IsUnjudged {} later := by
    intro later
    refine .inr ⟨?_, ?_⟩
    · intro key evidence found
      cases found
    · rintro branch revision evidence ⟨_, _, _, reply⟩
      cases reply
      exact unknown
  obtain ⟨registry, policy, built, isPolicy, keeps⟩ :=
    autolandTest_keeps_unjudged {} valid
  exact ⟨valid, noData, registry, policy, built, isPolicy, unjudged _,
    keeps question {} noData (unjudged _)⟩

end Policies

end TaskSieve
