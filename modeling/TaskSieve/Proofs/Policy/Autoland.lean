import TaskSieve.Policy
import TaskSieve.Proofs.Registry.Entries
import TaskSieve.Proofs.Strategy.Asking

/-!
# What the built-in policy decides

The tree of the built-in policy asks for expanded pushes twice, once negated,
so that each of its branches is behind a gate of its own.  Backstop pushes
pass neither gate, expanded pushes the first one, all others the second one.
Behind each gate stands one disjunction of three strategies.
-/

namespace TaskSieve

open Step

namespace Policies

/-- The policy that the built-in policies of a registry have for tests on
autoland. -/
def IsAutolandTest (registry : Registry) (policy : Strategy) : Prop :=
  ∃ policies, builtin registry = .ok policies ∧
    policies.require "autoland" "test" = .ok policy

/-- The tree of the built-in policy, built from the strategies under its
names. -/
def autolandTree (half : PushInterval)
    (scheduling single window dispersal : Strategy) : Strategy :=
  .any [
    .all [.backstop, .not (.expanded half),
    .any [scheduling, window, dispersal]],
    .all [.expanded half, .any [scheduling, single, dispersal]]]

section Gates

variable {half : PushInterval} {question : Question}

theorem backstop_of_no_backstop (noBackstop : question.push.backstop = false) :
    Strategy.backstop.decide question = pure true := by
  rw [Strategy.decide, noBackstop]
  rfl

theorem expanded_of_backstop (backstop : question.push.backstop = true) :
    (Strategy.expanded half).decide question = pure false := by
  rw [Strategy.decide, backstop]
  rfl

theorem expanded_of_no_backstop (everywhere : half.projects = none)
    (noBackstop : question.push.backstop = false) :
    (Strategy.expanded half).decide question =
      pure (decide (question.push.id % half.interval ≠ 0)) := by
  simp [Strategy.decide, noBackstop, PushInterval.removes, PushInterval.isDue,
    allowsProject, everywhere]

variable (scheduling single window dispersal : Strategy)

/-- On a backstop push the tree keeps without asking any strategy. -/
theorem autolandTree_of_backstop (backstop : question.push.backstop = true) :
    (autolandTree half scheduling single window dispersal).decide question =
      pure false := by
  have closedFirst : Strategy.backstop.decide question = pure false := by
    rw [Strategy.decide, backstop]
    rfl
  have closedSecond : (Strategy.expanded half).decide question = pure false :=
    expanded_of_backstop backstop
  have keepsFirst : (Strategy.all [.backstop, .not (.expanded half),
      .any [scheduling, window, dispersal]]).decide question = pure false := by
    rw [Strategy.decide, Strategy.decideAll_cons_of_keeps closedFirst]
  have keepsSecond : (Strategy.all [.expanded half,
      .any [scheduling, single, dispersal]]).decide question = pure false := by
    rw [Strategy.decide, Strategy.decideAll_cons_of_keeps closedSecond]
  rw [autolandTree, Strategy.decide,
    Strategy.decideAny_cons_of_keeps keepsFirst,
    Strategy.decideAny_cons_of_keeps keepsSecond, Strategy.decideAny]

/-- On an expanded push only the strategies of the first branch are asked. -/
theorem autolandTree_of_expanded (everywhere : half.projects = none)
    (noBackstop : question.push.backstop = false)
    (due : question.push.id % half.interval = 0) :
    (autolandTree half scheduling single window dispersal).decide question =
      firstRemoval [scheduling.decide question, window.decide question,
        dispersal.decide question] := by
  have openFirst := backstop_of_no_backstop noBackstop
  have expanded : (Strategy.expanded half).decide question = pure false := by
    rw [expanded_of_no_backstop everywhere noBackstop]
    simp [due]
  have openSecond : (Strategy.not (.expanded half)).decide question =
      pure true :=
    Strategy.decide_not_of_answer expanded
  have keepsSecond : (Strategy.all [.expanded half,
      .any [scheduling, single, dispersal]]).decide question = pure false := by
    rw [Strategy.decide, Strategy.decideAll_cons_of_keeps expanded]
  have keepsRest : Strategy.decideAny question [.all [.expanded half,
      .any [scheduling, single, dispersal]]] = pure false := by
    rw [Strategy.decideAny_cons_of_keeps keepsSecond, Strategy.decideAny]
  rw [autolandTree, Strategy.decide,
    Strategy.decideAny_cons_of_rest_keeps keepsRest, Strategy.decide,
    Strategy.decideAll_cons_of_removes openFirst,
    Strategy.decideAll_cons_of_removes openSecond, Strategy.decideAll_singleton,
    Strategy.decide_any]
  rfl

/-- On every other push only the strategies of the second branch are asked. -/
theorem autolandTree_of_regular (everywhere : half.projects = none)
    (noBackstop : question.push.backstop = false)
    (notDue : question.push.id % half.interval ≠ 0) :
    (autolandTree half scheduling single window dispersal).decide question =
      firstRemoval [scheduling.decide question, single.decide question,
        dispersal.decide question] := by
  have openFirst := backstop_of_no_backstop noBackstop
  have regular : (Strategy.expanded half).decide question = pure true := by
    rw [expanded_of_no_backstop everywhere noBackstop]
    simp [notDue]
  have closedSecond : (Strategy.not (.expanded half)).decide question =
      pure false :=
    Strategy.decide_not_of_answer regular
  have keepsFirst : (Strategy.all [.backstop, .not (.expanded half),
      .any [scheduling, window, dispersal]]).decide question = pure false := by
    rw [Strategy.decide, Strategy.decideAll_cons_of_removes openFirst,
      Strategy.decideAll_cons_of_keeps closedSecond]
  have alone : Strategy.decideAny question [.all [.expanded half,
      .any [scheduling, single, dispersal]]] =
      (Strategy.all [.expanded half,
        .any [scheduling, single, dispersal]]).decide question :=
    Strategy.decideAny_cons_of_rest_keeps rfl
  rw [autolandTree, Strategy.decide,
    Strategy.decideAny_cons_of_keeps keepsFirst, alone, Strategy.decide,
    Strategy.decideAll_cons_of_removes regular, Strategy.decideAll_singleton,
    Strategy.decide_any]
  rfl

/-- Each push passes one gate at most. -/
theorem autolandTree_decide (everywhere : half.projects = none) :
    (autolandTree half scheduling single window dispersal).decide question =
      if question.push.backstop then pure false
      else if question.push.id % half.interval = 0 then
        firstRemoval [scheduling.decide question, window.decide question,
          dispersal.decide question]
      else
        firstRemoval [scheduling.decide question, single.decide question,
          dispersal.decide question] := by
  by_cases backstop : question.push.backstop = true
  · rw [if_pos backstop, autolandTree_of_backstop _ _ _ _ backstop]
  · rw [if_neg backstop]
    rw [Bool.not_eq_true] at backstop
    by_cases due : question.push.id % half.interval = 0
    · rw [if_pos due, autolandTree_of_expanded _ _ _ _ everywhere backstop due]
    · rw [if_neg due, autolandTree_of_regular _ _ _ _ everywhere backstop due]

end Gates

theorem isAutolandTest_iff {registry : Registry} {policy : Strategy} :
    IsAutolandTest registry policy ↔
      autolandTest.build registry = .ok policy := by
  unfold IsAutolandTest builtin require
  cases autolandTest.build registry with
  | error error => simp [bind, Except.bind]
  | ok strategy => simp [bind, Except.bind, pure, Except.pure]

/-- The strategies that a registry holds under the names of the tree. -/
structure HoldsParts (registry : Registry) (half : PushInterval)
    (scheduling single window dispersal : Strategy) : Prop where
  backstop : registry.find? "skip-unless-backstop" = some .backstop
  expanded : registry.find? "skip-unless-expanded" = some (.expanded half)
  scheduling : registry.find? "skip-unless-schedules" = some scheduling
  single : registry.find? "bugbug-reduced-manifests-fallback" = some single
  window : registry.find? "bugbug-reduced-manifests-fallback-last-10-pushes" =
    some window
  dispersal : registry.find? "platform-disperse" = some dispersal

namespace HoldsParts

variable {registry : Registry} {half : PushInterval}
  {scheduling single window dispersal : Strategy}

theorem isAutolandTest
    (parts : HoldsParts registry half scheduling single window dispersal) :
    IsAutolandTest registry
      (autolandTree half scheduling single window dispersal) := by
  rw [isAutolandTest_iff]
  simp [autolandTest, autolandTree, Spec.build, Spec.buildAll, Registry.require,
    parts.backstop, parts.expanded, parts.scheduling, parts.single,
    parts.window, parts.dispersal, bind, Except.bind, pure, Except.pure]

/-- A predictor part can be replaced without touching any other part. -/
theorem insert
    (parts : HoldsParts registry half scheduling single window dispersal)
    {name : String} (other : Strategy)
    (free : ∀ part ∈ ["skip-unless-backstop", "skip-unless-expanded",
      "skip-unless-schedules", "platform-disperse"], part ≠ name) :
    HoldsParts (registry.insert name other) half scheduling
      (if "bugbug-reduced-manifests-fallback" = name then other else single)
      (if "bugbug-reduced-manifests-fallback-last-10-pushes" = name then other
        else window)
      dispersal where
  backstop := by
    rw [Table.find?_insert_of_ne _ _ (free _ (by simp)), parts.backstop]
  expanded := by
    rw [Table.find?_insert_of_ne _ _ (free _ (by simp)), parts.expanded]
  scheduling := by
    rw [Table.find?_insert_of_ne _ _ (free _ (by simp)), parts.scheduling]
  single := by rw [Table.find?_insert, parts.single, apply_ite some]
  window := by rw [Table.find?_insert, parts.window, apply_ite some]
  dispersal := by
    rw [Table.find?_insert_of_ne _ _ (free _ (by simp)), parts.dispersal]

theorem of_builtin {config : Config}
    (built : Registry.builtin config = .ok registry) :
    ∃ half scheduling single window dispersal,
      HoldsParts registry half scheduling single window dispersal ∧
        half.projects = none ∧
        half.interval = config.backstop.pushInterval / 2 := by
  obtain ⟨half, backstop, expanded, everywhere, halved⟩ :=
    Registry.gates_of_builtin built
  obtain ⟨named, _⟩ := Registry.find?_of_builtin built
  obtain ⟨scheduling, schedules⟩ := named "skip-unless-schedules" (by decide)
  obtain ⟨single, alone⟩ :=
    named "bugbug-reduced-manifests-fallback" (by decide)
  obtain ⟨window, tenth⟩ :=
    named "bugbug-reduced-manifests-fallback-last-10-pushes" (by decide)
  obtain ⟨dispersal, disperse⟩ := named "platform-disperse" (by decide)
  exact ⟨half, scheduling, single, window, dispersal,
    ⟨backstop, expanded, schedules, alone, tenth, disperse⟩, everywhere, halved⟩

/-- The parts behind both gates look at the schedules and at the dispersal of
the configuration. -/
theorem contextual_of_builtin {config : Config}
    (parts : HoldsParts registry half scheduling single window dispersal)
    (built : Registry.builtin config = .ok registry) :
    scheduling = .schedules ∧ dispersal = .disperse config.dispersal := by
  obtain ⟨_, entries⟩ := Registry.find?_of_builtin built
  have schedules := (entries _ _ parts.scheduling).mem_contextual (by
    simp [Registry.contextual])
  have disperse := (entries _ _ parts.dispersal).mem_contextual (by
    simp [Registry.contextual])
  constructor
  · simpa [Registry.contextual] using schedules
  · simpa [Registry.contextual] using disperse

/-- Behind the gate of expanded pushes stands the rule over ten pushes, behind
the other gate the rule over the push alone.  Both fall back on tests near
changed files when the predictor times out. -/
theorem rules_of_builtin {config : Config}
    (parts : HoldsParts registry half scheduling single window dispersal)
    (built : Registry.builtin config = .ok registry) :
    (∃ rule : PredictorRule,
      window = .predictorOr rule .relevantTests ∧ rule.pushes = 10) ∧
    ∃ rule : PredictorRule,
      single = .predictorOr rule .relevantTests ∧ rule.pushes = 1 := by
  let last : Registry.BuiltinRule := {
    name := "bugbug-reduced-manifests-fallback-last-10-pushes"
    threshold := .tenths 3
    reducedTasks := true
    fallback := true
    pushes := 10 }
  let alone : Registry.BuiltinRule := {
    name := "bugbug-reduced-manifests-fallback"
    threshold := .tenths 8
    reducedTasks := true
    fallback := true }
  have lastListed : last ∈ Registry.builtinRules config := by
    simp [Registry.builtinRules, last]
  have aloneListed : alone ∈ Registry.builtinRules config := by
    simp [Registry.builtinRules, alone]
  obtain ⟨lastFraction, lastFound⟩ := Registry.find?_of_rule built lastListed
  obtain ⟨aloneFraction, aloneFound⟩ := Registry.find?_of_rule built aloneListed
  have windowMade := Option.some.inj (parts.window.symm.trans lastFound)
  have singleMade := Option.some.inj (parts.single.symm.trans aloneFound)
  exact ⟨⟨last.predictor config.predictor.projects lastFraction,
      windowMade, rfl⟩,
    ⟨alone.predictor config.predictor.projects aloneFraction, singleMade, rfl⟩⟩

end HoldsParts

/-- The built-in policy exists with the built-in registry.  Backstop pushes are
kept without touching anything.  For all other pushes three strategies are asked
in order up to the first removal or failure, and which predictor strategy is
among them depends on whether the push is expanded.  What the registry holds in
place of the other one makes no difference. -/
theorem autolandTest_decides (config : Config)
    (interval : 2 ≤ config.backstop.pushInterval) :
    ((∃ registry, Registry.builtin config = .ok registry) ↔
      config.selection.threshold.isFraction = true) ∧
    ∀ registry, Registry.builtin config = .ok registry →
      ∃ policy scheduling single window dispersal,
        IsAutolandTest registry policy ∧
        registry.require "skip-unless-schedules" = .ok scheduling ∧
        registry.require "bugbug-reduced-manifests-fallback" = .ok single ∧
        registry.require "bugbug-reduced-manifests-fallback-last-10-pushes" =
          .ok window ∧
        registry.require "platform-disperse" = .ok dispersal ∧
        (∀ question state, policy.decide question state =
          if question.push.backstop then (.ok false, state)
          else if question.push.id % (config.backstop.pushInterval / 2) = 0 then
            firstRemoval [scheduling.decide question, window.decide question,
              dispersal.decide question] state
          else
            firstRemoval [scheduling.decide question, single.decide question,
              dispersal.decide question] state) ∧
        (∀ other, ∃ changed,
          IsAutolandTest
            (registry.insert "bugbug-reduced-manifests-fallback" other)
            changed ∧
          ∀ question, question.push.backstop = true ∨
            question.push.id % (config.backstop.pushInterval / 2) = 0 →
            changed.decide question = policy.decide question) ∧
        ∀ other, ∃ changed,
          IsAutolandTest
            (registry.insert "bugbug-reduced-manifests-fallback-last-10-pushes"
              other) changed ∧
          ∀ question, question.push.backstop = true ∨
            question.push.id % (config.backstop.pushInterval / 2) ≠ 0 →
            changed.decide question = policy.decide question := by
  constructor
  · rw [Registry.exists_builtin_iff]
    simp [interval]
  · intro registry built
    obtain ⟨half, scheduling, single, window, dispersal, parts, everywhere,
        halved⟩ :=
      HoldsParts.of_builtin built
    have different : "bugbug-reduced-manifests-fallback-last-10-pushes" ≠
        "bugbug-reduced-manifests-fallback" := by decide
    refine ⟨_, scheduling, single, window, dispersal, parts.isAutolandTest,
      Registry.require_eq_ok_iff.mpr parts.scheduling,
      Registry.require_eq_ok_iff.mpr parts.single,
      Registry.require_eq_ok_iff.mpr parts.window,
      Registry.require_eq_ok_iff.mpr parts.dispersal, ?_, ?_, ?_⟩
    · intro question state
      rw [autolandTree_decide _ _ _ _ everywhere, halved]
      split
      · rfl
      · split
        · rfl
        · rfl
    · intro other
      refine ⟨_, (parts.insert other (by decide)).isAutolandTest, ?_⟩
      intro question notAsked
      rw [autolandTree_decide _ _ _ _ everywhere,
        autolandTree_decide _ _ _ _ everywhere, halved, if_neg different]
      rcases notAsked with backstop | due
      · rw [if_pos backstop, if_pos backstop]
      · rw [if_pos due, if_pos due]
    · intro other
      refine ⟨_, (parts.insert other (by decide)).isAutolandTest, ?_⟩
      intro question notAsked
      rw [autolandTree_decide _ _ _ _ everywhere,
        autolandTree_decide _ _ _ _ everywhere, halved,
        if_neg different.symm]
      rcases notAsked with backstop | notDue
      · rw [if_pos backstop, if_pos backstop]
      · rw [if_neg notDue, if_neg notDue]

/-- A predictor that always fails and a push log that is empty. -/
def downClient : Client where
  environment := {
    fetch :=
      fun _ _ _ => (.error (.http "https://predictor" (some 500) "down"), 0)
    pushes := fun _ _ _ _ => .ok ∅ }
  polling := { interval := 1, timeout := 1, positive := Nat.one_pos }

/-- With the default configuration the policy keeps the tasks of a backstop push
although the predictor fails. -/
theorem autolandTest_keeps_on_default_backstop :
    2 ≤ ({} : Config).backstop.pushInterval ∧
    ∃ registry policy, Registry.builtin {} = .ok registry ∧
      IsAutolandTest registry policy ∧
      policy.decide
        { client := downClient
          context := {}
          push := {
            branch := "autoland", repository := "autoland", revision := "abc",
            project := "autoland", id := 11, backstop := true }
          task := Task.test "task-0" } {} = (.ok false, {}) := by
  have interval : 2 ≤ ({} : Config).backstop.pushInterval := by decide
  have fraction : ({} : Config).selection.threshold.isFraction = true := by
    decide
  obtain ⟨builds, decides⟩ := autolandTest_decides {} interval
  obtain ⟨registry, built⟩ := builds.mpr fraction
  obtain ⟨policy, _, _, _, _, isPolicy, _, _, _, _, decision, _⟩ :=
    decides registry built
  refine ⟨interval, registry, policy, built, isPolicy, ?_⟩
  rw [decision, if_pos rfl]

end Policies

end TaskSieve
