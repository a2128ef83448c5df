import TaskSieve.Proofs.Registry.Entries
import TaskSieve.Strategy.Decision

/-!
# Strategies without given votes

A strategy is standard when no vote in it is given from outside, so that all
it can do is known.  Every strategy of the built-in registry is standard, and
so is every tree that is built from standard strategies.  What holds of the
votes of simple strategies and is kept in composing steps holds of every
standard vote.
-/

namespace TaskSieve

/-- A property of steps that simple votes have and that is kept in composing
votes. -/
structure Question.Composes (question : Question)
    (property : Step Bool → Prop) : Prop where
  pure : ∀ removes, property (pure removes)
  bind : ∀ (first : Step Bool) (next : Bool → Step Bool), property first →
    (∀ removes, property (next removes)) → property (first >>= next)
  irrelevant : property (removesIrrelevant question.context question.task)
  dispersed : ∀ targets,
    property (removesDispersed question.context targets question.task)
  unlikely : ∀ rule fallback,
    (∀ decide, fallback = some decide → property decide) →
    property (removesUnlikely question rule fallback)

/-- The same, when only some predictor rules are known to have the property. -/
structure Question.ComposesUnder (question : Question)
    (admits : PredictorRule → Prop) (property : Step Bool → Prop) : Prop where
  pure : ∀ removes, property (pure removes)
  bind : ∀ (first : Step Bool) (next : Bool → Step Bool), property first →
    (∀ removes, property (next removes)) → property (first >>= next)
  irrelevant : property (removesIrrelevant question.context question.task)
  dispersed : ∀ targets,
    property (removesDispersed question.context targets question.task)
  unlikely : ∀ rule fallback, admits rule →
    (∀ decide, fallback = some decide → property decide) →
    property (removesUnlikely question rule fallback)

theorem Question.Composes.under {question : Question}
    {admits : PredictorRule → Prop} {property : Step Bool → Prop}
    (composes : question.Composes property) :
    question.ComposesUnder admits property where
  pure := composes.pure
  bind := composes.bind
  irrelevant := composes.irrelevant
  dispersed := composes.dispersed
  unlikely rule fallback _ := composes.unlikely rule fallback

namespace Strategy

mutual

/-- A strategy in which no vote is given from outside. -/
def IsStandard : Strategy → Prop
  | .custom _ _ => False
  | .predictorOr _ fallback => fallback.IsStandard
  | .any children => AllStandard children
  | .all children => AllStandard children
  | .not child => child.IsStandard
  | .backstop | .pushInterval _ | .expanded _ | .debug | .schedules
  | .relevantTests
  | .disperse _ | .predictor _ => True

/-- Several strategies of that kind. -/
def AllStandard : List Strategy → Prop
  | [] => True
  | child :: rest => child.IsStandard ∧ AllStandard rest

end

variable {condition : (Task → Push → Context → Step Bool) → Prop}

mutual

/-- Whether every vote in a strategy that is given from outside meets a
condition. -/
def GivenVotes (condition : (Task → Push → Context → Step Bool) → Prop) :
    Strategy → Prop
  | .custom _ vote => condition vote
  | .predictorOr _ fallback => fallback.GivenVotes condition
  | .any children => AllGivenVotes condition children
  | .all children => AllGivenVotes condition children
  | .not child => child.GivenVotes condition
  | .backstop | .pushInterval _ | .expanded _ | .debug | .schedules
  | .relevantTests
  | .disperse _ | .predictor _ => True

/-- The same of several strategies. -/
def AllGivenVotes (condition : (Task → Push → Context → Step Bool) → Prop) :
    List Strategy → Prop
  | [] => True
  | child :: rest => child.GivenVotes condition ∧ AllGivenVotes condition rest

end

mutual

/-- A standard strategy has no given votes, so they meet any condition. -/
theorem IsStandard.givenVotes {strategy : Strategy}
    (standard : strategy.IsStandard) : strategy.GivenVotes condition := by
  cases strategy with
  | custom description vote => exact standard.elim
  | predictorOr rule fallback =>
      have standardFallback : fallback.IsStandard := standard
      exact standardFallback.givenVotes
  | any children =>
      have standardChildren : AllStandard children := standard
      exact standardChildren.allGivenVotes
  | all children =>
      have standardChildren : AllStandard children := standard
      exact standardChildren.allGivenVotes
  | not child =>
      have standardChild : child.IsStandard := standard
      exact standardChild.givenVotes
  | _ => trivial

theorem AllStandard.allGivenVotes {children : List Strategy}
    (standard : AllStandard children) : AllGivenVotes condition children := by
  cases children with
  | nil => trivial
  | cons child rest => exact ⟨standard.1.givenVotes, standard.2.allGivenVotes⟩

end

mutual

/-- Whether every predictor rule in a strategy meets a condition. -/
def RulesMeet (condition : PredictorRule → Prop) : Strategy → Prop
  | .predictor rule => condition rule
  | .predictorOr rule fallback => condition rule ∧ fallback.RulesMeet condition
  | .any children => AllRulesMeet condition children
  | .all children => AllRulesMeet condition children
  | .not child => child.RulesMeet condition
  | .backstop | .pushInterval _ | .expanded _ | .debug | .schedules
  | .relevantTests
  | .disperse _ | .custom _ _ => True

/-- The same of several strategies. -/
def AllRulesMeet (condition : PredictorRule → Prop) : List Strategy → Prop
  | [] => True
  | child :: rest => child.RulesMeet condition ∧ AllRulesMeet condition rest

end

mutual

theorem rulesMeet_true (strategy : Strategy) :
    strategy.RulesMeet fun _ => True := by
  cases strategy with
  | predictorOr rule fallback => exact ⟨trivial, rulesMeet_true fallback⟩
  | any children => exact allRulesMeet_true children
  | all children => exact allRulesMeet_true children
  | not child => exact rulesMeet_true child
  | _ => trivial

theorem allRulesMeet_true (children : List Strategy) :
    AllRulesMeet (fun _ => True) children := by
  cases children with
  | nil => trivial
  | cons child rest => exact ⟨rulesMeet_true child, allRulesMeet_true rest⟩

end

variable {question : Question} {admits : PredictorRule → Prop}
  {property : Step Bool → Prop}

mutual

/-- What holds of simple votes, of the given ones and of the rules that are
admitted, and is kept in composing votes, holds of the vote of the whole
strategy. -/
theorem decide_of_rules (composes : question.ComposesUnder admits property)
    (holds : ∀ vote, condition vote →
      property (vote question.task question.push question.context))
    (strategy : Strategy) (given : strategy.GivenVotes condition)
    (admitted : strategy.RulesMeet admits) :
    property (strategy.decide question) := by
  cases strategy with
  | backstop => exact composes.pure _
  | pushInterval gate => exact composes.pure _
  | expanded half => exact composes.pure _
  | debug => exact composes.pure _
  | schedules => exact composes.pure _
  | relevantTests => exact composes.irrelevant
  | disperse targets => exact composes.dispersed targets
  | predictor rule =>
      rw [decide]
      exact composes.unlikely rule none admitted nofun
  | predictorOr rule fallback =>
      rw [decide]
      apply composes.unlikely _ _ admitted.1
      intro step isFallback
      cases isFallback
      exact decide_of_rules composes holds fallback given admitted.2
  | custom description vote => exact holds vote given
  | any children =>
      rw [decide]
      exact decideAny_of_rules composes holds children given admitted
  | all children =>
      cases children with
      | nil => exact composes.pure false
      | cons child rest =>
          exact decideAll_of_rules composes holds (child :: rest) given admitted
  | not child =>
      rw [decide]
      apply composes.bind
        _ _ (decide_of_rules composes holds child given admitted)
      intro removes
      exact composes.pure _

theorem decideAny_of_rules (composes : question.ComposesUnder admits property)
    (holds : ∀ vote, condition vote →
      property (vote question.task question.push question.context))
    (children : List Strategy) (given : AllGivenVotes condition children)
    (admitted : AllRulesMeet admits children) :
    property (decideAny question children) := by
  cases children with
  | nil => exact composes.pure false
  | cons child rest =>
      rw [decideAny]
      apply composes.bind
        _ _ (decide_of_rules composes holds child given.1 admitted.1)
      intro removes
      cases removes with
      | true => exact composes.pure true
      | false => exact decideAny_of_rules composes holds rest given.2 admitted.2

theorem decideAll_of_rules (composes : question.ComposesUnder admits property)
    (holds : ∀ vote, condition vote →
      property (vote question.task question.push question.context))
    (children : List Strategy) (given : AllGivenVotes condition children)
    (admitted : AllRulesMeet admits children) :
    property (decideAll question children) := by
  cases children with
  | nil => exact composes.pure true
  | cons child rest =>
      rw [decideAll]
      apply composes.bind
        _ _ (decide_of_rules composes holds child given.1 admitted.1)
      intro removes
      cases removes with
      | true => exact decideAll_of_rules composes holds rest given.2 admitted.2
      | false => exact composes.pure false

end

/-- What holds of simple votes and of the given ones, and is kept in composing
votes, holds of the vote of the whole strategy. -/
theorem decide_of_given (composes : question.Composes property)
    (holds : ∀ vote, condition vote →
      property (vote question.task question.push question.context))
    (strategy : Strategy) (given : strategy.GivenVotes condition) :
    property (strategy.decide question) :=
  decide_of_rules composes.under holds strategy given strategy.rulesMeet_true

theorem decide_of_composes (composes : question.Composes property)
    (strategy : Strategy) (standard : strategy.IsStandard) :
    property (strategy.decide question) := by
  have noVotes : strategy.GivenVotes fun _ => False := standard.givenVotes
  exact decide_of_given composes nofun strategy noVotes

end Strategy

namespace Registry

/-- A registry that holds standard strategies only. -/
def AllStandard (registry : Registry) : Prop :=
  ∀ name strategy, registry.find? name = some strategy → strategy.IsStandard

theorem BuiltinEntry.isStandard {config : Config} {entry : String × Strategy}
    (builtin : BuiltinEntry config entry) : entry.2.IsStandard := by
  cases builtin with
  | backstop => trivial
  | pushInterval gate => trivial
  | expanded positive => trivial
  | contextual entry member =>
      simp only [Registry.contextual, List.mem_cons, List.not_mem_nil, or_false]
          at member
      rcases member with rfl | rfl | rfl | rfl | rfl
      all_goals trivial
  | rule rule listed isFraction =>
      simp only [BuiltinRule.made]
      split
      · trivial
      · trivial

theorem allStandard_of_builtin {config : Config} {registry : Registry}
    (built : builtin config = .ok registry) : registry.AllStandard := by
  intro name strategy found
  exact ((find?_of_builtin built).2 name strategy found).isStandard

end Registry

namespace Spec

variable {registry : Registry}

mutual

theorem build_isStandard (standard : registry.AllStandard) {spec : Spec}
    {strategy : Strategy} (built : spec.build registry = .ok strategy) :
    strategy.IsStandard := by
  cases spec with
  | named name =>
      exact standard name strategy (Registry.require_eq_ok_iff.mp built)
  | any children =>
      rw [build] at built
      cases builtChildren : buildAll registry children with
      | error error =>
          rw [builtChildren] at built
          cases built
      | ok strategies =>
          rw [builtChildren] at built
          cases built
          exact buildAll_allStandard standard builtChildren
  | all children =>
      rw [build] at built
      cases builtChildren : buildAll registry children with
      | error error =>
          rw [builtChildren] at built
          cases built
      | ok strategies =>
          rw [builtChildren] at built
          cases built
          exact buildAll_allStandard standard builtChildren
  | not child =>
      rw [build] at built
      cases builtChild : child.build registry with
      | error error =>
          rw [builtChild] at built
          cases built
      | ok inner =>
          rw [builtChild] at built
          cases built
          have standardChild : inner.IsStandard :=
            build_isStandard standard builtChild
          exact standardChild

theorem buildAll_allStandard (standard : registry.AllStandard)
    {children : List Spec} {strategies : List Strategy}
    (built : buildAll registry children = .ok strategies) :
    Strategy.AllStandard strategies := by
  cases children with
  | nil =>
      cases built
      trivial
  | cons child rest =>
      rw [buildAll] at built
      cases builtChild : child.build registry with
      | error error =>
          rw [builtChild] at built
          cases built
      | ok strategy =>
          cases builtRest : buildAll registry rest with
          | error error =>
              rw [builtChild, builtRest] at built
              cases built
          | ok others =>
              rw [builtChild, builtRest] at built
              cases built
              exact ⟨build_isStandard standard builtChild,
                buildAll_allStandard standard builtRest⟩

end

end Spec

end TaskSieve
