import TaskSieve.Registry

/-!
# Policies of projects

A policy is the strategy that decides for a project and a purpose.  Policies
of the configuration replace the built-in one and each other.
-/

namespace TaskSieve

open Std

/-- What a policy is for. -/
structure PolicyKey where
  project : String
  purpose : String
  deriving DecidableEq, Repr

namespace PolicyKey

/-- Keys are ordered by project, then by purpose. -/
def order : PolicyKey → PolicyKey → Ordering :=
  compareLex (compareOn project) (compareOn purpose)

instance : Ord PolicyKey := ⟨order⟩

instance : TransOrd PolicyKey :=
  inferInstanceAs
    (TransCmp (compareLex (compareOn project) (compareOn purpose)))

instance : LawfulEqOrd PolicyKey where
  eq_of_compare {left right} same := by
    obtain ⟨project, purpose⟩ := left
    obtain ⟨project', purpose'⟩ := right
    have both : (compare project project').then (compare purpose purpose') =
        .eq := same
    simp only [Ordering.then_eq_eq] at both
    rw [LawfulEqOrd.eq_of_compare both.1, LawfulEqOrd.eq_of_compare both.2]

end PolicyKey

/-- Strategies by project and purpose. -/
abbrev Policies := Table PolicyKey Strategy

namespace Policies

/-- The tree of the built-in policy.  Expanded pushes look back over ten pushes;
the pushes between them look at themselves alone; backstop pushes run
everything. -/
def autolandTest : Spec :=
  let trimmed (rule : String) : Spec :=
    .any [.named "skip-unless-schedules", .named rule,
      .named "platform-disperse"]
  .any [
    .all [
      .named "skip-unless-backstop",
      .not (.named "skip-unless-expanded"),
      trimmed "bugbug-reduced-manifests-fallback-last-10-pushes"],
    .all [
      .named "skip-unless-expanded",
      trimmed "bugbug-reduced-manifests-fallback"]]

/-- The built-in policy alone. -/
def builtin (registry : Registry) : Except StrategyError Policies := do
  return Table.insert ∅ ⟨"autoland", "test"⟩ (← autolandTest.build registry)

/-- Adds a policy of the configuration. -/
def add (registry : Registry) (policies : Policies)
    (settings : PolicySettings) :
    Except StrategyError Policies := do
  let strategy ← settings.strategy.build registry
  return policies.insert ⟨settings.project, settings.purpose⟩ strategy

/-- The built-in policy and those of the configuration, of which the last
counts. -/
def ofConfig (config : Config) (registry : Registry) :
    Except StrategyError Policies := do
  config.policies.foldlM (add registry) (← builtin registry)

/-- The policy for a project and a purpose, which must be there. -/
def require (policies : Policies) (project purpose : String) :
    Except StrategyError Strategy :=
  match policies.find? ⟨project, purpose⟩ with
  | some strategy => .ok strategy
  | none => .error (.noPolicy project purpose)

end Policies

end TaskSieve
