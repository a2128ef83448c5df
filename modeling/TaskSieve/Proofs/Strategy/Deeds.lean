import TaskSieve.Proofs.Evidence.Calls
import TaskSieve.Proofs.Evidence.Collecting
import TaskSieve.Proofs.Strategy.Preserving
import TaskSieve.Strategy.Given

/-!
# Strategies that share a cache

A run of several strategies and clients on one cache is a sequence of deeds,
each of which polls in its own way.  Votes that are given from outside could do
anything, so only those are considered that leave evidence alone.  An
invariant that gathering evidence keeps, and that other events do not disturb,
is kept by every deed that does not clear the cache.
-/

namespace TaskSieve

open Step

/-- Events that are neither requests to the predictor nor waits. -/
def Event.isQuiet : Event → Bool
  | .fetched _ _ => false
  | .slept _ => false
  | .queried _ _ _ => true
  | .asked _ => true
  | .derived _ => true

/-- A given vote that changes nothing that is remembered, and neither asks the
predictor nor waits. -/
def LeavesEvidence (vote : Task → Push → Context → Step Bool) : Prop :=
  ∀ task push context state,
    (vote task push context state).2.cache = state.cache ∧
    ∃ added, (vote task push context state).2.history = added ++ state.history ∧
      ∀ event ∈ added, event.isQuiet = true

/-- Votes that note which task they were asked about leave evidence alone. -/
theorem leavesEvidence_of_noting (answer : Task → Except Failure Bool) :
    LeavesEvidence fun task _ _ => Strategy.noteAsked task >>=
      fun _ => Step.answer (answer task) :=
  fun task _ _ _ => ⟨rfl, [.asked task.label], rfl, by simp [Event.isQuiet]⟩

/-- Whatever is polled how, gathering evidence keeps an invariant, and so do
quiet events. -/
structure Environment.Upholds (environment : Environment)
    (invariant : State → Prop) : Prop where
  single : ∀ polling branch revision,
    Preserves invariant
      (Client.evidenceOf { environment, polling } branch revision)
  gathered : ∀ state key value, 1 < key.pushes → state.cache.find? key = none →
    state.Justifies key value → invariant state →
    invariant (state.remember key value)
  quiet : ∀ (state after : State) (added : List Event), after.cache =
    state.cache →
    after.history = added ++ state.history →
    (∀ event ∈ added, event.isQuiet = true) →
    invariant state → invariant after

namespace Environment.Upholds

variable {environment : Environment} {invariant : State → Prop}

theorem carries (upholds : environment.Upholds invariant) (polling : Polling) :
    Client.Carries { environment, polling } invariant where
  single := upholds.single polling
  queried state repository first last :=
    upholds.quiet state _ [.queried repository first last] rfl rfl
      (by simp [Event.isQuiet])
  gathered := upholds.gathered

theorem ignoresDeriving (upholds : environment.Upholds invariant) :
    IgnoresDeriving invariant where
  noted state key :=
    upholds.quiet state _ [.derived key] rfl rfl (by simp [Event.isQuiet])
  kept state _ := upholds.quiet state _ [] rfl rfl nofun

theorem decide (upholds : environment.Upholds invariant) (polling : Polling)
    (context : Context) (push : Push) (task : Task) {strategy : Strategy}
    (given : strategy.GivenVotes LeavesEvidence) :
    Preserves invariant
      (strategy.decide
        { client := { environment, polling }, context, push, task }) := by
  have keeps :
      Question.Keeps { client := { environment, polling }, context, push, task }
      invariant :=
    upholds.ignoresDeriving.keeps fun pushes =>
      (upholds.carries polling).evidenceFor push pushes
  apply Strategy.decide_of_given keeps.composes _ strategy given
  intro vote leaves state
  obtain ⟨sameCache, added, grown, quiet⟩ := leaves task push context state
  exact upholds.quiet state _ added sameCache grown quiet

end Environment.Upholds

/-- What may be done by strategies that share a cache. -/
inductive Deed where
  | use (polling : Polling) (operation : Operation)
  | vote (polling : Polling) (context : Context) (push : Push) (task : Task)
    (strategy : Strategy)

namespace Deed

def apply (environment : Environment) (state : State) : Deed → State
  | .use polling operation => operation.apply { environment, polling } state
  | .vote polling context push task strategy =>
      (strategy.decide
        { client := { environment, polling }, context, push, task } state).2

/-- The state after several deeds in a row. -/
def run (environment : Environment) (deeds : List Deed) (state : State) :
    State :=
  deeds.foldl (apply environment) state

/-- Whether the votes that are given to a deed leave evidence alone. -/
def IsTame : Deed → Prop
  | .use _ _ => True
  | .vote _ _ _ _ strategy => strategy.GivenVotes LeavesEvidence

/-- Whether a deed clears the cache. -/
def clears : Deed → Bool
  | .use _ .clear => true
  | _ => false

variable {environment : Environment} {invariant : State → Prop}

theorem apply_of_clears {deed : Deed} (clears : deed.clears = true)
    (state : State) :
    deed.apply environment state = { state with cache := ∅ } := by
  cases deed with
  | vote polling context push task strategy => cases clears
  | use polling operation =>
      cases operation with
      | ask call => cases clears
      | clear => rfl

theorem apply_invariant (upholds : environment.Upholds invariant) {deed : Deed}
    (tame : deed.IsTame) (keeps : deed.clears = false) (state : State)
    (holds : invariant state) : invariant (deed.apply environment state) := by
  cases deed with
  | use polling operation =>
      cases operation with
      | clear => cases keeps
      | ask call =>
          cases call with
          | single branch revision =>
              exact upholds.single polling branch revision state holds
          | window push pushes =>
              exact (upholds.carries polling).evidenceFor push pushes
                state holds
  | vote polling context push task strategy =>
      exact upholds.decide polling context push task tame state holds

/-- What every deed of a run keeps, starting with what clearing keeps, holds
after the run. -/
theorem run_invariant (upholds : environment.Upholds invariant)
    (deeds : List Deed) (tame : ∀ deed ∈ deeds, deed.IsTame)
    (cleared : ∀ deed ∈ deeds, deed.clears = true →
      ∀ state, invariant state → invariant { state with cache := ∅ })
    (state : State) (holds : invariant state) :
    invariant (run environment deeds state) := by
  induction deeds generalizing state with
  | nil => exact holds
  | cons deed rest induction =>
      have first : invariant (deed.apply environment state) := by
        cases clears : deed.clears with
        | false =>
            exact apply_invariant upholds (tame deed (by simp)) clears
              state holds
        | true =>
            rw [apply_of_clears clears]
            exact cleared deed (by simp) clears state holds
      exact induction (fun later member => tame later (by simp [member]))
        (fun later member => cleared later (by simp [member])) _ first

end Deed

end TaskSieve
