import TaskSieve.Proofs.Evidence.Gathering
import TaskSieve.Proofs.Strategy.Preserving

/-!
# States that a context can be in

The values derived from a context start out empty and are added to by votes on
that context alone.  In every state that can be reached in this way, whatever
else the run does, the memo holds only what the context makes of its keys.
-/

namespace TaskSieve

open Step

theorem Context.allowsDeriving_extends (context : Context) (start : Memo) :
    context.AllowsDeriving start fun state =>
      context.Extends start state.memo where
  extending _ extending := extending
  noted _ _ extending := extending
  kept _ _ _ extending absent derives := extending.insert absent derives

/-- Evidence is gathered without looking at the memo. -/
theorem Client.keeps_memo (client : Client) (property : Memo → Prop) :
    client.Keeps fun state => property state.memo where
  asked _ _ _ holds := holds
  waited _ holds := holds
  queried _ _ _ _ holds := holds
  remembered _ _ _ holds := holds

/-- Standard votes on a context derive only what the context makes of its
keys. -/
theorem Question.keeps_extends (question : Question) (start : Memo) :
    question.Keeps fun state => question.context.Extends start state.memo where
  evidence pushes := Client.evidenceFor_preserves
    (question.client.keeps_memo fun memo => question.context.Extends start memo)
    question.push pushes
  irrelevant := by
    have allows := question.context.allowsDeriving_extends start
    exact (Strategy.removesIrrelevant_settles allows
      question.task).choose_spec.preserves
  dispersed targets := by
    have allows := question.context.allowsDeriving_extends start
    exact (Strategy.removesDispersed_settles allows targets
      question.task).choose_spec.preserves

/-- States in which a vote on a context may be asked for: nothing is derived at
first, and from then on only votes on the context derive values. -/
inductive Context.Reached (context : Context) : State → Prop where
  | fresh (state : State) (empty : state.memo = ∅) : Reached context state
  | elsewhere (before after : State) (reached : Reached context before)
      (sameMemo : after.memo = before.memo) : Reached context after
  | voted (client : Client) (push : Push) (task : Task) (strategy : Strategy)
      (standard : strategy.IsStandard) (state : State)
        (reached : Reached context state) :
      Reached context (strategy.decide { client, context, push, task } state).2

theorem Context.Reached.extends_empty {context : Context} {state : State}
    (reached : context.Reached state) : context.Extends ∅ state.memo := by
  induction reached with
  | fresh state empty =>
      rw [empty]
      exact .refl
  | elsewhere before after reached sameMemo extending =>
      rw [sameMemo]
      exact extending
  | voted client push task strategy standard state reached extending =>
      have keeps := Question.keeps_extends { client, context, push, task } ∅
      exact Strategy.decide_of_composes keeps.composes strategy standard
        state extending

/-- In a reached state, deriving gives what the context makes of the key,
whether or not it was derived before. -/
theorem Context.Reached.derived {α : Type} {context : Context} {state : State}
    (reached : context.Reached state) {step : Step α} {value : α}
    (settles :
      context.AllowsDeriving ∅ (fun state => context.Extends ∅ state.memo) →
      Settles (fun state => context.Extends ∅ state.memo) (fun _ => True)
        step (.ok value)) :
    ∃ after, step state = (.ok value, after) := by
  obtain ⟨after, answered, _⟩ :=
    (settles (context.allowsDeriving_extends ∅)).result_ok reached.extends_empty
  exact ⟨after, answered⟩

end TaskSieve
