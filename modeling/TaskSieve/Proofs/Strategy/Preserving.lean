import TaskSieve.Proofs.Strategy.Settling

/-!
# Invariants that votes keep

A vote gathers evidence, derives values from the context, and does whatever the
votes do that are given to it from outside.  An invariant that each of these
keeps is kept by the vote of every strategy, however it is composed.
-/

namespace TaskSieve

open Step

variable {question : Question} {invariant : State → Prop}

theorem removesUnlikely_preserves {rule : PredictorRule}
    {fallback : Option (Step Bool)} (evidence : Preserves invariant
      (question.client.evidenceFor question.push rule.pushes))
    (fallbackKept :
      ∀ decide, fallback = some decide → Preserves invariant decide) :
    Preserves invariant (removesUnlikely question rule fallback) := by
  cases allowed : allowsProject rule.projects question.push.project with
  | false =>
      rw [removesUnlikely_elsewhere allowed]
      exact Preserves.pure false
  | true =>
      intro state holds
      have kept := evidence state holds
      cases answered :
          question.client.evidenceFor question.push rule.pushes state with
      | mk answer after =>
          rw [answered] at kept
          cases answer with
          | ok evidence =>
              rw [removesUnlikely_ok allowed answered]
              exact kept
          | error failure =>
              rcases failure.exists_timeout_or with
                ⟨branch, revision, elapsed, rfl⟩ | hard
              · rw [removesUnlikely_timeout allowed answered]
                cases fallback with
                | none => exact kept
                | some decide => exact fallbackKept decide rfl after kept
              · rw [removesUnlikely_failed allowed hard answered]
                exact kept

/-- The simple votes on a question that touch the state keep an invariant. -/
structure Question.Keeps (question : Question) (invariant : State → Prop) :
    Prop where
  evidence : ∀ pushes,
    Preserves invariant (question.client.evidenceFor question.push pushes)
  irrelevant :
      Preserves invariant (removesIrrelevant question.context question.task)
  dispersed : ∀ targets,
    Preserves invariant
      (removesDispersed question.context targets question.task)

theorem Question.Keeps.composes (keeps : question.Keeps invariant) :
    question.Composes (Preserves invariant) where
  pure removes := Preserves.pure removes
  bind _ _ kept keptNext := kept.bind keptNext
  irrelevant := keeps.irrelevant
  dispersed := keeps.dispersed
  unlikely rule _ fallbackKept :=
    removesUnlikely_preserves (keeps.evidence rule.pushes) fallbackKept

/-- An invariant that does not depend on what was derived. -/
structure IgnoresDeriving (invariant : State → Prop) : Prop where
  noted : ∀ state key, invariant state → invariant (state.record (.derived key))
  kept : ∀ state memo, invariant state → invariant { state with memo }

namespace IgnoresDeriving

variable (ignores : IgnoresDeriving invariant)

include ignores

theorem derive {α : Type} (key : String) (take : Derived → Option α)
    (wrap : α → Derived) (compute : Unit → α) :
    Preserves invariant (derive key take wrap compute) := by
  intro state holds
  unfold Step.derive
  split
  · exact ignores.kept _ _ (ignores.noted state key holds)
  · split
    · exact holds
    · exact ignores.noted state key holds

theorem irrelevant (context : Context) (task : Task) :
    Preserves invariant (removesIrrelevant context task) := by
  unfold removesIrrelevant
  split
  · exact (ignores.derive _ _ _ _).bind fun _ => Preserves.pure _
  · exact Preserves.pure false

theorem dispersed (context : Context) (targets : Targets) (task : Task) :
    Preserves invariant (removesDispersed context targets task) := by
  unfold removesDispersed
  split
  · exact Preserves.pure false
  · exact (ignores.derive _ _ _ _).bind fun _ => Preserves.pure _

/-- When votes may derive what they like, only gathering evidence matters. -/
theorem keeps (evidence : ∀ pushes,
      Preserves invariant (question.client.evidenceFor question.push pushes)) :
    question.Keeps invariant where
  evidence := evidence
  irrelevant := ignores.irrelevant question.context question.task
  dispersed targets := ignores.dispersed question.context targets question.task

end IgnoresDeriving

end TaskSieve
