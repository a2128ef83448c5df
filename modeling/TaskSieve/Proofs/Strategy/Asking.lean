import TaskSieve.Proofs.Step
import TaskSieve.Strategy.Decision

/-!
# The order in which a composite asks its children

Asking for a removal means going from question to question until one removes
or fails.  A disjunction does just that with its children, and a conjunction
asks them up to the first that keeps or fails.  A child that answers without
touching the state is a gate: the others are asked as if the gate were not
there, or they are not asked at all.
-/

namespace TaskSieve

/-- Asks one question after the other, up to the first that removes or fails.
When none does, the task is kept. -/
def Step.firstRemoval : List (Step Bool) → Step Bool
  | [] => fun state => (.ok false, state)
  | ask :: rest => fun state =>
      match ask state with
      | (.ok true, after) => (.ok true, after)
      | (.ok false, after) => firstRemoval rest after
      | (.error failure, after) => (.error failure, after)

/-- Asks questions one after the other, up to the first that fails or gives a
certain vote. -/
def Step.askUntil (stop : Bool) : List (Step Bool) → Step Bool
  | [] => fun state => (.ok !stop, state)
  | ask :: rest => fun state =>
      match ask state with
      | (.ok vote, after) =>
          if vote = stop then (.ok stop, after) else askUntil stop rest after
      | (.error failure, after) => (.error failure, after)

section Steps

variable {stop : Bool} {ask : Step Bool} (rest : List (Step Bool))
  {state after : State}

theorem Step.askUntil_stops (answered : ask state = (.ok stop, after)) :
    askUntil stop (ask :: rest) state = (.ok stop, after) := by
  simp [askUntil, answered]

theorem Step.askUntil_passes (answered : ask state = (.ok !stop, after)) :
    askUntil stop (ask :: rest) state = askUntil stop rest after := by
  simp [askUntil, answered]

theorem Step.askUntil_fails {failure : Failure}
    (answered : ask state = (.error failure, after)) :
    askUntil stop (ask :: rest) state = (.error failure, after) := by
  simp [askUntil, answered]

theorem Step.firstRemoval_eq_askUntil (asks : List (Step Bool)) :
    firstRemoval asks = askUntil true asks := by
  induction asks with
  | nil => rfl
  | cons ask rest induction =>
      funext state
      cases answered : ask state with
      | mk answer after =>
          rcases answer with failure | removes
          · rw [askUntil_fails rest answered, firstRemoval]
            simp only [answered]
          · cases removes with
            | true =>
                rw [askUntil_stops rest answered, firstRemoval]
                simp only [answered]
            | false =>
                rw [askUntil_passes rest answered, ← induction, firstRemoval]
                simp only [answered]

end Steps

namespace Strategy

-- The equations of decisions are derived here, before the many proofs that
-- unfold them.
attribute [local simp] decide decideAny decideAll

variable {question : Question} {child : Strategy} {rest : List Strategy}

theorem decideAny_cons_apply (state : State) :
    decideAny question (child :: rest) state =
      match child.decide question state with
      | (.ok true, after) => (.ok true, after)
      | (.ok false, after) => decideAny question rest after
      | (.error failure, after) => (.error failure, after) := by
  cases answered : child.decide question state with
  | mk answer after =>
      rcases answer with failure | removes
      · rw [decideAny, Step.bind_apply_error _ answered]
      · rw [decideAny, Step.bind_apply_ok _ answered]
        cases removes with
        | true => rfl
        | false => rfl

theorem decideAll_cons_apply (state : State) :
    decideAll question (child :: rest) state =
      match child.decide question state with
      | (.ok true, after) => decideAll question rest after
      | (.ok false, after) => (.ok false, after)
      | (.error failure, after) => (.error failure, after) := by
  cases answered : child.decide question state with
  | mk answer after =>
      rcases answer with failure | removes
      · rw [decideAll, Step.bind_apply_error _ answered]
      · rw [decideAll, Step.bind_apply_ok _ answered]
        cases removes with
        | true => rfl
        | false => rfl

theorem decideAny_eq_firstRemoval (question : Question)
    (children : List Strategy) :
    decideAny question children =
      Step.firstRemoval (children.map fun child => child.decide question) := by
  funext state
  induction children generalizing state with
  | nil =>
      simp
      rfl
  | cons child rest induction =>
      rw [decideAny_cons_apply]
      cases answered : child.decide question state with
      | mk answer after =>
          rcases answer with failure | removes
          · simp [Step.firstRemoval, answered]
          · cases removes with
            | true => simp [Step.firstRemoval, answered]
            | false => simp [Step.firstRemoval, answered, induction]

theorem decide_any (question : Question) (children : List Strategy) :
    (Strategy.any children).decide question =
      Step.firstRemoval (children.map fun child => child.decide question) := by
  rw [decide, decideAny_eq_firstRemoval]

/-- A child that keeps, whatever the state, may be left out of a disjunction. -/
theorem decideAny_cons_of_keeps (keeps : child.decide question = pure false) :
    decideAny question (child :: rest) = decideAny question rest := by
  funext state
  rw [decideAny_cons_apply, keeps]
  rfl

/-- When all later children keep, the first one decides alone. -/
theorem decideAny_cons_of_rest_keeps
    (keeps : decideAny question rest = pure false) :
    decideAny question (child :: rest) = child.decide question := by
  funext state
  rw [decideAny_cons_apply, keeps]
  cases answered : child.decide question state with
  | mk answer after =>
      rcases answer with failure | removes
      · rfl
      · cases removes with
        | true => rfl
        | false => rfl

/-- A closed gate keeps, and what stands behind it is not asked. -/
theorem decideAll_cons_of_keeps (keeps : child.decide question = pure false) :
    decideAll question (child :: rest) = pure false := by
  funext state
  rw [decideAll, keeps]
  rfl

/-- An open gate leaves the decision to what stands behind it. -/
theorem decideAll_cons_of_removes
    (removes : child.decide question = pure true) :
    decideAll question (child :: rest) = decideAll question rest := by
  funext state
  rw [decideAll, removes]
  rfl

theorem decideAll_singleton :
    decideAll question [child] = child.decide question := by
  funext state
  cases answered : child.decide question state with
  | mk answer after =>
      rcases answer with failure | removes
      · rw [decideAll, Step.bind_apply_error _ answered]
      · rw [decideAll, Step.bind_apply_ok _ answered]
        cases removes with
        | true => rfl
        | false => rfl

theorem decideAny_eq_askUntil (question : Question) (children : List Strategy) :
    decideAny question children =
      Step.askUntil true (children.map fun child => child.decide question) := by
  rw [decideAny_eq_firstRemoval, Step.firstRemoval_eq_askUntil]

theorem decideAll_eq_askUntil (question : Question) (children : List Strategy) :
    decideAll question children =
      Step.askUntil false
        (children.map fun child => child.decide question) := by
  induction children with
  | nil =>
      rw [decideAll]
      rfl
  | cons child rest induction =>
      funext state
      rw [decideAll_cons_apply, List.map_cons]
      cases answered : child.decide question state with
      | mk answer after =>
          rcases answer with failure | removes
          · rw [Step.askUntil_fails _ answered]
          · cases removes with
            | true => rw [Step.askUntil_passes _ answered, ← induction]
            | false => rw [Step.askUntil_stops _ answered]

theorem decide_all_cons :
    (Strategy.all (child :: rest)).decide question =
      decideAll question (child :: rest) := by
  rw [decide]

theorem decide_not_apply (question : Question) (child : Strategy)
    (state : State) :
    (Strategy.not child).decide question state =
      ((child.decide question state).1.map (! ·),
        (child.decide question state).2) := by
  cases answered : child.decide question state with
  | mk answer after =>
      cases answer with
      | error failure =>
          rw [decide, Step.bind_apply_error _ answered, Except.map]
      | ok removes =>
          rw [decide, Step.bind_apply_ok _ answered, Except.map]
          rfl

theorem decide_not_of_answer {removes : Bool}
    (answers : child.decide question = pure removes) :
    (Strategy.not child).decide question = pure !removes := by
  funext state
  rw [decide, answers]
  rfl

end Strategy

end TaskSieve
