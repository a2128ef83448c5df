import TaskSieve.Outcome
import TaskSieve.Proofs.Strategy.Asking
import TaskSieve.Proofs.Strategy.Preserving

/-!
# Votes that spare the client

A step is local when it neither asks the predictor or the push log nor waits,
and leaves what is remembered as it is.  The votes of strategies without
predictor rules are local, as far as the votes are that are given to them, and
so is the evaluation of tasks by local votes.
-/

namespace TaskSieve

open Step

/-- Events without requests and waits. -/
def Event.isLocal : Event → Bool
  | .fetched _ _ => false
  | .queried _ _ _ => false
  | .slept _ => false
  | .asked _ => true
  | .derived _ => true

/-- Between two states nothing was requested, waited for or remembered. -/
structure State.LeadsLocally (start state : State) : Prop where
  cache : state.cache = start.cache
  history : ∃ added, state.history = added ++ start.history ∧
    ∀ event ∈ added, event.isLocal = true

namespace State.LeadsLocally

variable {start state after : State}

theorem refl (state : State) : state.LeadsLocally state :=
  ⟨rfl, [], rfl, by simp⟩

theorem trans (first : start.LeadsLocally state)
    (second : state.LeadsLocally after) : start.LeadsLocally after := by
  obtain ⟨early, grown, locals⟩ := first.history
  obtain ⟨late, grownMore, moreLocals⟩ := second.history
  refine ⟨second.cache.trans first.cache, late ++ early, ?_, ?_⟩
  · rw [grownMore, grown, List.append_assoc]
  · intro event member
    rcases List.mem_append.mp member with later | before
    · exact moreLocals event later
    · exact locals event before

theorem ignoresDeriving (start : State) :
    IgnoresDeriving start.LeadsLocally where
  noted state key locally :=
    locally.trans ⟨rfl, [.derived key], rfl, by simp [Event.isLocal]⟩
  kept state memo locally := locally.trans ⟨rfl, [], rfl, by simp⟩

end State.LeadsLocally

namespace Step

variable {α β : Type}

/-- A step that leaves the client and its cache alone. -/
def IsLocal (step : Step α) : Prop :=
  ∀ state : State, state.LeadsLocally (step state).2

theorem isLocal_iff {step : Step α} :
    step.IsLocal ↔ ∀ start : State, Preserves start.LeadsLocally step :=
  ⟨fun isLocal _ state reached => reached.trans (isLocal state),
    fun kept state => kept state state (.refl state)⟩

namespace IsLocal

theorem pure (value : α) :
    IsLocal (pure value : Step α) := fun state => .refl state

theorem bind {first : Step α} {next : α → Step β} (isLocal : first.IsLocal)
    (nextLocal : ∀ value, (next value).IsLocal) : (first >>= next).IsLocal :=
  isLocal_iff.mpr fun start =>
    (isLocal_iff.mp isLocal start).bind fun value =>
      isLocal_iff.mp (nextLocal value) start

end IsLocal

end Step

namespace Strategy

/-- A strategy all of whose votes leave the client alone. -/
def SparesClient (strategy : Strategy) : Prop :=
  ∀ question, (strategy.decide question).IsLocal

mutual

/-- A strategy without predictor rules, given votes that are local. -/
def AvoidsClient : Strategy → Prop
  | .predictor _ => False
  | .predictorOr _ _ => False
  | .custom _ vote => ∀ task push context, (vote task push context).IsLocal
  | .any children => AllAvoidClient children
  | .all children => AllAvoidClient children
  | .not child => child.AvoidsClient
  | .backstop | .pushInterval _ | .expanded _ | .debug | .schedules
  | .relevantTests
  | .disperse _ => True

/-- Several strategies of that kind. -/
def AllAvoidClient : List Strategy → Prop
  | [] => True
  | child :: rest => child.AvoidsClient ∧ AllAvoidClient rest

end

mutual

theorem AvoidsClient.sparesClient {strategy : Strategy}
    (avoids : strategy.AvoidsClient) : strategy.SparesClient := by
  intro question
  cases strategy with
  | backstop => exact .pure _
  | pushInterval gate => exact .pure _
  | expanded half => exact .pure _
  | debug => exact .pure _
  | schedules => exact .pure _
  | relevantTests =>
      rw [decide, isLocal_iff]
      intro start
      exact (State.LeadsLocally.ignoresDeriving start).irrelevant _ _
  | disperse targets =>
      rw [decide, isLocal_iff]
      intro start
      exact (State.LeadsLocally.ignoresDeriving start).dispersed _ _ _
  | predictor rule => exact avoids.elim
  | predictorOr rule fallback => exact avoids.elim
  | custom description vote => exact avoids _ _ _
  | any children =>
      have avoidsChildren : AllAvoidClient children := avoids
      exact avoidsChildren.decideAny_isLocal question
  | all children =>
      have avoidsChildren : AllAvoidClient children := avoids
      cases children with
      | nil => exact .pure _
      | cons child rest => exact avoidsChildren.decideAll_isLocal question
  | not child =>
      have avoidsChild : child.AvoidsClient := avoids
      rw [decide]
      exact (avoidsChild.sparesClient question).bind fun _ => .pure _

theorem AllAvoidClient.decideAny_isLocal {children : List Strategy}
    (avoid : AllAvoidClient children) (question : Question) :
    (decideAny question children).IsLocal := by
  cases children with
  | nil => exact .pure _
  | cons child rest =>
      rw [decideAny]
      apply (avoid.1.sparesClient question).bind
      intro removes
      cases removes with
      | true => exact .pure _
      | false => exact avoid.2.decideAny_isLocal question

theorem AllAvoidClient.decideAll_isLocal {children : List Strategy}
    (avoid : AllAvoidClient children) (question : Question) :
    (decideAll question children).IsLocal := by
  cases children with
  | nil => exact .pure _
  | cons child rest =>
      rw [decideAll]
      apply (avoid.1.sparesClient question).bind
      intro removes
      cases removes with
      | true => exact avoid.2.decideAll_isLocal question
      | false => exact .pure _

end

end Strategy

theorem evaluate_isLocal {strategy : Strategy} (spares : strategy.SparesClient)
    (client : Client) (context : Context) (push : Push) (tasks : List Task) :
    (evaluate client context push strategy tasks).IsLocal := by
  induction tasks with
  | nil => exact .pure _
  | cons task rest induction =>
      rw [evaluate]
      apply (spares _).bind
      intro removed
      exact induction.bind fun outcome => .pure _

end TaskSieve
