import TaskSieve.State

/-!
# Invariants of steps

A step keeps an invariant when every state that it can leave behind satisfies
the invariant again.  A step settles on an answer when the answer does not
depend on which of the states with the invariant it starts from.

Remembered timeouts are told with the revision that was asked for, which need
not be the one that timed out, so answers are compared up to that detail.
-/

namespace TaskSieve

/-- Whether a failure is that the predictor was not ready in time. -/
def Failure.isTimeout : Failure → Bool
  | .evidence (.timeout _ _ _) => true
  | _ => false

theorem Failure.exists_timeout_or (failure : Failure) :
    (∃ branch revision elapsed, failure =
      .evidence (.timeout branch revision elapsed)) ∨
      failure.isTimeout = false := by
  cases failure with
  | evidence error =>
      cases error with
      | timeout branch revision elapsed =>
          exact .inl ⟨branch, revision, elapsed, rfl⟩
      | http url status detail => exact .inr rfl
      | decode url detail => exact .inr rfl
  | config error => exact .inr rfl
  | pushLog error => exact .inr rfl
  | strategy error => exact .inr rfl

theorem Failure.exists_of_isTimeout {failure : Failure}
    (late : failure.isTimeout = true) :
    ∃ branch revision elapsed,
      failure = .evidence (.timeout branch revision elapsed) := by
  rcases failure.exists_timeout_or with timeout | hard
  · exact timeout
  · rw [hard] at late
    cases late

/-- Two answers that are equal, or that both tell of a timeout on the same
branch. -/
inductive SameAnswer {α : Type} : Except Failure α → Except Failure α →
    Prop where
  | same (answer : Except Failure α) : SameAnswer answer answer
  | timeouts (branch first second : String) (elapsed other : Nat) :
      SameAnswer (.error (.evidence (.timeout branch first elapsed)))
        (.error (.evidence (.timeout branch second other)))

namespace SameAnswer

variable {α : Type} {left middle right : Except Failure α}

theorem symm (agree : SameAnswer left right) : SameAnswer right left := by
  cases agree with
  | same => exact .same left
  | timeouts branch first second elapsed other =>
      exact .timeouts branch second first other elapsed

theorem trans (first : SameAnswer left middle)
    (second : SameAnswer middle right) : SameAnswer left right := by
  cases first with
  | same => exact second
  | timeouts branch earlier later elapsed other =>
      cases second with
      | same => exact .timeouts branch earlier later elapsed other
      | timeouts _ _ last _ longest =>
          exact .timeouts branch earlier last elapsed longest

theorem eq_of_ok {value : α} (agree : SameAnswer left (.ok value)) :
    left = .ok value := by
  cases agree with
  | same => rfl

theorem exists_error {failure : Failure}
    (agree : SameAnswer left (.error failure)) :
    ∃ other, left = .error other ∧
      SameAnswer (α := α) (.error other) (.error failure) := by
  cases agree with
  | same => exact ⟨failure, rfl, .same _⟩
  | timeouts branch first second elapsed other =>
      exact ⟨_, rfl, .timeouts _ _ _ _ _⟩

theorem isTimeout_eq {failure other : Failure}
    (agree : SameAnswer (α := α) (.error failure) (.error other)) :
    failure.isTimeout = other.isTimeout := by
  cases agree with
  | same => rfl
  | timeouts branch first second elapsed other => rfl

/-- A failure stands for the same answer whatever the type of the missing
value. -/
theorem error_cast {β : Type} {failure other : Failure}
    (agree : SameAnswer (α := α) (.error failure) (.error other)) :
    SameAnswer (α := β) (.error failure) (.error other) := by
  cases agree with
  | same => exact .same _
  | timeouts branch first second elapsed other => exact .timeouts _ _ _ _ _

end SameAnswer

namespace Step

variable {α β : Type}

theorem bind_apply_ok {first : Step α} (next : α → Step β) {state after : State}
    {value : α} (answered : first state = (.ok value, after)) :
    (first >>= next) state = next value after := by
  change andThen first next state = next value after
  simp only [andThen, answered]

theorem bind_apply_error {first : Step α} (next : α → Step β)
    {state after : State} {failure : Failure}
    (answered : first state = (.error failure, after)) :
    (first >>= next) state = (.error failure, after) := by
  change andThen first next state = (.error failure, after)
  simp only [andThen, answered]

theorem bind_apply_congr {first other : Step α} (next : α → Step β)
    {state after : State} (same : first state = other after) :
    (first >>= next) state = (other >>= next) after := by
  change andThen first next state = andThen other next after
  simp only [andThen, same]

/-- A step after which an invariant holds again. -/
def Preserves (invariant : State → Prop) (step : Step α) : Prop :=
  ∀ state, invariant state → invariant (step state).2

namespace Preserves

variable {invariant : State → Prop}

theorem pure (value : α) : Preserves invariant (pure value : Step α) :=
  fun _ holds => holds

theorem bind {first : Step α} {next : α → Step β}
    (kept : Preserves invariant first)
    (keptNext : ∀ value, Preserves invariant (next value)) :
    Preserves invariant (first >>= next) := by
  intro state holds
  have between := kept state holds
  cases answered : first state with
  | mk answer after =>
      rw [answered] at between
      cases answer with
      | ok value =>
          rw [bind_apply_ok next answered]
          exact keptNext value after between
      | error failure =>
          rw [bind_apply_error next answered]
          exact between

end Preserves

/-- A step that gives the same answer in every state with an invariant, and
keeps the invariant unless it fails in a way that ends the run. -/
structure Settles (invariant : State → Prop) (passing : Failure → Prop)
    (step : Step α) (answer : Except Failure α) : Prop where
  agrees : ∀ state, invariant state → SameAnswer (step state).1 answer
  keeps : ∀ state, invariant state →
    (∀ failure, (step state).1 = .error failure → passing failure) →
    invariant (step state).2

namespace Settles

variable {invariant : State → Prop} {passing : Failure → Prop}

theorem pure (value : α) :
    Settles invariant passing (pure value : Step α) (.ok value) :=
  ⟨fun _ _ => .same _, fun _ holds _ => holds⟩

/-- A step settles when each of its results agrees and keeps the invariant. -/
theorem of_results {step : Step α} {answer : Except Failure α}
    (results :
      ∀ state, invariant state → ∃ result after, step state = (result, after) ∧
      SameAnswer result answer ∧
      ((∀ failure, result = .error failure → passing failure) →
        invariant after)) :
    Settles invariant passing step answer := by
  constructor
  · intro state holds
    obtain ⟨result, after, equality, agree, _⟩ := results state holds
    rw [equality]
    exact agree
  · intro state holds passes
    obtain ⟨result, after, equality, _, kept⟩ := results state holds
    rw [equality] at passes ⊢
    exact kept passes

/-- A step that keeps the invariant however it fails preserves it. -/
theorem preserves {step : Step α} {answer : Except Failure α}
    (settled : Settles invariant (fun _ => True) step answer) :
    Preserves invariant step :=
  fun state holds => settled.keeps state holds fun _ _ => trivial

/-- The result of a step that has settled on a value. -/
theorem result_ok {step : Step α} {value : α}
    (settled : Settles invariant passing step (.ok value)) {state : State}
    (holds : invariant state) :
    ∃ after, step state = (.ok value, after) ∧ invariant after := by
  have same := (settled.agrees state holds).eq_of_ok
  have kept := settled.keeps state holds (by simp [same])
  exact ⟨_, Prod.ext same rfl, kept⟩

/-- The result of a step that has settled on a failure. -/
theorem result_error {step : Step α} {failure : Failure}
    (settled : Settles invariant passing step (.error failure)) {state : State}
    (holds : invariant state) :
    ∃ other after, step state = (.error other, after) ∧
      SameAnswer (α := α) (.error other) (.error failure) ∧
      (passing other → invariant after) := by
  obtain ⟨other, failed, agree⟩ := (settled.agrees state holds).exists_error
  refine ⟨other, _, Prod.ext failed rfl, agree, ?_⟩
  intro passes
  apply settled.keeps state holds
  intro reason failedWith
  rw [failed] at failedWith
  cases failedWith
  exact passes

/-- A step that settles at all settles on its answer in any one of the
states. -/
theorem at_state {step : Step α}
    (settled : ∃ answer, Settles invariant passing step answer) {state : State}
    (holds : invariant state) :
    Settles invariant passing step (step state).1 := by
  obtain ⟨answer, settled⟩ := settled
  have here := settled.agrees state holds
  exact ⟨fun other holdsOther =>
    (settled.agrees other holdsOther).trans here.symm, settled.keeps⟩

/-- A step that goes on as another one does from some later state settles as
that one does. -/
theorem of_continues {step : Step α} {next : Step α} {answer : Except Failure α}
    (settledNext : Settles invariant passing next answer)
    (continues : ∀ state, invariant state → ∃ after,
      step state = next after ∧ invariant after) :
    Settles invariant passing step answer := by
  constructor
  · intro state holds
    obtain ⟨after, equality, kept⟩ := continues state holds
    rw [equality]
    exact settledNext.agrees after kept
  · intro state holds
    obtain ⟨after, equality, kept⟩ := continues state holds
    rw [equality]
    exact settledNext.keeps after kept

/-- Once the first step has settled on a value, the whole settles as the next
step does. -/
theorem bind_ok {first : Step α} {next : α → Step β} {value : α}
    {answer : Except Failure β}
    (settled : Settles invariant passing first (.ok value))
    (settledNext : Settles invariant passing (next value) answer) :
    Settles invariant passing (first >>= next) answer := by
  apply settledNext.of_continues
  intro state holds
  obtain ⟨after, answered, kept⟩ := settled.result_ok holds
  exact ⟨after, bind_apply_ok next answered, kept⟩

/-- When the first step fails, so does the whole, and nothing else is done. -/
theorem bind_error {first : Step α} {next : α → Step β} {failure : Failure}
    (settled : Settles invariant passing first (.error failure)) :
    Settles invariant passing (first >>= next) (.error failure) := by
  apply of_results
  intro state holds
  obtain ⟨other, after, failed, agree, kept⟩ := settled.result_error holds
  exact ⟨.error other, after, bind_apply_error next failed, agree.error_cast,
    fun passes => kept (passes other rfl)⟩

/-- Two steps in a row settle when the first does and the second does after
every value. -/
theorem bind_exists {first : Step α} {next : α → Step β}
    (settled : ∃ answer, Settles invariant passing first answer)
    (settledNext :
      ∀ value, ∃ answer, Settles invariant passing (next value) answer) :
    ∃ answer, Settles invariant passing (first >>= next) answer := by
  obtain ⟨answer, settled⟩ := settled
  cases answer with
  | ok value =>
      obtain ⟨last, settledLast⟩ := settledNext value
      exact ⟨last, settled.bind_ok settledLast⟩
  | error failure => exact ⟨.error failure, settled.bind_error⟩

end Settles

end Step

end TaskSieve
