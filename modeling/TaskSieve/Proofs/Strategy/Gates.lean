import Mathlib.RingTheory.Coprime.Lemmas
import Mathlib.Tactic.LinearCombination
import TaskSieve.Proofs.Policy.Autoland

/-!
# How the gates of a backstop interval are nested

Three gates look at the push alone: one for backstop pushes, one for pushes on
the backstop interval, and one for expanded pushes, which are backstop pushes
or lie on half the interval.  Half of an odd interval is rounded down and has
no factor in common with it, so the gate for expanded pushes lets the pushes on
the interval through when the interval is even or three, and otherwise only
those of them that lie on the product as well.
-/

namespace TaskSieve

/-- A strategy lets a push through when it keeps every task of it, without doing
anything. -/
def Strategy.LetsThrough (strategy : Strategy) (push : Push) : Prop :=
  ∀ question state, question.push = push →
    strategy.decide question state = (.ok false, state)

namespace Strategy

variable {push : Push} {strategy : Strategy}

/-- A strategy that looks at the push alone. -/
theorem letsThrough_iff (removes : Push → Bool)
    (gate :
      ∀ question, strategy.decide question = pure (removes question.push)) :
    strategy.LetsThrough push ↔ removes push = false := by
  constructor
  · intro through
    let question : Question := {
      client :=
        Policies.downClient, context := {}, push, task := Task.test "task" }
    have kept := through question {} rfl
    rw [gate] at kept
    exact Except.ok.inj (congrArg Prod.fst kept)
  · rintro keeps question state rfl
    rw [gate, keeps]
    rfl

theorem backstop_letsThrough_iff : backstop.LetsThrough push ↔
      push.backstop = true := by
  rw [letsThrough_iff
    (fun push => !push.backstop) fun question => by rw [decide],
    Bool.not_eq_false']

/-- A gate in all projects removes the tasks of pushes off its interval. -/
theorem removes_eq_false_iff {gate : PushInterval}
    (everywhere : gate.projects = none) :
    gate.removes push = false ↔ gate.interval ∣ push.id := by
  have allowed : allowsProject gate.projects push.project = true := by
    rw [everywhere, allowsProject]
  rw [PushInterval.removes, allowed, Bool.true_and, Bool.not_eq_false',
    PushInterval.isDue, decide_eq_true_iff]
  exact Int.dvd_iff_emod_eq_zero.symm

theorem pushInterval_letsThrough_iff {gate : PushInterval}
    (everywhere : gate.projects = none) :
    (pushInterval gate).LetsThrough push ↔ gate.interval ∣ push.id := by
  rw [letsThrough_iff gate.removes fun question => by rw [decide],
    removes_eq_false_iff everywhere]

theorem expanded_letsThrough_iff {half : PushInterval}
    (everywhere : half.projects = none) :
    (expanded half).LetsThrough push ↔ push.backstop = true ∨
    half.interval ∣ push.id := by
  rw [letsThrough_iff (fun push => !push.backstop && half.removes push)
    fun question => by rw [decide], Bool.and_eq_false_iff, Bool.not_eq_false',
    removes_eq_false_iff everywhere]

end Strategy

namespace PushInterval

variable {interval id : Int}

theorem isCoprime_half (odd : ¬ 2 ∣ interval) :
    IsCoprime (interval / 2) interval := by
  have split : interval = 2 * (interval / 2) + 1 := by omega
  exact ⟨-2, 1, by linear_combination split⟩

/-- Of the numbers on an odd interval those are on half of it that are on the
product. -/
theorem half_dvd_iff_of_odd (odd : ¬ 2 ∣ interval) (due : interval ∣ id) :
    interval / 2 ∣ id ↔ interval * (interval / 2) ∣ id := by
  constructor
  · intro onHalf
    exact (isCoprime_half odd).symm.mul_dvd due onHalf
  · intro onProduct
    exact (dvd_mul_left _ _).trans onProduct

theorem half_dvd_of_due (due : interval ∣ id) :
    interval / 2 ∣ id ↔ 2 ∣ interval ∨ interval = 3 ∨
    interval * (interval / 2) ∣ id := by
  by_cases even : 2 ∣ interval
  · have onHalf : interval / 2 ∣ id := (Int.ediv_dvd_of_dvd even).trans due
    simp only [even, onHalf, true_or]
  · rw [half_dvd_iff_of_odd even due]
    constructor
    · exact fun onProduct => .inr (.inr onProduct)
    · rintro (even' | rfl | onProduct)
      · exact (even even').elim
      · simpa using due
      · exact onProduct

/-- Every number on an interval is on half of it exactly when the interval
itself is. -/
theorem half_dvd_self_iff (accepted : 2 ≤ interval) :
    interval / 2 ∣ interval ↔ 2 ∣ interval ∨ interval = 3 := by
  rw [half_dvd_of_due (dvd_refl interval)]
  constructor
  · rintro (even | three | onProduct)
    · exact .inl even
    · exact .inr three
    · -- The product can divide the interval only if the half is one.
      have bound : interval * (interval / 2) ≤ interval * 1 := by
        rw [mul_one]
        exact Int.le_of_dvd (by omega) onProduct
      have small : interval / 2 ≤ 1 := le_of_mul_le_mul_left bound (by omega)
      omega
  · rintro (even | three)
    · exact .inl even
    · exact .inr (.inl three)

end PushInterval

/-- A push of a repository that is no backstop push. -/
def Push.numbered (id : Int) : Push where
  branch := "autoland"
  repository := "repo"
  revision := "abc"
  project := "autoland"
  id := id

namespace Strategy

/-- The gates of an accepted interval can be made.  Every backstop push is
expanded.  A push on the interval is expanded if it is a backstop push, if the
interval is even or three, or if it lies on the product of the interval and its
rounded half, and not otherwise.  So all pushes on the interval are expanded
exactly when the interval is even or three. -/
theorem gates_nested (settings : BackstopSettings)
    (accepted : settings.check = .ok ()) :
    let interval := settings.pushInterval
    ∃ full half, PushInterval.make interval = .ok full ∧
      PushInterval.half interval = .ok half ∧
      (∀ push, backstop.LetsThrough push → (expanded half).LetsThrough push) ∧
      (∀ push, (pushInterval full).LetsThrough push →
        ((expanded half).LetsThrough push ↔
          push.backstop = true ∨ 2 ∣ interval ∨ interval = 3 ∨
            interval * (interval / 2) ∣ push.id)) ∧
      ((∀ push, backstop.LetsThrough push ∨
        (pushInterval full).LetsThrough push →
          (expanded half).LetsThrough push) ↔
        2 ∣ interval ∨ interval = 3) := by
  intro interval
  have atLeastTwo : 2 ≤ interval :=
    settings.two_le_pushInterval_of_check accepted
  have positive : 0 < interval := by omega
  have positiveHalf : 0 < interval / 2 := by omega
  refine ⟨⟨interval, none, positive⟩, ⟨interval / 2, none, positiveHalf⟩,
    Registry.make_ok positive, Registry.half_ok positiveHalf, ?_, ?_, ?_⟩
  · intro push through
    rw [expanded_letsThrough_iff rfl]
    exact .inl (backstop_letsThrough_iff.mp through)
  · intro push through
    rw [pushInterval_letsThrough_iff rfl] at through
    rw [expanded_letsThrough_iff rfl, PushInterval.half_dvd_of_due through]
  · constructor
    · intro nested
      have due : interval ∣ (Push.numbered interval).id := dvd_refl interval
      have through := nested (.numbered interval)
        (.inr ((pushInterval_letsThrough_iff rfl).mpr due))
      rcases (expanded_letsThrough_iff rfl).mp through with isBackstop | onHalf
      · cases isBackstop
      · exact (PushInterval.half_dvd_self_iff atLeastTwo).mp onHalf
    · intro even push through
      rw [backstop_letsThrough_iff, pushInterval_letsThrough_iff rfl] at through
      rw [expanded_letsThrough_iff rfl]
      have halves : interval / 2 ∣ interval :=
        (PushInterval.half_dvd_self_iff atLeastTwo).mpr even
      exact through.imp_right halves.trans

/-- With the interval five the push -10 is expanded, and the push 5 is not. -/
theorem gates_nested_of_five :
    ({ pushInterval := 5 } : BackstopSettings).check = .ok () ∧
      ∃ full half, PushInterval.make 5 = .ok full ∧
        PushInterval.half 5 = .ok half ∧
        (expanded half).LetsThrough (.numbered (-10)) ∧
        ¬ (expanded half).LetsThrough (.numbered 5) := by
  have accepted : ({ pushInterval := 5 } : BackstopSettings).check = .ok () :=
    rfl
  obtain ⟨full, half, made, halved, _, expands, _⟩ := gates_nested _ accepted
  have onInterval : ∀ id, 5 ∣ id →
      (pushInterval full).LetsThrough (.numbered id) := by
    intro id due
    cases made
    exact (pushInterval_letsThrough_iff rfl).mpr due
  refine ⟨accepted, full, half, made, halved, ?_, ?_⟩
  · rw [expands _ (onInterval _ (by decide))]
    decide
  · rw [expands _ (onInterval _ (by decide))]
    decide

/-- The interval five is accepted, and the gate for it lets the push 5 through,
but the gate for expanded pushes removes every task of that push. -/
theorem expanded_removes_on_interval_five :
    ({ pushInterval := 5 } : BackstopSettings).check = .ok () ∧
      ∃ full half, PushInterval.make 5 = .ok full ∧
        PushInterval.half 5 = .ok half ∧
        (pushInterval full).LetsThrough (.numbered 5) ∧
        ∀ question state, question.push = .numbered 5 →
          (expanded half).decide question state = (.ok true, state) := by
  refine ⟨rfl, ⟨5, none, by decide⟩, ⟨2, none, by decide⟩, rfl, rfl, ?_, ?_⟩
  · exact (pushInterval_letsThrough_iff rfl).mpr (by decide)
  · intro question state same
    rw [decide, same]
    rfl

end Strategy

end TaskSieve
