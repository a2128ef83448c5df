import TaskSieve.Proofs.Evidence.Merging
import TaskSieve.Selector

/-!
# Which confidences count for a task

Each mode of a selector names some sources, which are a table of confidences
and a name to look up in it, and the score of a task is the largest confidence
that the sources have.  So the score lies below a bound exactly if all of them
do.  A task without confidences has the score zero; this is one more number
that has to lie below the bound, and makes no difference unless there are
negative confidences.
-/

namespace TaskSieve

namespace Binary64

theorem larger_eq_raise {held : Binary64} (number : held.isNaN = false)
    (new : Binary64) : held.larger new = Evidence.raise held new := by
  simp [larger, Evidence.raise, number]

theorem foldl_larger_eq_foldl_raise (first : Binary64) (rest : List Binary64)
    (numbers : ∀ value ∈ first :: rest, value.isNaN = false) :
    rest.foldl larger first = rest.foldl Evidence.raise first := by
  induction rest generalizing first with
  | nil => rfl
  | cons next rest induction =>
      have firstNumber := numbers first (by simp)
      have nextNumber := numbers next (by simp)
      have restNumbers : ∀ value ∈ rest, value.isNaN = false :=
        fun value member => numbers value (by simp [member])
      rw [List.foldl_cons, List.foldl_cons, larger_eq_raise firstNumber]
      apply induction
      rcases Evidence.raise_of_numbers firstNumber nextNumber with
        ⟨held, _⟩ | ⟨new, _⟩
      · rw [held]
        simpa [firstNumber] using restNumbers
      · rw [new]
        simpa [nextNumber] using restNumbers

end Binary64

namespace Selector

variable {selector : Selector} {evidence : Evidence} {task : Task}

/-- Where the confidences that count for a task are looked up. -/
def sources (selector : Selector) (task : Task) :
    List ((Evidence → Table String Binary64) × String) :=
  if selector.reducedTasks then [(Evidence.reducedTasks, task.label)]
  else if selector.tasksOnly then [(Evidence.tasks, task.label)]
  else
    task.manifests.map (fun group => (Evidence.groups, group)) ++
      [(Evidence.tasks, task.label)]

/-- The confidences that count for a task. -/
def counted (selector : Selector) (evidence : Evidence) (task : Task) :
    List Binary64 :=
  (selector.sources task).filterMap fun source =>
    (source.1 evidence).find? source.2

theorem sources_table {source : (Evidence → Table String Binary64) × String}
    (member : source ∈ selector.sources task) :
    source.1 ∈ Evidence.confidences := by
  unfold sources at member
  split at member
  · simp_all [Evidence.confidences]
  · split at member
    · simp_all [Evidence.confidences]
    · rcases List.mem_append.mp member with group | own
      · obtain ⟨name, _, rfl⟩ := List.mem_map.mp group
        simp [Evidence.confidences]
      · simp_all [Evidence.confidences]

theorem mem_counted {value : Binary64} :
    value ∈ selector.counted evidence task ↔
      ∃ source ∈ selector.sources task,
        (source.1 evidence).find? source.2 = some value :=
  List.mem_filterMap

theorem every_counted {holds : Binary64 → Prop} (every : evidence.Every holds) :
    ∀ value ∈ selector.counted evidence task, holds value := by
  intro value counts
  obtain ⟨source, isSource, found⟩ := mem_counted.mp counts
  exact every _ (sources_table isSource) value
    (Evidence.mem_values_of_find? found)

theorem largest?_toList (value : Option Binary64) :
    largest? value.toList = value := by
  cases value with
  | none => rfl
  | some value => rfl

theorem score?_eq_largest? (selector : Selector) (evidence : Evidence)
    (task : Task) :
    selector.score? evidence task =
      largest? (selector.counted evidence task) := by
  unfold score? counted sources
  have single (source : (Evidence → Table String Binary64) × String) :
      [source].filterMap (fun source => (source.1 evidence).find? source.2) =
        ((source.1 evidence).find? source.2).toList := by
    cases found : (source.1 evidence).find? source.2 <;> simp [found]
  split
  · rw [single, largest?_toList]
  · split
    · rw [single, largest?_toList]
    · rw [List.filterMap_append, single, List.filterMap_map]
      rfl

theorem removes_iff :
    selector.removes evidence task = true ↔
      task.manifests ≠ [] ∧ evidence.knows task.label = true ∧
        ((selector.score? evidence task).getD .zero).less selector.threshold =
          true := by
  simp only [removes, Bool.and_eq_true, Bool.not_eq_true',
    List.isEmpty_eq_false_iff, and_assoc]

/-- A score lies below the threshold if zero and every confidence that counts
do, provided that they are numbers and that zero does so anyway or none of them
is negative. -/
theorem score_less_iff
    (numbers : ∀ value ∈ selector.counted evidence task, value.isNaN = false)
    (tame : Binary64.zero.less selector.threshold = true ∨
      ∀ value ∈ selector.counted evidence task,
        Binary64.zero.atMost value = true) :
    ((selector.score? evidence task).getD .zero).less selector.threshold =
      true ↔
      Binary64.zero.less selector.threshold = true ∧
        ∀ value ∈ selector.counted evidence task,
          value.less selector.threshold = true := by
  rw [score?_eq_largest?]
  generalize selector.counted evidence task = values at numbers tame ⊢
  cases values with
  | nil => simp [largest?]
  | cons first rest =>
      have largest : Binary64.IsLargest (first :: rest)
          (rest.foldl Binary64.larger first) := by
        rw [Binary64.foldl_larger_eq_foldl_raise first rest numbers]
        exact Evidence.isLargest_foldl_raise first rest numbers
      rw [largest?, Option.getD_some, largest.less_iff]
      constructor
      · intro below
        refine ⟨?_, below⟩
        rcases tame with positive | nonnegative
        · exact positive
        · exact Binary64.less_of_atMost (nonnegative first (by simp))
            (below first (by simp))
      · intro below
        exact below.2

end Selector

end TaskSieve
