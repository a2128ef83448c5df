import TaskSieve.Proofs.Evidence.Bounds
import TaskSieve.Proofs.Selector.Scoring

/-!
# In which direction the selector decides

A higher threshold removes more.  More confidence, in more names and in fewer
known tasks, removes less, and so does counting the confidences of groups as
well.  The last two hold as long as no confidence is negative: a task without
any counts as having the confidence zero, and a negative one would be worth
less than none.

The test groups of a task count as a set.  This holds of all evidence, also of
values that are not numbers, which the largest of several confidences passes
over as long as there is a number among them.
-/

namespace TaskSieve

namespace Binary64

variable {value held new bound : Binary64}

/-- Whether a value lies below a bound unless it is not a number. -/
def Passes (bound value : Binary64) : Prop :=
  value.isNaN = false → value.less bound = true

theorem less_iff_passes : value.less bound = true ↔
      value.isNaN = false ∧ Passes bound value := by
  constructor
  · intro below
    have number : value.isNaN = false := by
      simp only [less, Bool.and_eq_true, Bool.not_eq_true'] at below
      exact below.1.1
    exact ⟨number, fun _ => below⟩
  · rintro ⟨number, passes⟩
    exact passes number

theorem larger_of_isNaN (missing : held.isNaN = true) :
    held.larger new = new := by
  simp [larger, missing]

theorem larger_of_new_isNaN (number : held.isNaN = false)
    (missing : new.isNaN = true) : held.larger new = held := by
  simp [larger, less, number, missing]

/-- The larger of two values is not a number only if neither of them is. -/
theorem isNaN_larger : (held.larger new).isNaN = (held.isNaN && new.isNaN) := by
  cases number : held.isNaN with
  | true => rw [larger_of_isNaN number, Bool.true_and]
  | false =>
      cases newNumber : new.isNaN with
      | true =>
          rw [larger_of_new_isNaN number newNumber, number, Bool.false_and]
      | false =>
          rw [larger_eq_raise number]
          rcases Evidence.raise_of_numbers number newNumber with
            ⟨stays, _⟩ | ⟨gives, _⟩
          · rw [stays, number, Bool.false_and]
          · rw [gives, newNumber, Bool.false_and]

theorem passes_larger :
    Passes bound (held.larger new) ↔ Passes bound held ∧ Passes bound new := by
  cases number : held.isNaN with
  | true =>
      rw [larger_of_isNaN number]
      simp [Passes, number]
  | false =>
      cases newNumber : new.isNaN with
      | true =>
          rw [larger_of_new_isNaN number newNumber]
          simp [Passes, newNumber]
      | false =>
          rw [larger_eq_raise number]
          rcases Evidence.raise_of_numbers number newNumber with
            ⟨stays, smaller⟩ | ⟨gives, smaller⟩
          · rw [stays, iff_self_and]
            exact fun passes _ => less_of_atMost smaller (passes number)
          · rw [gives, iff_and_self]
            exact fun passes _ => less_of_atMost smaller (passes newNumber)

theorem isNaN_foldl_larger (first : Binary64) (rest : List Binary64) :
    (rest.foldl larger first).isNaN = (first :: rest).all isNaN := by
  induction rest generalizing first with
  | nil => simp
  | cons next rest induction =>
      rw [List.foldl_cons, induction]
      simp only [List.all_cons, isNaN_larger, Bool.and_assoc]

theorem passes_foldl_larger (first : Binary64) (rest : List Binary64) :
    Passes bound (rest.foldl larger first) ↔
      ∀ value ∈ first :: rest, Passes bound value := by
  induction rest generalizing first with
  | nil => simp
  | cons next rest induction =>
      rw [List.foldl_cons, induction]
      simp only [List.forall_mem_cons, passes_larger, and_assoc]

end Binary64

namespace Selector

variable {selector : Selector} {evidence richer : Evidence} {task : Task}

theorem largest_less_iff {values : List Binary64} {bound : Binary64}
    (nonempty : values ≠ []) :
    ((largest? values).getD .zero).less bound = true ↔
      (∃ value ∈ values, value.isNaN = false) ∧ ∀ value ∈ values,
        Binary64.Passes bound value := by
  cases values with
  | nil => exact (nonempty rfl).elim
  | cons first rest =>
      rw [largest?, Option.getD_some, Binary64.less_iff_passes,
        Binary64.isNaN_foldl_larger, Binary64.passes_foldl_larger,
        List.all_eq_false]
      simp only [Bool.not_eq_true]

/-- Whether the largest of some values lies below a bound depends on the set of
the values. -/
theorem largest_less_congr {values others : List Binary64} (bound : Binary64)
    (same : ∀ value, value ∈ values ↔ value ∈ others) :
    ((largest? values).getD .zero).less bound =
      ((largest? others).getD .zero).less bound := by
  by_cases empty : values = []
  · have otherEmpty : others = [] := by
      apply List.eq_nil_iff_forall_not_mem.mpr
      intro value member
      rw [← same, empty] at member
      cases member
    rw [empty, otherEmpty]
  · have otherNonempty : others ≠ [] := by
      obtain ⟨value, member⟩ := List.exists_mem_of_ne_nil values empty
      exact List.ne_nil_of_mem ((same value).mp member)
    rw [Bool.eq_iff_iff, largest_less_iff empty, largest_less_iff otherNonempty]
    simp only [same]

theorem mem_sources_congr {other : Task} (sameLabel : other.label = task.label)
    (sameGroups : ∀ group, group ∈ other.manifests ↔ group ∈ task.manifests)
    (source : (Evidence → Table String Binary64) × String) :
    source ∈ selector.sources other ↔ source ∈ selector.sources task := by
  unfold sources
  split
  · rw [sameLabel]
  · split
    · rw [sameLabel]
    · simp only [List.mem_append, List.mem_map, sameGroups, sameLabel]

/-- The test groups of a task count as a set. -/
theorem removes_congr {other : Task} (sameLabel : other.label = task.label)
    (sameGroups : ∀ group, group ∈ other.manifests ↔ group ∈ task.manifests) :
    selector.removes evidence other = selector.removes evidence task := by
  have sameCounted : ∀ value, value ∈ selector.counted evidence other ↔
      value ∈ selector.counted evidence task := by
    intro value
    simp only [mem_counted, mem_sources_congr sameLabel sameGroups]
  have sameEmpty : other.manifests.isEmpty = task.manifests.isEmpty := by
    rw [Bool.eq_iff_iff, List.isEmpty_iff, List.isEmpty_iff,
      List.eq_nil_iff_forall_not_mem, List.eq_nil_iff_forall_not_mem]
    simp only [sameGroups]
  rw [removes, removes, score?_eq_largest?, score?_eq_largest?, sameLabel,
    sameEmpty, largest_less_congr selector.threshold sameCounted]

theorem removes_of_lower {lower higher : Selector}
    (sameTasks : lower.tasksOnly = higher.tasksOnly)
    (sameReduced : lower.reducedTasks = higher.reducedTasks)
    (raised : lower.threshold.atMost higher.threshold = true)
    (removed : lower.removes evidence task = true) :
    higher.removes evidence task = true := by
  have sameScore :
      lower.score? evidence task = higher.score? evidence task := by
    rw [score?, score?, sameTasks, sameReduced]
  rw [removes_iff] at removed ⊢
  obtain ⟨listed, known, below⟩ := removed
  rw [← sameScore]
  exact ⟨listed, known, Binary64.less_of_less_of_atMost below raised⟩

/-- Without negative confidences a task is removed when zero and every
confidence that counts lie below the threshold. -/
theorem removes_iff_of_nonnegative (nonnegative : evidence.IsNonnegative) :
    selector.removes evidence task = true ↔
      task.manifests ≠ [] ∧ evidence.knows task.label = true ∧
        Binary64.zero.less selector.threshold = true ∧
        ∀ value ∈ selector.counted evidence task,
          value.less selector.threshold = true := by
  have counted : ∀ value ∈ selector.counted evidence task,
      Binary64.zero.atMost value = true :=
    every_counted nonnegative
  rw [removes_iff, score_less_iff _ (.inr counted)]
  exact fun value member => Binary64.isNaN_of_atMost (counted value member)

/-- More confidence and fewer known tasks never remove more. -/
theorem removes_of_richer (nonnegative : richer.IsNonnegative)
    (confident : evidence.ConfidentAtMost richer)
    (known : ∀ label, richer.knows label = true → evidence.knows label = true)
    (removed : selector.removes richer task = true) :
    selector.removes evidence task = true := by
  rw [removes_iff_of_nonnegative nonnegative] at removed
  obtain ⟨listed, knows, positive, below⟩ := removed
  have exceeded : ∀ value ∈ selector.counted evidence task,
      ∃ larger ∈ selector.counted richer task, value.atMost larger = true := by
    intro value counts
    obtain ⟨source, isSource, found⟩ := mem_counted.mp counts
    obtain ⟨larger, foundLarger, smaller⟩ :=
      confident source.1 (sources_table isSource) source.2 value found
    exact ⟨larger, mem_counted.mpr ⟨source, isSource, foundLarger⟩, smaller⟩
  have numbers : ∀ value ∈ selector.counted evidence task,
      value.isNaN = false := by
    intro value counts
    obtain ⟨larger, _, smaller⟩ := exceeded value counts
    simp only [Binary64.atMost, Bool.and_eq_true, Bool.not_eq_true'] at smaller
    exact smaller.1.1
  rw [removes_iff, score_less_iff numbers (.inl positive)]
  refine ⟨listed, known task.label knows, positive, ?_⟩
  intro value counts
  obtain ⟨larger, largerCounts, smaller⟩ := exceeded value counts
  exact Binary64.less_of_atMost smaller (below larger largerCounts)

/-- Leaving out the confidences of groups removes more. -/
theorem removes_tasksOnly (nonnegative : evidence.IsNonnegative)
    (removed : { selector with
      tasksOnly := false }.removes evidence task = true) :
    { selector with tasksOnly := true }.removes evidence task = true := by
  rw [removes_iff_of_nonnegative nonnegative] at removed ⊢
  obtain ⟨listed, knows, positive, below⟩ := removed
  refine ⟨listed, knows, positive, ?_⟩
  intro value counts
  apply below
  obtain ⟨source, isSource, found⟩ := mem_counted.mp counts
  refine mem_counted.mpr ⟨source, ?_, found⟩
  unfold sources at isSource ⊢
  split
  · simp_all
  · simp_all

/-- A task that is removed stays so under a higher threshold.  A task that is
kept, where no confidence is negative, stays so when confidences are raised or
added and when tasks become unknown.  Order and repetition of test groups do not
matter, and a task that is removed by all its confidences is also removed by its
own alone. -/
theorem removes_monotone (task : Task) :
    (∀ (lower higher : Selector) (evidence : Evidence),
      lower.tasksOnly = higher.tasksOnly →
      lower.reducedTasks = higher.reducedTasks →
      lower.threshold.atMost higher.threshold = true →
      lower.removes evidence task = true →
      higher.removes evidence task = true) ∧
    (∀ (selector : Selector) (evidence richer : Evidence),
      richer.IsNonnegative →
      evidence.ConfidentAtMost richer →
      (∀ label, richer.knows label = true → evidence.knows label = true) →
      selector.removes evidence task = false →
      selector.removes richer task = false) ∧
    (∀ (selector : Selector) (evidence : Evidence) (other : Task), other.label =
      task.label →
      (∀ group, group ∈ other.manifests ↔ group ∈ task.manifests) →
      selector.removes evidence other = selector.removes evidence task) ∧
    ∀ (selector : Selector) (evidence : Evidence), evidence.IsNonnegative →
      { selector with tasksOnly := false }.removes evidence task = true →
      { selector with tasksOnly := true }.removes evidence task = true := by
  refine ⟨?_, ?_, ?_, ?_⟩
  · intro lower higher evidence sameTasks sameReduced raised removed
    exact removes_of_lower sameTasks sameReduced raised removed
  · intro selector evidence richer nonnegative confident known kept
    rw [Bool.eq_false_iff] at kept ⊢
    intro removed
    exact kept (removes_of_richer nonnegative confident known removed)
  · intro selector evidence other sameLabel sameGroups
    exact removes_congr sameLabel sameGroups
  · intro selector evidence nonnegative removed
    exact removes_tasksOnly nonnegative removed

/-- The task has a confidence of a quarter at first.  Then this is raised to a
half, the other group gets the confidence zero, and another task becomes
unknown. -/
theorem removes_monotone_of_raised_confidence :
    let quarter : Binary64 := ⟨false, 1021 * Binary64.fractions⟩
    let half : Binary64 := ⟨false, 1022 * Binary64.fractions⟩
    let low : Selector := { threshold := quarter, isFraction := by decide }
    let middle : Selector := { threshold := half, isFraction := by decide }
    let high : Selector := { threshold := .one, isFraction := by decide }
    let task : Task := {
      label := "task", attributes := { manifests := some ["group", "other"] } }
    let shuffled : Task :=
      { label := "task",
        attributes := { manifests := some ["other", "group", "other"] } }
    let evidence : Evidence :=
      { groups := Table.ofList [("group", quarter)],
        known := Names.ofList ["task", "spare"] }
    let richer : Evidence :=
      { groups := Table.ofList [("group", half), ("other", .zero)],
        known := Names.ofList ["task"] }
    middle.removes evidence task = true ∧ high.removes evidence task = true ∧
      low.removes evidence task = false ∧ low.removes richer task = false ∧
      middle.removes evidence shuffled = middle.removes evidence task ∧
      { middle with tasksOnly := true }.removes evidence task = true := by
  intro quarter half low middle high task shuffled evidence richer
  obtain ⟨raise, enrich, reorder, narrow⟩ := removes_monotone task
  have removed : middle.removes evidence task = true := by decide
  have kept : low.removes evidence task = false := by decide
  have confident : evidence.ConfidentAtMost richer := by
    intro table member name value found
    have listed := Table.mem_toList_of_find? found
    simp only [Evidence.confidences, List.mem_cons, List.not_mem_nil, or_false]
        at member
    rcases member with rfl | rfl | rfl
    · cases listed
    · obtain ⟨rfl, rfl⟩ := Prod.mk.inj (List.mem_singleton.mp listed)
      exact ⟨half, by decide, by decide⟩
    · cases listed
  have known : ∀ label, richer.knows label = true →
      evidence.knows label = true := by
    intro label
    simp only [Evidence.knows, richer, evidence, Names.contains_ofList,
      List.contains_iff_mem, List.mem_singleton]
    rintro rfl
    exact List.mem_cons_self
  refine ⟨removed, ?_, kept, ?_, ?_, ?_⟩
  · exact raise middle high evidence rfl rfl (by decide) removed
  · exact enrich low evidence richer (by decide) confident known kept
  · exact reorder middle evidence shuffled rfl
      (by simp [shuffled, task, Task.manifests, or_comm])
  · exact narrow middle evidence (by decide) removed

end Selector

end TaskSieve
