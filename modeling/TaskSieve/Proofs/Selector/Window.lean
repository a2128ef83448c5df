import TaskSieve.Proofs.Selector.Scoring

/-!
# Selection over several pushes

Merging takes the largest confidence for each name and selecting takes the
largest one of the names that count for a task, so that the order of the two
does not matter: the score of a task in merged evidence lies below the
threshold exactly if its score in the evidence of each push does.  A task is
then removed if every push would remove it and one of them knows it, and a
further push can only keep more of the known tasks.
-/

namespace TaskSieve

namespace Evidence

variable {results : List Evidence} {table : Evidence → Table String Binary64}
  {name : String} {bound : Binary64}

/-- The confidence of a name in merged evidence lies below a bound if it does so
in each of the results that carry the name. -/
theorem less_merged_iff (numbers : ∀ result ∈ results, result.HasNumbers)
    (member : table ∈ confidences) :
    (∀ value, (table (merged results)).find? name = some value →
      value.less bound = true) ↔
      ∀ result ∈ results, ∀ value, (table result).find? name = some value →
        value.less bound = true := by
  cases merging : (table (merged results)).find? name with
  | none =>
      have absent :=
        ((merged_summarizes results).absent table member name).mp merging
      constructor
      · intro _ result inResults value found
        rw [absent result inResults] at found
        cases found
      · intro _ value found
        cases found
  | some largest =>
      have isLargest := isLargest_of_find?_merged numbers member merging
      constructor
      · intro below result inResults value found
        exact (isLargest.less_iff.mp (below largest rfl)) value
          (mem_carried.mpr ⟨result, inResults, found⟩)
      · intro below value found
        rw [← Option.some.inj found, isLargest.less_iff]
        intro other carries
        obtain ⟨result, inResults, otherFound⟩ := mem_carried.mp carries
        exact below result inResults other otherFound

end Evidence

namespace Selector

variable {selector : Selector} {task : Task} {results : List Evidence}
  {evidence : Evidence} {bound : Binary64}

theorem counted_less_merged_iff
    (numbers : ∀ result ∈ results, result.HasNumbers) :
    (∀ value ∈ selector.counted (Evidence.merged results) task,
      value.less bound = true) ↔
      ∀ result ∈ results, ∀ value ∈ selector.counted result task,
        value.less bound = true := by
  constructor
  · intro below result inResults value counts
    obtain ⟨source, isSource, found⟩ := mem_counted.mp counts
    apply (Evidence.less_merged_iff numbers (sources_table isSource)).mp
      _ result inResults _ found
    intro other otherFound
    exact below other (mem_counted.mpr ⟨source, isSource, otherFound⟩)
  · intro below value counts
    obtain ⟨source, isSource, found⟩ := mem_counted.mp counts
    apply (Evidence.less_merged_iff numbers (sources_table isSource)).mpr
      _ _ found
    intro result inResults other otherFound
    exact below result inResults other
      (mem_counted.mpr ⟨source, isSource, otherFound⟩)

theorem every_counted_merged {holds : Binary64 → Prop}
    (numbers : ∀ result ∈ results, result.HasNumbers)
    (every : ∀ result ∈ results, result.Every holds) :
    ∀ value ∈ selector.counted (Evidence.merged results) task, holds value := by
  intro value counts
  obtain ⟨source, isSource, found⟩ := mem_counted.mp counts
  obtain ⟨result, inResults, carried⟩ :=
    Evidence.exists_of_find?_merged numbers (sources_table isSource) found
  exact every_counted (every result inResults) value
    (mem_counted.mpr ⟨source, isSource, carried⟩)

/-- The score in merged evidence lies below the threshold if the score in each
result does. -/
theorem score_less_merged_iff (nonempty : results ≠ [])
    (numbers : ∀ result ∈ results, result.HasNumbers)
    (tame : Binary64.zero.less selector.threshold = true ∨
      ∀ result ∈ results, result.IsNonnegative) :
    ((selector.score? (Evidence.merged results) task).getD .zero).less
      selector.threshold =
        true ↔
      ∀ result ∈ results,
        ((selector.score? result task).getD .zero).less selector.threshold =
          true := by
  have each (result : Evidence) (inResults : result ∈ results) :
      ((selector.score? result task).getD .zero).less selector.threshold =
        true ↔
        Binary64.zero.less selector.threshold = true ∧
          ∀ value ∈ selector.counted result task,
            value.less selector.threshold = true := by
    apply score_less_iff (every_counted (numbers result inResults))
    exact tame.imp_right fun nonnegative =>
      every_counted (nonnegative result inResults)
  have mergedNumbers :
      ∀ value ∈ selector.counted (Evidence.merged results) task,
      value.isNaN = false := every_counted_merged numbers numbers
  have mergedTame : Binary64.zero.less selector.threshold = true ∨
      ∀ value ∈ selector.counted (Evidence.merged results) task,
        Binary64.zero.atMost value = true :=
    tame.imp_right (every_counted_merged numbers)
  rw [score_less_iff mergedNumbers mergedTame, counted_less_merged_iff numbers]
  constructor
  · rintro ⟨positive, below⟩ result inResults
    exact (each result inResults).mpr ⟨positive, below result inResults⟩
  · intro below
    obtain ⟨first, isFirst⟩ := List.exists_mem_of_ne_nil _ nonempty
    refine ⟨((each first isFirst).mp (below first isFirst)).1, ?_⟩
    intro result inResults
    exact ((each result inResults).mp (below result inResults)).2

theorem removes_merged_iff (numbers : ∀ result ∈ results, result.HasNumbers)
    (tame : Binary64.zero.less selector.threshold = true ∨
      ∀ result ∈ results, result.IsNonnegative) :
    selector.removes (Evidence.merged results) task = true ↔
      task.manifests ≠ [] ∧
      (∃ result ∈ results, result.knows task.label = true) ∧
        ∀ result ∈ results,
          ((selector.score? result task).getD .zero).less selector.threshold =
            true := by
  rw [removes_iff, Evidence.knows_merged, List.any_eq_true]
  apply and_congr_right
  intro _
  apply and_congr_right
  rintro ⟨result, inResults, _⟩
  exact score_less_merged_iff (List.ne_nil_of_mem inResults) numbers tame

/-- With a positive threshold, or without negative confidences, the evidence of
several pushes together removes a task exactly if it has test groups, one of the
pushes knows it, and its score lies below the threshold for every push.  So a
known task that is kept stays kept when further pushes are looked at. -/
theorem removes_over_window (selector : Selector) (task : Task) :
    (∀ results : List Evidence, (∀ result ∈ results, result.HasNumbers) →
      (Binary64.zero.less selector.threshold = true ∨
        ∀ result ∈ results, result.IsNonnegative) →
      (selector.removes (Evidence.merged results) task = true ↔
        task.manifests ≠ [] ∧
        (∃ result ∈ results, result.knows task.label = true) ∧
          ∀ result ∈ results,
            ((selector.score? result task).getD .zero).less selector.threshold =
              true)) ∧
    ∀ results wider : List Evidence, results ⊆ wider →
      (∀ result ∈ wider, result.HasNumbers) →
      (Binary64.zero.less selector.threshold = true ∨
        ∀ result ∈ wider, result.IsNonnegative) →
      (Evidence.merged results).knows task.label = true →
      selector.removes (Evidence.merged results) task = false →
      selector.removes (Evidence.merged wider) task = false := by
  constructor
  · intro results numbers tame
    exact removes_merged_iff numbers tame
  · intro results wider within numbers tame known kept
    have fewerNumbers : ∀ result ∈ results, result.HasNumbers :=
      fun result member => numbers result (within member)
    have fewerTame : Binary64.zero.less selector.threshold = true ∨
        ∀ result ∈ results, result.IsNonnegative :=
      tame.imp_right fun nonnegative result member =>
        nonnegative result (within member)
    rw [Bool.eq_false_iff] at kept ⊢
    intro removed
    obtain ⟨listed, _, below⟩ := (removes_merged_iff numbers tame).mp removed
    rw [Evidence.knows_merged, List.any_eq_true] at known
    apply kept
    rw [removes_merged_iff fewerNumbers fewerTame]
    exact ⟨listed, known, fun result member => below result (within member)⟩

/-- Two pushes with a small confidence remove a task that only one of them
knows, and a push that is sure of the task keeps it whatever another one
says. -/
theorem removes_over_window_of_two_pushes :
    let selector : Selector := { threshold := .one, isFraction := by decide }
    let task : Task :=
      { label := "task", attributes := { manifests := some ["group"] } }
    let weak : Evidence := { groups := Table.ofList [("group", .zero)] }
    let aware : Evidence := { known := Names.ofList ["task"] }
    let sure : Evidence :=
      { tasks := Table.ofList [("task", .one)], known := Names.ofList ["task"] }
    (∀ result ∈ [weak, aware, sure], result.HasNumbers) ∧
      Binary64.zero.less selector.threshold = true ∧
      selector.removes (Evidence.merged [weak, aware]) task = true ∧
      (Evidence.merged [sure]).knows task.label = true ∧
      selector.removes (Evidence.merged [sure]) task = false ∧
      selector.removes (Evidence.merged [weak, sure]) task = false := by
  intro selector task weak aware sure
  have numbers : ∀ result ∈ [weak, aware, sure], result.HasNumbers := by decide
  have positive : Binary64.zero.less selector.threshold = true := by decide
  have known : (Evidence.merged [sure]).knows task.label = true := by decide
  have kept : selector.removes (Evidence.merged [sure]) task = false := by
    decide
  obtain ⟨jointly, stays⟩ := removes_over_window selector task
  refine ⟨numbers, positive, ?_, known, kept, ?_⟩
  · apply (jointly [weak, aware] (by decide) (.inl positive)).mpr
    decide
  · exact stays [sure] [weak, sure] (by simp) (by decide) (.inl positive)
      known kept

end Selector

end TaskSieve
