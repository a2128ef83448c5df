import Mathlib.Order.Bounds.Basic
import TaskSieve.Proofs.Evidence.Merging

/-!
# Merged evidence as a least upper bound

One result lies below another when the other has all of its confidences, none
of them smaller, and knows all of its tasks.  Merged evidence is the least
evidence above the results.  A least upper bound depends on the set of its
elements alone, so it matters neither in which order results are merged, nor
how often, nor which of them are merged first.

The order compares confidences as numbers, and zeros of either sign are the
same number.  So evidence that lies below each other may differ in the sign of
a zero, and in nothing else.
-/

namespace TaskSieve

namespace Evidence

/-- Whether other evidence has all confidences, none of them smaller. -/
def ConfidentAtMost (evidence other : Evidence) : Prop :=
  ∀ table ∈ confidences, ∀ name value, (table evidence).find? name =
    some value →
    ∃ larger, (table other).find? name = some larger ∧
    value.atMost larger = true

instance : LE Evidence where
  le evidence other := evidence.ConfidentAtMost other ∧
    ∀ label, evidence.knows label = true → other.knows label = true

/-- Evidence that says the same: confidences for the same names, equal as
numbers, and the same known tasks. -/
structure Agrees (left right : Evidence) : Prop where
  confidence : ∀ table ∈ confidences, ∀ name,
    Option.Rel (fun value other => value.atMost other = true ∧
      other.atMost value = true)
      ((table left).find? name) ((table right).find? name)
  known : ∀ label, left.knows label = right.knows label

/-- Evidence that some results, listed from left to right, are merged to in some
grouping. -/
inductive MergesTo : List Evidence → Evidence → Prop where
  | none : MergesTo [] {}
  | one (result : Evidence) : MergesTo [result] result
  | both {front back : List Evidence} {left right : Evidence} :
      MergesTo front left → MergesTo back right →
      MergesTo (front ++ back) (left.merge right)

variable {results : List Evidence} {evidence left right : Evidence}

theorem le_trans {first second third : Evidence} (below : first ≤ second)
    (above : second ≤ third) : first ≤ third := by
  constructor
  · intro table member name value found
    obtain ⟨larger, foundLarger, smaller⟩ :=
      below.1 table member name value found
    obtain ⟨largest, foundLargest, small⟩ :=
      above.1 table member name larger foundLarger
    exact ⟨largest, foundLargest, Binary64.atMost_trans smaller small⟩
  · intro label knows
    exact above.2 label (below.2 label knows)

theorem le_self (numbers : evidence.HasNumbers) : evidence ≤ evidence := by
  constructor
  · intro table member name value found
    have number := numbers table member value (mem_values_of_find? found)
    exact ⟨value, found, by simp [Binary64.atMost, number]⟩
  · intro label knows
    exact knows

theorem agrees_of_le_of_le (below : left ≤ right) (above : right ≤ left) :
    Agrees left right where
  confidence table member name := by
    cases foundLeft : (table left).find? name with
    | some value =>
        obtain ⟨larger, foundRight, smaller⟩ :=
          below.1 table member name value foundLeft
        obtain ⟨same, foundSame, notLarger⟩ :=
          above.1 table member name larger foundRight
        obtain rfl : value = same :=
          Option.some.inj (foundLeft.symm.trans foundSame)
        rw [foundRight]
        exact .some ⟨smaller, notLarger⟩
    | none =>
        cases foundRight : (table right).find? name with
        | none => exact .none
        | some value =>
            obtain ⟨larger, found, _⟩ :=
              above.1 table member name value foundRight
            rw [foundLeft] at found
            cases found
  known label := Bool.eq_iff_iff.mpr ⟨below.2 label, above.2 label⟩

/-- Two least upper bounds of the same results say the same. -/
theorem agrees_of_isLUB {bounded : Set Evidence} (isLeft : IsLUB bounded left)
    (isRight : IsLUB bounded right) : Agrees left right :=
  agrees_of_le_of_le (isLeft.2 isRight.1) (isRight.2 isLeft.1)

theorem merge_empty (evidence : Evidence) : evidence.merge {} = evidence := by
  simp [merge, Names.union]

theorem empty_merge (evidence : Evidence) :
    ({} : Evidence).merge evidence = evidence := by
  simp [merge, Names.union]

theorem merged_pair (left right : Evidence) :
    merged [left, right] = left.merge right := by
  rw [merged, List.foldl_cons, List.foldl_cons, List.foldl_nil, empty_merge]

theorem contains_merged {table : Evidence → Table String Binary64}
    (member : table ∈ confidences) (name : String) (results : List Evidence) :
    (table (merged results)).contains name = true ↔
      ∃ result ∈ results, (table result).contains name = true := by
  have absent := (merged_summarizes results).absent table member name
  rw [Table.contains, ← Option.ne_none_iff_isSome, ne_eq, absent]
  simp [Table.contains, Option.isSome_iff_ne_none]

theorem hasNumbers_merged (numbers : ∀ result ∈ results, result.HasNumbers) :
    (merged results).HasNumbers := by
  intro table member value listed
  obtain ⟨⟨name, value⟩, inTable, rfl⟩ := List.mem_map.mp listed
  have found := Table.find?_of_mem_toList inTable
  obtain ⟨result, inResults, carried⟩ :=
    exists_of_find?_merged numbers member found
  exact numbers result inResults table member value
    (mem_values_of_find? carried)

/-- Merged evidence is the least evidence above the results. -/
theorem isLUB_merged (numbers : ∀ result ∈ results, result.HasNumbers) :
    IsLUB {result | result ∈ results} (merged results) := by
  constructor
  · intro result inResults
    constructor
    · intro table member name value found
      have present : (table (merged results)).contains name = true := by
        rw [contains_merged member]
        exact ⟨result, inResults, by simp [Table.contains, found]⟩
      obtain ⟨largest, foundLargest⟩ := Option.isSome_iff_exists.mp present
      have isLargest := isLargest_of_find?_merged numbers member foundLargest
      exact ⟨largest, foundLargest,
        isLargest.2 value (mem_carried.mpr ⟨result, inResults, found⟩)⟩
    · intro label knows
      rw [knows_merged, List.any_eq_true]
      exact ⟨result, inResults, knows⟩
  · intro bound above
    constructor
    · intro table member name value found
      obtain ⟨result, inResults, carried⟩ :=
        exists_of_find?_merged numbers member found
      exact (above inResults).1 table member name value carried
    · intro label knows
      rw [knows_merged, List.any_eq_true] at knows
      obtain ⟨result, inResults, known⟩ := knows
      exact (above inResults).2 label known

namespace MergesTo

theorem foldl {front : List Evidence} {gathered : Evidence}
    (start : MergesTo front gathered) {parts : List (List Evidence)}
    {summaries : List Evidence} (each : List.Forall₂ MergesTo parts summaries) :
    MergesTo (front ++ parts.flatten) (summaries.foldl merge gathered) := by
  induction each generalizing front gathered with
  | nil => simpa using start
  | cons part _ induction =>
      rw [List.flatten_cons, ← List.append_assoc, List.foldl_cons]
      exact induction (start.both part)

/-- Parts that are merged first, and whose evidence is merged then. -/
theorem parts {parts : List (List Evidence)} {summaries : List Evidence}
    (each : List.Forall₂ MergesTo parts summaries) :
    MergesTo parts.flatten (merged summaries) :=
  foldl .none each

theorem merged (results : List Evidence) :
    MergesTo results (merged results) := by
  have alone :
      List.Forall₂ MergesTo (results.map fun result => [result]) results := by
    rw [List.forall₂_map_left_iff, List.forall₂_same]
    exact fun result _ => .one result
  have together := parts alone
  rwa [← List.flatMap_def, List.flatMap_singleton'] at together

/-- In whatever grouping results are merged, the outcome is their least upper
bound. -/
theorem isLUB (merges : MergesTo results evidence)
    (numbers : ∀ result ∈ results, result.HasNumbers) :
    evidence.HasNumbers ∧ IsLUB {result | result ∈ results} evidence := by
  induction merges with
  | none => exact ⟨hasNumbers_merged numbers, isLUB_merged numbers⟩
  | one result =>
      have number := numbers result (by simp)
      refine ⟨number, ?_, ?_⟩
      · intro other member
        rw [List.mem_singleton.mp member]
        exact le_self number
      · intro bound above
        exact above (List.mem_singleton_self result)
  | @both front back left right _ _ inductionLeft inductionRight =>
      obtain ⟨leftNumbers, leftAbove, leftLeast⟩ :=
        inductionLeft fun result member => numbers result (by simp [member])
      obtain ⟨rightNumbers, rightAbove, rightLeast⟩ :=
        inductionRight fun result member => numbers result (by simp [member])
      have pairNumbers : ∀ result ∈ [left, right], result.HasNumbers := by
        simp [leftNumbers, rightNumbers]
      have pairNumber := hasNumbers_merged pairNumbers
      obtain ⟨pairAbove, pairLeast⟩ := isLUB_merged pairNumbers
      rw [merged_pair] at pairNumber pairAbove pairLeast
      refine ⟨pairNumber, ?_, ?_⟩
      · intro result member
        rcases List.mem_append.mp member with inFront | inBack
        · exact le_trans (leftAbove inFront) (pairAbove (by simp))
        · exact le_trans (rightAbove inBack) (pairAbove (by simp))
      · intro bound above
        have leftBelow : left ≤ bound :=
          leftLeast fun result member =>
            above (List.mem_append_left back member)
        have rightBelow : right ≤ bound :=
          rightLeast fun result member =>
            above (List.mem_append_right front member)
        apply pairLeast
        intro result member
        rcases List.mem_pair.mp member with rfl | rfl
        · exact leftBelow
        · exact rightBelow

end MergesTo

/-- Merged evidence has a confidence for exactly the names that some result
carries, the largest one, and knows the tasks that some result knows.  It is the
least evidence above the results, and so says the same in whichever order, how
often and in whatever grouping they are merged.  Empty evidence adds nothing. -/
theorem merged_leastUpperBound (results : List Evidence)
    (numbers : ∀ result ∈ results, result.HasNumbers) :
    (∀ table ∈ confidences, ∀ name,
      ((table (merged results)).contains name = true ↔
        ∃ result ∈ results, (table result).contains name = true) ∧
      ∀ value, (table (merged results)).find? name = some value →
        Binary64.IsLargest (carried table name results) value) ∧
    (∀ label, (merged results).knows label = true ↔
      ∃ result ∈ results, result.knows label = true) ∧
    IsLUB {result | result ∈ results} (merged results) ∧
    (∀ others, (∀ result, result ∈ others ↔ result ∈ results) →
      Agrees (merged others) (merged results) ∧
      (∀ parts : List (List Evidence), parts.flatten = others →
        Agrees (merged (parts.map merged)) (merged results)) ∧
      ∀ evidence, MergesTo others evidence → Agrees evidence (merged results)) ∧
    ∀ evidence : Evidence,
      evidence.merge {} = evidence ∧ ({} : Evidence).merge evidence =
        evidence := by
  refine ⟨?_, ?_, isLUB_merged numbers, ?_, ?_⟩
  · intro table member name
    exact ⟨contains_merged member name results,
      fun value found => isLargest_of_find?_merged numbers member found⟩
  · intro label
    rw [knows_merged, List.any_eq_true]
  · intro others same
    have otherNumbers : ∀ result ∈ others, result.HasNumbers :=
      fun result member => numbers result ((same result).mp member)
    have sameSet : {result | result ∈ others} = {result | result ∈ results} :=
      Set.ext same
    have grouped : ∀ evidence, MergesTo others evidence →
        Agrees evidence (merged results) := by
      intro evidence merges
      have least := (merges.isLUB otherNumbers).2
      rw [sameSet] at least
      exact agrees_of_isLUB least (isLUB_merged numbers)
    refine ⟨grouped _ (.merged others), ?_, grouped⟩
    rintro parts rfl
    have each : List.Forall₂ MergesTo parts (parts.map merged) := by
      rw [List.forall₂_map_right_iff, List.forall₂_same]
      exact fun part _ => .merged part
    exact grouped _ (.parts each)
  · intro evidence
    exact ⟨merge_empty evidence, empty_merge evidence⟩

/-- Zeros of different sign make the order of two results show in the merged
evidence, which says the same nevertheless.  A negative confidence is not raised
to zero by a result without it. -/
theorem merged_leastUpperBound_of_signed_zeros :
    let minusOne : Binary64 := ⟨true, Binary64.one.magnitude⟩
    let first : Evidence := {
      tasks := Table.ofList [("task", minusOne)]
      groups := Table.ofList [("group", .zero)] }
    let second : Evidence := {
      groups := Table.ofList [("group", ⟨true, 0⟩)]
      known := Names.ofList ["task"] }
    (∀ result ∈ [first, second], result.HasNumbers) ∧
      merged [second, first] ≠ merged [first, second] ∧
      Agrees (merged [second, first]) (merged [first, second]) ∧
      Agrees (first.merge (second.merge first)) (merged [first, second]) ∧
      Binary64.IsLargest (carried tasks "task" [first, second]) minusOne := by
  intro minusOne first second
  have numbers : ∀ result ∈ [first, second], result.HasNumbers := by decide
  obtain ⟨largest, _, _, regrouped, _⟩ :=
    merged_leastUpperBound [first, second] numbers
  refine ⟨numbers, by decide, ?_, ?_, ?_⟩
  · exact (regrouped [second, first] (by simp [or_comm])).1
  · have merges :
        MergesTo [first, second, first] (first.merge (second.merge first)) :=
      .both (.one first) (.both (.one second) (.one first))
    exact (regrouped [first, second, first] (by simp [or_comm])).2.2 _ merges
  · exact (largest tasks (by simp [confidences]) "task").2 minusOne (by decide)

end Evidence

end TaskSieve
