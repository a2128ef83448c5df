import TaskSieve.Evidence
import TaskSieve.Proofs.Binary64.Order
import TaskSieve.Proofs.Table

/-!
# What merged evidence says

Merging looks at each name alone: the confidence of a name in merged evidence
is that of the results which carry the name, folded by the larger of two, and
a task is known when one of the results knows it.  As long as every confidence
is a number the fold is the largest of them.
-/

namespace TaskSieve

namespace Evidence

theorem raise_of_numbers {held new : Binary64} (heldNumber : held.isNaN = false)
    (newNumber : new.isNaN = false) :
    (raise held new = held ∧ new.atMost held = true) ∨
      (raise held new = new ∧ held.atMost new = true) := by
  by_cases less : held.less new = true
  · have below : held.place < new.place := by
      simpa [Binary64.less, heldNumber, newNumber] using less
    refine .inr ⟨by simp [raise, less], ?_⟩
    simp [Binary64.atMost, heldNumber, newNumber, Int.le_of_lt below]
  · have above : new.place ≤ held.place := by
      simpa [Binary64.less, heldNumber, newNumber] using less
    refine .inl ⟨by simp [raise, less], ?_⟩
    simp [Binary64.atMost, heldNumber, newNumber, above]

theorem isLargest_foldl_raise (first : Binary64) (rest : List Binary64)
    (numbers : ∀ value ∈ first :: rest, value.isNaN = false) :
    Binary64.IsLargest (first :: rest) (rest.foldl raise first) := by
  induction rest generalizing first with
  | nil =>
      have number := numbers first (by simp)
      exact ⟨by simp, by simp [Binary64.atMost, number]⟩
  | cons next rest induction =>
      have firstNumber := numbers first (by simp)
      have nextNumber := numbers next (by simp)
      have restNumbers : ∀ value ∈ rest, value.isNaN = false :=
        fun value member => numbers value (by simp [member])
      rw [List.foldl_cons]
      rcases raise_of_numbers firstNumber nextNumber with
        ⟨held, smaller⟩ | ⟨new, smaller⟩
      · rw [held]
        obtain ⟨member, largest⟩ :=
          induction first (by simpa [firstNumber] using restNumbers)
        have above := largest first (by simp)
        grind [Binary64.atMost_trans, Binary64.IsLargest]
      · rw [new]
        obtain ⟨member, largest⟩ :=
          induction next (by simpa [nextNumber] using restNumbers)
        have above := largest next (by simp)
        grind [Binary64.atMost_trans, Binary64.IsLargest]

theorem foldl_merge_raise (held : Binary64) (found : List (Option Binary64)) :
    found.foldl (Option.merge raise) (some held) =
      some ((found.filterMap id).foldl raise held) := by
  induction found generalizing held with
  | nil => rfl
  | cons head rest induction =>
      cases head with
      | none => simpa using induction held
      | some value => simpa using induction (raise held value)

/-- The fold over the results that carry a name starts with the first of
them. -/
theorem foldl_merge_none (found : List (Option Binary64)) :
    found.foldl (Option.merge raise) none =
      match found.filterMap id with
      | [] => none
      | first :: rest => some (rest.foldl raise first) := by
  induction found with
  | nil => rfl
  | cons head rest induction =>
      cases head with
      | none => simpa using induction
      | some value => simp [foldl_merge_raise]

/-- The tables of confidences that evidence consists of. -/
def confidences : List (Evidence → Table String Binary64) :=
  [tasks, groups, reducedTasks]

theorem find?_merge {table : Evidence → Table String Binary64}
    (member : table ∈ confidences) (left right : Evidence) (name : String) :
    (table (left.merge right)).find? name =
      Option.merge raise ((table left).find? name)
        ((table right).find? name) := by
  simp only [confidences, List.mem_cons, List.not_mem_nil, or_false] at member
  rcases member with rfl | rfl | rfl
  · exact Table.find?_mergeWith raise left.tasks right.tasks name
  · exact Table.find?_mergeWith raise left.groups right.groups name
  · exact Table.find?_mergeWith raise left.reducedTasks right.reducedTasks name

theorem find?_foldl_merge {table : Evidence → Table String Binary64}
    (member : table ∈ confidences) (name : String) (results : List Evidence)
    (gathered : Evidence) :
    (table (results.foldl merge gathered)).find? name =
      (results.map fun result => (table result).find? name).foldl
        (Option.merge raise)
        ((table gathered).find? name) := by
  induction results generalizing gathered with
  | nil => rfl
  | cons result rest induction =>
      rw [List.foldl_cons, induction, find?_merge member, List.map_cons,
        List.foldl_cons]

theorem find?_default {table : Evidence → Table String Binary64}
    (member : table ∈ confidences) (name : String) :
    (table {}).find? name = none := by
  simp only [confidences, List.mem_cons, List.not_mem_nil, or_false] at member
  rcases member with rfl | rfl | rfl
  all_goals rfl

/-- The confidences of a name in the results that carry it. -/
def carried (table : Evidence → Table String Binary64) (name : String)
    (results : List Evidence) : List Binary64 :=
  results.filterMap fun result => (table result).find? name

/-- The confidence of a name in merged evidence, from those of the results that
carry it. -/
theorem find?_merged {table : Evidence → Table String Binary64}
    (member : table ∈ confidences) (name : String) (results : List Evidence) :
    (table (merged results)).find? name =
      match carried table name results with
      | [] => none
      | first :: rest => some (rest.foldl raise first) := by
  have carries :
      (results.map fun result => (table result).find? name).filterMap id =
      carried table name results := by
    rw [List.filterMap_map]
    rfl
  rw [merged, find?_foldl_merge member, find?_default member, foldl_merge_none,
    carries]

theorem knows_merge (left right : Evidence) (label : String) :
    (left.merge right).knows label = (left.knows label || right.knows label) :=
  Names.contains_union left.known right.known label

theorem knows_foldl_merge (label : String) (results : List Evidence)
    (gathered : Evidence) :
    (results.foldl merge gathered).knows label =
      (gathered.knows label || results.any fun result =>
        result.knows label) := by
  induction results generalizing gathered with
  | nil => simp
  | cons result rest induction =>
      rw [List.foldl_cons, induction, knows_merge, List.any_cons, Bool.or_assoc]

/-- Merged evidence knows the tasks that some of the results knows. -/
theorem knows_merged (label : String) (results : List Evidence) :
    (merged results).knows label = results.any fun result =>
      result.knows label := by
  have unknown : ({} : Evidence).knows label = false := rfl
  rw [merged, knows_foldl_merge, unknown, Bool.false_or]

/-- Evidence that says, name by name, what some results say together: it has a
confidence for the names that some of them carries, the largest one when all of
them are numbers, and it knows the tasks that any of them knows. -/
structure Summarizes (summary : Evidence) (results : List Evidence) : Prop where
  absent : ∀ table ∈ confidences, ∀ name,
    (table summary).find? name = none ↔
    ∀ result ∈ results, (table result).find? name = none
  largest : ∀ table ∈ confidences, ∀ name value, (table summary).find? name =
    some value →
    (∀ other ∈ carried table name results, other.isNaN = false) →
    Binary64.IsLargest (carried table name results) value
  known : ∀ label, summary.knows label = results.any fun result =>
    result.knows label

theorem merged_summarizes (results : List Evidence) :
    (merged results).Summarizes results where
  absent table member name := by
    rw [find?_merged member, ← List.filterMap_eq_nil_iff, ← carried]
    split
    · simp [*]
    · simp [*]
  largest table member name value found numbers := by
    rw [find?_merged member] at found
    split at found
    · cases found
    · rename_i first rest carries
      cases found
      rw [carries] at numbers ⊢
      exact isLargest_foldl_raise first rest numbers
  known label := knows_merged label results

variable {results : List Evidence} {evidence : Evidence}
  {table : Evidence → Table String Binary64} {name : String} {value : Binary64}

/-- Whether something holds of all confidences. -/
def Every (holds : Binary64 → Prop) (evidence : Evidence) : Prop :=
  ∀ table ∈ confidences, ∀ value ∈ (table evidence).values, holds value

/-- Whether all confidences are numbers. -/
def HasNumbers (evidence : Evidence) : Prop :=
  evidence.Every fun value => value.isNaN = false

/-- Whether no confidence is negative. -/
def IsNonnegative (evidence : Evidence) : Prop :=
  evidence.Every fun value => Binary64.zero.atMost value = true

instance (holds : Binary64 → Prop) [DecidablePred holds] (evidence : Evidence) :
    Decidable (evidence.Every holds) :=
  inferInstanceAs (Decidable
    (∀ table ∈ confidences, ∀ value ∈ (table evidence).values, holds value))

instance (evidence : Evidence) : Decidable evidence.HasNumbers :=
  inferInstanceAs (Decidable (evidence.Every fun value => value.isNaN = false))

instance (evidence : Evidence) : Decidable evidence.IsNonnegative :=
  inferInstanceAs
    (Decidable (evidence.Every fun value => Binary64.zero.atMost value = true))

theorem mem_values_of_find? (found : (table evidence).find? name = some value) :
    value ∈ (table evidence).values :=
  List.mem_map_of_mem (Table.mem_toList_of_find? found)

theorem mem_carried :
    value ∈ carried table name results ↔
      ∃ result ∈ results, (table result).find? name = some value :=
  List.mem_filterMap

theorem isNaN_of_mem_carried (numbers : ∀ result ∈ results, result.HasNumbers)
    (member : table ∈ confidences)
    (carries : value ∈ carried table name results) : value.isNaN = false := by
  obtain ⟨result, inResults, found⟩ := mem_carried.mp carries
  exact numbers result inResults table member value (mem_values_of_find? found)

theorem isLargest_of_find?_merged
    (numbers : ∀ result ∈ results, result.HasNumbers)
    (member : table ∈ confidences)
    (found : (table (merged results)).find? name = some value) :
    Binary64.IsLargest (carried table name results) value :=
  (merged_summarizes results).largest table member name value found
    fun _ carries => isNaN_of_mem_carried numbers member carries

theorem exists_of_find?_merged (numbers : ∀ result ∈ results, result.HasNumbers)
    (member : table ∈ confidences)
    (found : (table (merged results)).find? name = some value) :
    ∃ result ∈ results, (table result).find? name = some value :=
  mem_carried.mp (isLargest_of_find?_merged numbers member found).1

end Evidence

end TaskSieve
