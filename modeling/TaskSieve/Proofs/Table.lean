import Mathlib.Data.List.Perm.Subperm
import TaskSieve.Table

/-!
# Looking up what was inserted

A look-up after an insertion sees the new value under its own key and the old
table under every other key.  In a merge of two tables it sees the values of
both, combined.  Sets of names follow: a set made from a list has exactly the
members of the list, and a union those of either set.
-/

namespace TaskSieve

open Std

namespace Table

variable {κ : Type} [Ord κ] {α : Type u}

theorem lookup_cons [LawfulEqOrd κ] [DecidableEq κ] (key other : κ) (value : α)
    (rest : List (κ × α)) :
    lookup key ((other, value) :: rest) =
      if key = other then some value else lookup key rest := by
  by_cases same : key = other
  · subst same
    simp [lookup, ReflOrd.compare_self]
  · have different : compare key other ≠ .eq := by
      intro equal
      exact same (LawfulEqOrd.eq_of_compare equal)
    cases comparison : compare key other with
    | eq => exact (different comparison).elim
    | lt => simp [lookup, comparison, same]
    | gt => simp [lookup, comparison, same]

theorem lookup_place_of_ne [TransOrd κ] [LawfulEqOrd κ] [DecidableEq κ]
    (combine : α → α → α) {key other : κ} (value : α) (different : other ≠ key)
    (entries : List (κ × α)) :
    lookup other (place combine key value entries) = lookup other entries := by
  induction entries with
  | nil => simp [place, lookup_cons, different, lookup]
  | cons head rest induction =>
      obtain ⟨present, held⟩ := head
      cases comparison : compare key present with
      | lt => simp [place, comparison, lookup_cons, different]
      | eq =>
          have same : key = present := LawfulEqOrd.eq_of_compare comparison
          subst same
          simp [place, lookup_cons, different]
      | gt => simp [place, comparison, lookup_cons, induction]

theorem lookup_place_self [TransOrd κ] [LawfulEqOrd κ] [DecidableEq κ]
    (key : κ) (value : α) (entries : List (κ × α)) :
    lookup key (place (fun _ new => new) key value entries) = some value := by
  induction entries with
  | nil => simp [place, lookup_cons]
  | cons head rest induction =>
      obtain ⟨present, held⟩ := head
      cases comparison : compare key present with
      | lt => simp [place, comparison, lookup_cons]
      | eq =>
          have same : key = present := LawfulEqOrd.eq_of_compare comparison
          subst same
          simp [place, lookup_cons]
      | gt =>
          have different : key ≠ present := by
            intro same
            subst same
            simp [ReflOrd.compare_self] at comparison
          simp [place, comparison, lookup_cons, different, induction]

theorem lookup_eq_none_of_lt [TransOrd κ] [LawfulEqOrd κ] [DecidableEq κ]
    {key : κ} {entries : List (κ × α)}
    (below : ∀ entry ∈ entries, compare key entry.1 = .lt) :
    lookup key entries = none := by
  induction entries with
  | nil => rfl
  | cons head rest induction =>
      obtain ⟨present, held⟩ := head
      have less := below (present, held) (by simp)
      have different : key ≠ present := by
        intro same
        subst same
        simp [ReflOrd.compare_self] at less
      rw [lookup_cons, if_neg different]
      exact induction fun entry member => below entry (by simp [member])

/-- A value that is placed is combined with the one that is there. -/
theorem lookup_place_combine [TransOrd κ] [LawfulEqOrd κ] [DecidableEq κ]
    (combine : α → α → α) (key : κ) (value : α) {entries : List (κ × α)}
    (sorted : entries.Pairwise fun left right => compare left.1 right.1 = .lt) :
    lookup key (place combine key value entries) =
      Option.merge combine (lookup key entries) (some value) := by
  induction entries with
  | nil => simp [place, lookup_cons, lookup]
  | cons head rest induction =>
      obtain ⟨present, held⟩ := head
      have above := (List.pairwise_cons.mp sorted).1
      cases comparison : compare key present with
      | lt =>
          have absent : lookup key ((present, held) :: rest) = none := by
            apply lookup_eq_none_of_lt
            intro entry member
            rcases List.mem_cons.mp member with rfl | later
            · exact comparison
            · exact TransCmp.lt_trans comparison (above entry later)
          simp [place, comparison, absent, lookup_cons]
      | eq =>
          have same : key = present := LawfulEqOrd.eq_of_compare comparison
          subst same
          simp [place, lookup_cons]
      | gt =>
          have different : key ≠ present := by
            intro same
            subst same
            simp [ReflOrd.compare_self] at comparison
          simp [place, comparison, lookup_cons, different,
            induction (List.pairwise_cons.mp sorted).2]

theorem mem_toList_of_find? [LawfulEqOrd κ] [DecidableEq κ] {table : Table κ α}
    {key : κ} {value : α} (found : table.find? key = some value) :
    (key, value) ∈ table.toList := by
  rw [find?] at found
  rw [toList]
  generalize table.entries = entries at found ⊢
  induction entries with
  | nil => simp [lookup] at found
  | cons head rest induction =>
      rw [lookup_cons] at found
      by_cases same : key = head.1
      · rw [if_pos same, Option.some.injEq] at found
        rw [same, ← found]
        exact List.mem_cons_self
      · rw [if_neg same] at found
        exact List.mem_cons_of_mem head (induction found)

theorem find?_of_mem_toList [LawfulEqOrd κ] [DecidableEq κ] {table : Table κ α}
    {key : κ} {value : α} (member : (key, value) ∈ table.toList) :
    table.find? key = some value := by
  have sorted := table.sorted
  rw [toList] at member
  rw [find?]
  generalize table.entries = entries at member sorted ⊢
  induction entries with
  | nil => cases member
  | cons head rest induction =>
      obtain ⟨above, restSorted⟩ := List.pairwise_cons.mp sorted
      rw [lookup_cons]
      rcases List.mem_cons.mp member with rfl | later
      · rw [if_pos rfl]
      · have different : key ≠ head.1 := by
          intro same
          have less := above (key, value) later
          simp [same, ReflOrd.compare_self] at less
        rw [if_neg different]
        exact induction later restSorted

theorem mem_keys_iff [LawfulEqOrd κ] [DecidableEq κ] {table : Table κ α}
    {key : κ} : key ∈ table.keys ↔ table.contains key = true := by
  rw [keys, contains, find?]
  induction table.entries with
  | nil => simp [lookup]
  | cons head rest induction =>
      rw [List.map_cons, List.mem_cons, induction, lookup_cons]
      by_cases same : key = head.1
      · simp [same]
      · simp [same]

/-- The keys of a table increase. -/
theorem keys_pairwise (table : Table κ α) :
    table.keys.Pairwise fun left right => compare left right = .lt := by
  rw [keys, List.pairwise_map]
  exact table.sorted

theorem keys_nodup [ReflOrd κ] (table : Table κ α) : table.keys.Nodup := by
  refine table.keys_pairwise.imp ?_
  intro left right less same
  subst same
  simp [ReflOrd.compare_self] at less

@[simp] theorem find?_empty (key : κ) : (∅ : Table κ α).find? key = none := rfl

variable [TransOrd κ] [LawfulEqOrd κ] [DecidableEq κ]

@[simp] theorem find?_insert_self (table : Table κ α) (key : κ) (value : α) :
    (table.insert key value).find? key = some value :=
  lookup_place_self key value table.entries

theorem find?_insert_of_ne (table : Table κ α) {key other : κ} (value : α)
    (different : other ≠ key) :
    (table.insert key value).find? other = table.find? other :=
  lookup_place_of_ne _ value different table.entries

theorem find?_insert (table : Table κ α) (key other : κ) (value : α) :
    (table.insert key value).find? other =
      if other = key then some value else table.find? other := by
  by_cases same : other = key
  · subst same
    simp
  · simp [same, find?_insert_of_ne table value same]

theorem find?_insertWith (table : Table κ α) (combine : α → α → α)
    (key other : κ) (value : α) :
    (table.insertWith combine key value).find? other =
      if other = key then Option.merge combine (table.find? key) (some value)
      else table.find? other := by
  by_cases same : other = key
  · subst same
    rw [if_pos rfl]
    exact lookup_place_combine combine other value table.sorted
  · rw [if_neg same]
    exact lookup_place_of_ne combine value same table.entries

theorem find?_foldl_insertWith (combine : α → α → α) (key : κ)
    {entries : List (κ × α)}
    (sorted : entries.Pairwise fun left right => compare left.1 right.1 = .lt)
    (table : Table κ α) :
    (entries.foldl (fun table entry => table.insertWith combine entry.1 entry.2)
      table).find?
        key = Option.merge combine (table.find? key) (lookup key entries) := by
  induction entries generalizing table with
  | nil => simp [lookup]
  | cons head rest induction =>
      obtain ⟨present, value⟩ := head
      obtain ⟨above, restSorted⟩ := List.pairwise_cons.mp sorted
      rw [List.foldl_cons, induction restSorted, find?_insertWith, lookup_cons]
      by_cases same : key = present
      · subst same
        rw [if_pos rfl, if_pos rfl, lookup_eq_none_of_lt above]
        simp
      · rw [if_neg same, if_neg same]

/-- Of several values that are inserted for one key the last one stays. -/
theorem find?_foldl_insert (entries : List (κ × α)) (table : Table κ α)
    (key : κ) :
    (entries.foldl (fun table entry => table.insert entry.1 entry.2)
      table).find? key =
      ((entries.reverse.find? fun entry => entry.1 = key).map (·.2)).or
        (table.find? key) := by
  induction entries generalizing table with
  | nil => simp
  | cons head rest induction =>
      obtain ⟨present, value⟩ := head
      rw [List.foldl_cons, induction, List.reverse_cons, List.find?_append,
        find?_insert]
      by_cases same : present = key
      · subst same
        cases rest.reverse.find? fun entry => entry.1 = present with
        | none => simp
        | some entry => simp
      · cases rest.reverse.find? fun entry => entry.1 = key with
        | none => simp [same, Ne.symm same]
        | some entry => simp

theorem find?_mergeWith (combine : α → α → α) (left right : Table κ α)
    (key : κ) :
    (left.mergeWith combine right).find? key =
      Option.merge combine (left.find? key) (right.find? key) :=
  find?_foldl_insertWith combine key right.sorted left

/-- What the table of a list has for a key is what the last entry of the list
gives it. -/
theorem find?_ofList (entries : List (κ × α)) (key : κ) :
    (ofList entries).find? key =
      (entries.reverse.find? fun entry => entry.1 = key).map (·.2) := by
  have given := find?_foldl_insert entries empty key
  have absent : (empty : Table κ α).find? key = none := rfl
  rw [absent, Option.or_none] at given
  exact given

omit [DecidableEq κ] [LawfulEqOrd κ] in
/-- A greater key comes last. -/
theorem place_of_lt (combine : α → α → α) {key : κ} (value : α)
    {entries : List (κ × α)}
    (below : ∀ entry ∈ entries, compare entry.1 key = .lt) :
    place combine key value entries = entries ++ [(key, value)] := by
  induction entries with
  | nil => rfl
  | cons head rest induction =>
      have less : compare key head.1 = .gt :=
        OrientedCmp.gt_of_lt (below head (by simp))
      have later := induction fun entry member => below entry (by simp [member])
      simp [place, less, later]

omit [DecidableEq κ] in
/-- Entries whose keys increase beyond those of a table are added as they
are. -/
theorem entries_foldl_insertWith (combine : α → α → α) {entries : List (κ × α)}
    {table : Table κ α}
    (sorted : (table.entries ++ entries).Pairwise fun left right =>
      compare left.1 right.1 = .lt) :
    (entries.foldl (fun table entry => table.insertWith combine entry.1 entry.2)
      table).entries =
      table.entries ++ entries := by
  induction entries generalizing table with
  | nil => simp
  | cons head rest induction =>
      have below : ∀ entry ∈ table.entries, compare entry.1 head.1 = .lt := by
        intro entry member
        exact (List.pairwise_append.mp sorted).2.2 entry member head (by simp)
      have placed : (table.insertWith combine head.1 head.2).entries =
          table.entries ++ [head] :=
        place_of_lt combine head.2 below
      rw [List.foldl_cons, induction, placed, List.append_assoc,
        List.singleton_append]
      rw [placed, List.append_assoc, List.singleton_append]
      exact sorted

omit [TransOrd κ] [LawfulEqOrd κ] [DecidableEq κ] in
theorem eq_of_entries {left right : Table κ α}
    (same : left.entries = right.entries) : left = right := by
  cases left
  cases right
  cases same
  rfl

omit [DecidableEq κ] in
@[simp] theorem ofList_toList (table : Table κ α) :
    ofList table.toList = table := by
  have added : (ofList table.toList).entries = (empty : Table κ α).entries ++
      table.entries :=
    entries_foldl_insertWith _ table.sorted
  exact eq_of_entries added

omit [DecidableEq κ] in
@[simp] theorem mergeWith_empty (combine : α → α → α) (table : Table κ α) :
    table.mergeWith combine ∅ = table := rfl

omit [DecidableEq κ] in
@[simp] theorem empty_mergeWith (combine : α → α → α) (table : Table κ α) :
    (∅ : Table κ α).mergeWith combine table = table := by
  have added : ((∅ : Table κ α).mergeWith combine table).entries =
      (empty : Table κ α).entries ++ table.entries :=
    entries_foldl_insertWith combine table.sorted
  exact eq_of_entries added

omit [TransOrd κ] [DecidableEq κ] in
theorem mem_of_mem_place {key : κ} {value : α} {entry : κ × α}
    {entries : List (κ × α)}
    (member : entry ∈ place (fun _ new => new) key value entries) :
    entry = (key, value) ∨ entry ∈ entries := by
  induction entries with
  | nil => exact .inl (List.mem_singleton.mp member)
  | cons head rest induction =>
      rw [place] at member
      split at member
      · exact List.mem_cons.mp member
      · next comparison =>
          rw [LawfulEqOrd.eq_of_compare comparison]
          rcases List.mem_cons.mp member with placed | later
          · exact .inl placed
          · exact .inr (List.mem_cons_of_mem _ later)
      · rcases List.mem_cons.mp member with rfl | later
        · exact .inr (List.mem_cons_self ..)
        · exact (induction later).imp_right (List.mem_cons_of_mem _)

omit [DecidableEq κ] in
theorem mem_of_mem_foldl_insert {entries : List (κ × α)} {table : Table κ α}
    {entry : κ × α} (member : entry ∈
      (entries.foldl (fun table entry => table.insert entry.1 entry.2)
        table).toList) :
    entry ∈ entries ∨ entry ∈ table.toList := by
  induction entries generalizing table with
  | nil => exact .inr member
  | cons head rest induction =>
      rcases induction member with later | early
      · exact .inl (List.mem_cons_of_mem _ later)
      · rcases mem_of_mem_place early with rfl | held
        · exact .inl (List.mem_cons_self ..)
        · exact .inr held

omit [DecidableEq κ] in
/-- A table of a list has only entries of the list. -/
theorem mem_of_mem_ofList {entries : List (κ × α)} {entry : κ × α}
    (member : entry ∈ (ofList entries).toList) : entry ∈ entries := by
  rcases mem_of_mem_foldl_insert member with given | absent
  · exact given
  · cases absent

end Table

namespace Names

theorem contains_foldl_insert (names : List String) (set : Names)
    (name : String) :
    ((names.map fun name => (name, ())).foldl
        (fun table entry => table.insert entry.1 entry.2) set).contains name =
      (names.contains name || set.contains name) := by
  induction names generalizing set with
  | nil => simp
  | cons first rest induction =>
      rw [List.map_cons, List.foldl_cons, induction]
      by_cases same : name = first
      · subst same
        simp [Table.contains]
      · simp [Table.contains, Table.find?_insert_of_ne set () same, same]

theorem contains_ofList (names : List String) (name : String) :
    (ofList names).contains name = names.contains name := by
  have members := contains_foldl_insert names Table.empty name
  have absent : Table.contains (Table.empty : Names) name = false := rfl
  rw [absent, Bool.or_false] at members
  exact members

theorem size_ofList_le (names : List String) :
    (ofList names).size ≤ names.length := by
  have listed : (ofList names).keys ⊆ names := by
    intro name member
    rw [Table.mem_keys_iff, contains_ofList] at member
    exact List.contains_iff_mem.mp member
  have counted :=
    (List.subperm_of_subset (ofList names).keys_nodup listed).length_le
  rwa [Table.keys, List.length_map] at counted

theorem contains_union (left right : Names) (name : String) :
    (left.union right).contains name =
      (left.contains name || right.contains name) := by
  rw [union, Table.contains, Table.find?_mergeWith, Table.contains,
    Table.contains]
  cases left.find? name with
  | none => simp
  | some held => cases right.find? name <;> rfl

end Names

end TaskSieve
