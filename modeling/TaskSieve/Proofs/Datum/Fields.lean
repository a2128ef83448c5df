import TaskSieve.Proofs.Datum.Reading

/-!
# The fields that a record is read from

A declared field is read from where it stands, and the other fields do not
notice it.  What is read from a JSON value is read from JSON values.
-/

namespace TaskSieve

namespace Datum

variable {name : String} {fields later : List (String × Datum)} {value : Datum}

theorem lastField?_append (earlier later : List (String × Datum)) :
    lastField? name (earlier ++ later) =
      (lastField? name later).or (lastField? name earlier) := by
  rw [lastField?, lastField?, lastField?, List.reverse_append,
    List.find?_append, Option.map_or]

theorem lastField?_singleton (key : String) :
    lastField? name [(key, value)] = if key = name then
      some value else none := by
  by_cases same : key = name <;> simp [lastField?, same]

theorem lastField?_cons (key : String) :
    lastField? name ((key, value) :: later) =
      (lastField? name later).or (if key = name then some value else none) := by
  rw [← lastField?_singleton]
  exact lastField?_append [(key, value)] later

theorem mem_of_lastField? (found : lastField? name fields = some value) :
    (name, value) ∈ fields := by
  obtain ⟨⟨key, held⟩, there, rfl⟩ := Option.map_eq_some_iff.mp found
  have same : key = name := by simpa using List.find?_some there
  subst same
  exact List.mem_reverse.mp (List.mem_of_find?_eq_some there)

theorem lastField?_eq_none (absent : ∀ field ∈ fields, field.1 ≠ name) :
    lastField? name fields = none := by
  cases found : lastField? name fields with
  | none => rfl
  | some value => exact (absent _ (mem_of_lastField? found) rfl).elim

theorem lastField?_filter (test : String → Bool) (kept : test name = true) :
    lastField? name (fields.filter fun field => test field.1) =
      lastField? name fields := by
  induction fields with
  | nil => rfl
  | cons field rest induction =>
      obtain ⟨key, held⟩ := field
      rw [List.filter_cons]
      by_cases passes : test key = true
      · rw [if_pos passes, lastField?_cons, induction, lastField?_cons]
      · have different : key ≠ name := by
          rintro rfl
          exact passes kept
        rw [if_neg passes, induction, lastField?_cons, if_neg different,
          Option.or_none]

theorem isJson_of_lastField? (json : haveJson fields = true)
    (found : lastField? name fields = some value) : value.isJson = true :=
  haveJson_iff.mp json _ (mem_of_lastField? found)

end Datum

namespace Decoder

open Datum

variable {α : Type} {known : List String} {name : String} {value : Datum}
  {fields before after : List (String × Datum)} {decode : Decoder α}
  {default decoded : α}

theorem haveJson_of_fieldsOf (json : value.isJson = true)
    (given : fieldsOf known value = some fields) : haveJson fields = true := by
  rw [haveJson_iff]
  intro field member
  cases value with
  | record all =>
      rw [fieldsOf] at given
      split at given
      · cases given
      · cases given
        exact haveJson_iff.mp json field (List.mem_of_mem_filter member)
  | list items =>
      rw [fieldsOf] at given
      split at given
      · cases given
        exact areJson_iff.mp json field.2 (List.of_mem_zip member).2
      · cases given
  | null => cases given
  | bool => cases given
  | int => cases given
  | real => cases given
  | text => cases given
  | mapping => cases given
  | unreadable => cases given

/-- What is read from a field is read from its value, or it is the default. -/
theorem withDefault_cases
    (read : withDefault fields name default decode = some decoded) :
    (∃ value, lastField? name fields = some value ∧
      decode value = some decoded) ∨
      lastField? name fields = none ∧ decoded = default := by
  rw [withDefault] at read
  split at read
  · next value found => exact .inl ⟨value, found, read⟩
  · next absent => exact .inr ⟨absent, (Option.some.inj read).symm⟩

theorem isSigned_of_signed {number : Int} (read : signed value = some number) :
    Word.isSigned number = true := by
  cases value with
  | int given =>
      rw [signed] at read
      split at read
      · next isSigned =>
          cases read
          exact isSigned
      · cases read
  | _ => cases read

/-- Each value of a table that is read is read from the value of a field with
its key. -/
theorem exists_of_mem_table {table : Table String α}
    (read : Decoder.table decode value = some table) {entry : String × α}
    (member : entry ∈ table.toList) :
    ∃ fields given, value = .record fields ∧ (entry.1, given) ∈ fields ∧
      decode given = some entry.2 := by
  cases value with
  | record fields =>
      rw [Decoder.table, Option.map_eq_some_iff] at read
      obtain ⟨entries, entriesRead, rfl⟩ := read
      obtain ⟨field, there, fieldRead⟩ :=
        exists_of_mem_mapM entriesRead entry (Table.mem_of_mem_ofList member)
      obtain ⟨held, heldRead, rfl⟩ := Option.map_eq_some_iff.mp fieldRead
      exact ⟨fields, field.2, rfl, there, heldRead⟩
  | _ => cases read

theorem orDefault_cases (read : orDefault default decode value = some decoded) :
    decode value = some decoded ∨ decoded = default := by
  rw [orDefault, Option.map_eq_some_iff] at read
  obtain ⟨held, heldRead, rfl⟩ := read
  unfold optional at heldRead
  split at heldRead
  · cases heldRead
    exact .inr rfl
  · obtain ⟨given, givenRead, rfl⟩ := Option.map_eq_some_iff.mp heldRead
    exact .inl givenRead

theorem required_cases (read : required fields name decode = some decoded) :
    ∃ value, lastField? name fields = some value ∧
      decode value = some decoded := by
  rw [required] at read
  split at read
  · next value found => exact ⟨value, found, read⟩
  · cases read

section Inserting

variable (absent : ∀ field ∈ before ++ after, field.1 ≠ name)

include absent

theorem lastField?_inserted (value : Datum) :
    lastField? name (before ++ (name, value) :: after) = some value := by
  have later : lastField? name after = none :=
    lastField?_eq_none fun field member =>
      absent field (List.mem_append_right _ member)
  rw [lastField?_append, lastField?_cons, later, if_pos rfl, Option.none_or,
    Option.some_or]

omit absent in
theorem lastField?_inserted_of_ne {other : String} (different : name ≠ other)
    (value : Datum) :
    lastField? other (before ++ (name, value) :: after) =
      lastField? other (before ++ after) := by
  rw [lastField?_append, lastField?_append, lastField?_cons, if_neg different,
    Option.or_none]

theorem repeats_inserted (value : Datum) :
    repeats known (before ++ (name, value) :: after) =
      repeats known (before ++ after) := by
  have alone : ((before ++ after).map (·.1)).count name = 0 := by
    apply List.count_eq_zero_of_not_mem
    intro member
    obtain ⟨field, there, same⟩ := List.mem_map.mp member
    exact absent field there same
  rw [repeats_eq_any_count, repeats_eq_any_count]
  apply List.any_congr rfl
  intro other
  rw [decide_eq_decide]
  by_cases same : name = other
  · subst same
    simp only [List.map_append, List.map_cons, List.count_append,
      List.count_cons_self] at alone ⊢
    omega
  · simp [List.count_append, List.count_cons_of_ne same]

/-- A record with a declared field and the record without it give the same other
fields, whatever stands in the field. -/
theorem fieldsOf_inserted (declared : name ∈ known) :
    ((∀ value, fieldsOf known (.record (before ++ (name, value) :: after)) =
      none) ∧
        fieldsOf known (.record (before ++ after)) = none) ∨
      ∃ front back, (∀ field ∈ front ++ back, field.1 ≠ name) ∧
        (∀ value, fieldsOf known (.record (before ++ (name, value) :: after)) =
          some (front ++ (name, value) :: back)) ∧
        fieldsOf known (.record (before ++ after)) = some (front ++ back) := by
  simp only [fieldsOf, repeats_inserted absent]
  by_cases repeated : repeats known (before ++ after) = true
  · exact .inl ⟨fun _ => if_pos repeated, if_pos repeated⟩
  · refine .inr ⟨before.filter fun field => known.contains field.1,
      after.filter fun field => known.contains field.1, ?_, ?_, ?_⟩
    · intro field member
      rw [← List.filter_append] at member
      exact absent field (List.mem_of_mem_filter member)
    · intro value
      rw [if_neg repeated, List.filter_append, List.filter_cons,
        if_pos (List.contains_iff_mem.mpr declared)]
    · rw [if_neg repeated, List.filter_append]

theorem withDefault_inserted (value : Datum) :
    withDefault (before ++ (name, value) :: after) name default decode =
      decode value := by
  rw [withDefault, lastField?_inserted absent]

theorem withDefault_absent :
    withDefault (before ++ after) name default decode = some default := by
  rw [withDefault, lastField?_eq_none absent]

theorem required_inserted (value : Datum) :
    required (before ++ (name, value) :: after) name decode = decode value := by
  rw [required, lastField?_inserted absent]

omit absent

theorem withDefault_inserted_of_ne {other : String} (different : name ≠ other)
    (value : Datum) :
    withDefault (before ++ (name, value) :: after) other default decode =
      withDefault (before ++ after) other default decode := by
  rw [withDefault, withDefault, lastField?_inserted_of_ne different]

theorem required_inserted_of_ne {other : String} (different : name ≠ other)
    (value : Datum) :
    required (before ++ (name, value) :: after) other decode =
      required (before ++ after) other decode := by
  rw [required, required, lastField?_inserted_of_ne different]

end Inserting

/-- Two values are read alike when they are given for a field of a record. -/
def ReadsAlike (decode : Decoder α) (name : String) (left right : Datum) :
    Prop :=
  ∀ before after : List (String × Datum),
    (∀ field ∈ before ++ after, field.1 ≠ name) →
    decode (.record (before ++ (name, left) :: after)) =
      decode (.record (before ++ (name, right) :: after))

/-- A record without a field is read as if it had this value. -/
def ReadsMissing (decode : Decoder α) (name : String) (value : Datum) : Prop :=
  ∀ before after : List (String × Datum),
    (∀ field ∈ before ++ after, field.1 ≠ name) →
    decode (.record (before ++ after)) =
      decode (.record (before ++ (name, value) :: after))

end Decoder

end TaskSieve
