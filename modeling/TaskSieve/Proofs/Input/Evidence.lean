import TaskSieve.Evidence
import TaskSieve.Proofs.Binary64.Number
import TaskSieve.Proofs.Binary64.Whole
import TaskSieve.Proofs.Datum.Fields

/-!
# The canonical form of evidence

Evidence is read back as it was written, and its confidences are finite if they
come from JSON.  Fields that are null or missing are empty, and groups that are
only listed have confidence 1.
-/

namespace TaskSieve

open Datum Decoder

namespace Evidence

variable {value : Datum} {evidence : Evidence}

theorem table_real (table : Table String Binary64) :
    Decoder.table real (ofTable .real table) = some table :=
  table_ofTable fun entry _ => real_real entry.2

theorem decode_encode (evidence : Evidence) :
    decode evidence.encode = some evidence := by
  obtain ⟨fields, given, tasks, groups, reducedTasks, known⟩ : ∃ fields,
      fieldsOf names evidence.encode = some fields ∧
      lastField? "tasks" fields = some (ofTable .real evidence.tasks) ∧
      lastField? "groups" fields = some (ofTable .real evidence.groups) ∧
      lastField? "reduced_tasks" fields =
        some (ofTable .real evidence.reducedTasks) ∧
      lastField? "known_tasks" fields = some (ofNames evidence.known.keys) :=
    ⟨_, fieldsOf_record (.refl _) (by decide), rfl, rfl, rfl, rfl⟩
  have confidences (table : Table String Binary64) :
      orDefault ∅ (Decoder.table real) (ofTable .real table) = some table :=
    orDefault_of_decoded nofun (table_real table)
  have groupsRead : decodeGroups (ofTable .real evidence.groups) =
      some evidence.groups :=
    table_real evidence.groups
  have knownRead : orDefault ∅ Decoder.names (ofNames evidence.known.keys) =
      some evidence.known :=
    orDefault_of_decoded nofun (names_keys evidence.known)
  simp [decode, given, withDefault, tasks, groups, reducedTasks, known,
    confidences, groupsRead, knownRead]

/-- Numbers that JSON has a form for are read as finite ones. -/
theorem isFinite_of_real {number : Binary64} (json : value.isJson = true)
    (read : real value = some number) : number.isFinite = true := by
  cases value with
  | real given =>
      cases read
      exact json
  | int given =>
      cases read
      apply Binary64.isFinite_ofInt
      simp only [isJson, Word.isSigned, Word.isUnsigned, Bool.or_eq_true,
        Bool.and_eq_true, decide_eq_true_eq] at json
      simp only [Word.signedLimit, Word.count] at json ⊢
      omega
  | _ => cases read

theorem isFinite_of_table {table : Table String Binary64}
    (json : value.isJson = true)
    (read : Decoder.table real value = some table) :
    ∀ entry ∈ table.toList, entry.2.isFinite = true := by
  intro entry member
  obtain ⟨fields, given, rfl, there, givenRead⟩ :=
    exists_of_mem_table read member
  exact isFinite_of_real (haveJson_iff.mp json _ there) givenRead

theorem isFinite_of_decodeGroups {table : Table String Binary64}
    (json : value.isJson = true) (read : decodeGroups value = some table) :
    ∀ entry ∈ table.toList, entry.2.isFinite = true := by
  cases value with
  | null =>
      cases read
      nofun
  | list items =>
      simp only [decodeGroups, Option.bind_eq_bind, Option.bind_eq_some_iff]
          at read
      obtain ⟨listed, -, built⟩ := read
      cases built
      intro entry member
      obtain ⟨name, -, rfl⟩ := List.mem_map.mp (Table.mem_of_mem_ofList member)
      exact decide_eq_true Binary64.one_lt_infinite
  | _ => exact isFinite_of_table json read

/-- Confidences that are read from JSON are finite. -/
theorem finite_of_decode (json : value.isJson = true)
    (read : decode value = some evidence) :
    (∀ entry ∈ evidence.tasks.toList, entry.2.isFinite = true) ∧
      (∀ entry ∈ evidence.groups.toList, entry.2.isFinite = true) ∧
      ∀ entry ∈ evidence.reducedTasks.toList, entry.2.isFinite = true := by
  simp only [decode, Option.bind_eq_bind, Option.bind_eq_some_iff] at read
  obtain ⟨fields, given, tasks, tasksRead, groups, groupsRead, reducedTasks,
    reducedRead, known, -, built⟩ := read
  cases built
  have fieldsJson := haveJson_of_fieldsOf json given
  have confidences {name : String} {table : Table String Binary64}
      (tableRead : withDefault fields name ∅
        (orDefault ∅ (Decoder.table real)) = some table) :
      ∀ entry ∈ table.toList, entry.2.isFinite = true := by
    obtain ⟨given, there, givenRead⟩ | ⟨-, rfl⟩ := withDefault_cases tableRead
    · rcases orDefault_cases givenRead with given | rfl
      · exact isFinite_of_table (isJson_of_lastField? fieldsJson there) given
      · nofun
    · nofun
  refine ⟨confidences tasksRead, ?_, confidences reducedRead⟩
  obtain ⟨given, there, givenRead⟩ | ⟨-, rfl⟩ := withDefault_cases groupsRead
  · exact isFinite_of_decodeGroups (isJson_of_lastField? fieldsJson there)
      givenRead
  · nofun

theorem hasCanonicalForm : HasCanonicalForm decode encode := by
  intro value evidence read
  refine ⟨decode_encode evidence, fun json => ?_⟩
  obtain ⟨tasks, groups, reducedTasks⟩ := finite_of_decode json read
  have written {table : Table String Binary64}
      (finite : ∀ entry ∈ table.toList, entry.2.isFinite = true) :
      (ofTable .real table).isJson = true := isJson_ofTable finite
  simp [encode, haveJson, written tasks, written groups, written reducedTasks]

/-- The confidences of groups that are only listed. -/
def listed (groups : List String) : Table String Binary64 :=
  Table.ofList (groups.map fun group => (group, Binary64.one))

theorem find?_listed (groups : List String) (group : String) :
    (listed groups).find? group = if group ∈ groups then
      some Binary64.one else none := by
  rw [listed, Table.find?_ofList]
  cases found : (groups.map fun group => (group, Binary64.one)).reverse.find?
      fun entry => entry.1 = group with
  | none =>
      have absent : group ∉ groups := by
        intro there
        simp only [List.find?_eq_none, List.mem_reverse, List.mem_map,
          decide_eq_true_eq] at found
        exact found (group, Binary64.one) ⟨group, there, rfl⟩ rfl
      rw [if_neg absent]
      rfl
  | some entry =>
      have same : entry.1 = group := by simpa using List.find?_some found
      have member := List.mem_reverse.mp (List.mem_of_find?_eq_some found)
      obtain ⟨name, there, rfl⟩ := List.mem_map.mp member
      rw [if_pos (same ▸ there)]
      rfl

/-- A list of groups is read like the record of their confidences. -/
theorem readsAlike_listed (groups : List String) :
    ReadsAlike decode "groups" (ofNames groups)
      (ofTable .real (listed groups)) := by
  intro before after absent
  have list : decodeGroups (ofNames groups) = some (listed groups) := by
    have texts : (groups.map Datum.text).mapM text = some groups :=
      list_ofNames groups
    rw [ofNames, decodeGroups, texts]
    rfl
  have table : decodeGroups (ofTable .real (listed groups)) =
      some (listed groups) :=
    table_real (listed groups)
  have declared : "groups" ∈ names := by decide
  obtain ⟨refused, -⟩ | ⟨front, back, others, given, -⟩ :=
    fieldsOf_inserted absent declared
  · simp only [decode, refused]
  · simp only [decode, given, Option.bind_eq_bind, Option.bind_some,
      withDefault_inserted others, list, table, withDefault_inserted_of_ne,
      ne_eq, String.reduceEq, not_false_eq_true]

/-- A field that is null or written as empty is read as if it was missing. -/
theorem decode_inserted {name : String} {value : Datum}
    (declared : name ∈ names)
    (empty : value = .null ∨ ({} : Evidence).encode.field? name = some value)
    {before after : List (String × Datum)}
    (absent : ∀ field ∈ before ++ after, field.1 ≠ name) :
    decode (.record (before ++ (name, value) :: after)) =
      decode (.record (before ++ after)) := by
  obtain ⟨refused, alsoRefused⟩ | ⟨front, back, others, given, missing⟩ :=
    fieldsOf_inserted absent declared
  · simp only [decode, refused, alsoRefused]
  · have confidences : value = .null ∨ Datum.record [] = value →
        orDefault ∅ (Decoder.table real) value = some ∅ := by
      rintro (rfl | rfl) <;> rfl
    have groups : value = .null ∨ Datum.record [] = value →
        decodeGroups value = some ∅ := by
      rintro (rfl | rfl) <;> rfl
    have known : value = .null ∨ Datum.list [] = value →
        orDefault ∅ Decoder.names value = some ∅ := by
      rintro (rfl | rfl) <;> rfl
    simp only [names, List.mem_cons, List.not_mem_nil, or_false] at declared
    simp only [decode, given, missing, Option.bind_eq_bind, Option.bind_some]
    -- Each field has its own way of being empty; all else is the same for the
    -- four of them.
    rcases declared with rfl | rfl | rfl | rfl
    on_goal 1 => have nothing := confidences (empty.imp_right Option.some.inj)
    on_goal 2 => have nothing := groups (empty.imp_right Option.some.inj)
    on_goal 3 => have nothing := confidences (empty.imp_right Option.some.inj)
    on_goal 4 => have nothing := known (empty.imp_right Option.some.inj)
    all_goals
      simp only [withDefault_inserted others, withDefault_absent others,
        nothing, withDefault_inserted_of_ne, ne_eq, String.reduceEq,
        not_false_eq_true]

theorem readsMissing {name : String} (declared : name ∈ names) {empty : Datum}
    (written : ({} : Evidence).encode.field? name = some empty) :
    ReadsMissing decode name empty := fun _ _ absent =>
  (decode_inserted declared (.inr written) absent).symm

theorem readsAlike_null {name : String} (declared : name ∈ names)
    {empty : Datum}
    (written : ({} : Evidence).encode.field? name = some empty) :
    ReadsAlike decode name .null empty := by
  intro before after absent
  rw [decode_inserted declared (.inl rfl) absent,
    decode_inserted declared (.inr written) absent]

end Evidence

end TaskSieve
