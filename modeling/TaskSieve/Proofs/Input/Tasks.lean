import TaskSieve.Proofs.Input.Attributes

/-!
# The canonical form of a task

A task may leave out everything but its label.  What was read and is written is
read as the same task again; its extra attributes keep their values, and no
known attribute is ever among them.
-/

namespace TaskSieve

open Datum Decoder

namespace Task

/-- What a document value says about an attribute of a task. -/
def attribute? (key : String) (value : Datum) : Option Datum :=
  ((fieldsOf names value).bind (lastField? "attributes")).bind (field? key)

variable {levels : Nat} {value : Datum} {task : Task}

/-- A task has the attributes that it was given, or none. -/
theorem attributes_of_decode (read : decode levels value = some task) :
    ∃ fields, fieldsOf names value = some fields ∧
      ((∃ given, lastField? "attributes" fields = some given ∧
          Attributes.decode (levels - 2) given = some task.attributes) ∨
        lastField? "attributes" fields = none ∧ task.attributes = {}) := by
  simp only [decode, Option.bind_eq_bind, Option.bind_eq_some_iff] at read
  obtain ⟨fields, given, label, -, kind, -, attributes, attributesRead,
    dependencies, -, softDependencies, -, built⟩ := read
  cases built
  exact ⟨fields, given, withDefault_cases attributesRead⟩

theorem canonical_of_decode (read : decode levels value = some task) :
    task.attributes.Canonical (levels - 2) := by
  obtain ⟨_, _, ⟨_, _, attributesRead⟩ | ⟨_, none⟩⟩ := attributes_of_decode read
  · exact Attributes.canonical_of_decode attributesRead
  · rw [none]
    exact Attributes.canonical_default _

theorem decode_encode (canonical : task.attributes.Canonical (levels - 2)) :
    decode levels task.encode = some task := by
  obtain ⟨fields, given, label, kind, attributes, dependencies,
      softDependencies⟩ : ∃ fields,
      fieldsOf names task.encode = some fields ∧
      lastField? "label" fields = some (.text task.label) ∧
      lastField? "kind" fields = some (.text task.kind) ∧
      lastField? "attributes" fields = some task.attributes.encode ∧
      lastField? "dependencies" fields =
        some (ofTable .text task.dependencies) ∧
      lastField? "soft_dependencies" fields =
        some (ofNames task.softDependencies) :=
    ⟨_, fieldsOf_record (.refl _) (by decide), rfl, rfl, rfl, rfl, rfl⟩
  have dependenciesRead :
      Decoder.table Decoder.text (ofTable .text task.dependencies) =
      some task.dependencies := table_ofTable fun entry _ => text_text entry.2
  simp [decode, given, required, withDefault, label, kind, attributes,
    canonical.decode_encode, dependencies, dependenciesRead, softDependencies]

theorem isJson_encode
    (json : ∀ field ∈ task.attributes.extra.toList, field.2.isJson = true) :
    task.encode.isJson = true := by
  have dependencies : (ofTable .text task.dependencies).isJson = true :=
    isJson_ofTable fun entry _ => isJson_text entry.2
  simp [encode, haveJson, Attributes.isJson_encode json, dependencies]

theorem hasCanonicalForm (levels : Nat) :
    HasCanonicalForm (decode levels) encode := by
  intro value task read
  refine ⟨decode_encode (canonical_of_decode read), ?_⟩
  intro json
  apply isJson_encode
  obtain ⟨fields, given, ⟨attributes, there, attributesRead⟩ | ⟨_, none⟩⟩ :=
    attributes_of_decode read
  · have attributesJson :=
      isJson_of_lastField? (haveJson_of_fieldsOf json given) there
    exact Attributes.isJson_extra_of_decode attributesJson attributesRead
  · rw [none]
    nofun

theorem find?_extra_of_decode (read : decode levels value = some task)
    {key : String} (unknown : key ∉ Attributes.names) :
    task.attributes.extra.find? key = (attribute? key value).map settle := by
  obtain ⟨fields, given,
      ⟨attributes, there, attributesRead⟩ | ⟨absent, none⟩⟩ :=
    attributes_of_decode read
  · cases attributes with
    | record attributes =>
        rw [(Attributes.extra_of_decode attributesRead).1,
          Attributes.find?_extraOf _ unknown, attribute?, given,
          Option.bind_some, there, Option.bind_some, field?]
    | _ => cases attributesRead
  · rw [none, attribute?, given, Option.bind_some, absent]
    rfl

/-- An extra attribute says what it was told to. -/
theorem alike_extra_of_decode (read : decode levels value = some task)
    {key : String} (unknown : key ∉ Attributes.names) :
    Option.Rel Alike (task.attributes.extra.find? key)
      (attribute? key value) := by
  rw [find?_extra_of_decode read unknown]
  cases attribute? key value with
  | none => exact .none
  | some given => exact .some (alike_settle given)

theorem find?_extra_of_mem (read : decode levels value = some task)
    {key : String} (known : key ∈ Attributes.names) :
    task.attributes.extra.find? key = none :=
  (canonical_of_decode read).find?_extra known

theorem attribute?_encode (task : Task) {key : String}
    (unknown : key ∉ Attributes.names) :
    attribute? key task.encode = task.attributes.extra.find? key := by
  obtain ⟨fields, given, attributes⟩ :
      ∃ fields, fieldsOf names task.encode = some fields ∧
      lastField? "attributes" fields = some task.attributes.encode :=
    ⟨_, fieldsOf_record (.refl _) (by decide), rfl⟩
  rw [attribute?, given, Option.bind_some, attributes, Option.bind_some,
    Attributes.field?_encode _ unknown]

end Task

end TaskSieve
