import TaskSieve.Proofs.Input.Evidence
import TaskSieve.Proofs.Input.Pushes
import TaskSieve.Proofs.Input.Tasks

/-!
# The canonical form of what is read

Tasks, pushes and evidence are read in several forms and written in one.  What
was read and is written is read as the same again, and then it is written as
the same.  An extra attribute of a task keeps its value, and what a form leaves
out or abbreviates means the same as if it was written out.
-/

namespace TaskSieve

open Datum Decoder

/-- Tasks, pushes and evidence have canonical forms.  What is said about an
attribute of a task that is not known by name stays the same and is written
again; no known attribute is ever an extra one.  Evidence fields that are
missing or null are empty, groups that are only listed have confidence 1,
however often they are listed, and an id may be given as its decimal text,
between any blanks. -/
theorem input_has_canonicalForms (levels : Nat) :
    HasCanonicalForm (Task.decode levels) Task.encode ∧
    HasCanonicalForm Push.decode Push.encode ∧
    HasCanonicalForm Evidence.decode Evidence.encode ∧
    (∀ value task, Task.decode levels value = some task →
      (∀ key ∉ Attributes.names,
        Option.Rel Alike (task.attributes.extra.find? key)
          (Task.attribute? key value) ∧
          Task.attribute? key task.encode = task.attributes.extra.find? key) ∧
      ∀ key ∈ Attributes.names, task.attributes.extra.find? key = none) ∧
    (∀ name ∈ Evidence.names, ∀ empty, ({} : Evidence).encode.field? name =
      some empty →
      ReadsMissing Evidence.decode name empty ∧
      ReadsAlike Evidence.decode name .null empty) ∧
    (∀ groups,
      ReadsAlike Evidence.decode "groups" (ofNames groups)
        (ofTable .real (Evidence.listed groups)) ∧
      ∀ group, (Evidence.listed groups).find? group =
        if group ∈ groups then some Binary64.one else none) ∧
    (∀ text id, Push.decodeId (.text text) = some id →
      ReadsAlike Push.decode "pushlog_id" (.text text) (.int id)) ∧
    (∀ id, Word.isSigned id = true → ∀ left right : List Char,
      (∀ character ∈ left ++ right, Text.isBlank character = true) →
      Push.decodeId
        (.text (String.ofList (left ++ (toString id).toList ++ right))) =
        some id) := by
  refine ⟨Task.hasCanonicalForm levels, Push.hasCanonicalForm,
    Evidence.hasCanonicalForm, ?_, ?_, fun groups =>
      ⟨Evidence.readsAlike_listed groups, Evidence.find?_listed groups⟩,
    fun text id stands => Push.readsAlike_id stands, ?_⟩
  · intro value task read
    refine ⟨fun key unknown => ?_,
      fun key known => Task.find?_extra_of_mem read known⟩
    exact ⟨Task.alike_extra_of_decode read unknown,
      Task.attribute?_encode task unknown⟩
  · intro name declared empty written
    exact ⟨Evidence.readsMissing declared written,
      Evidence.readsAlike_null declared written⟩
  · intro id isSigned left right blank
    exact Push.decodeId_toString isSigned
      (fun character member => blank character (List.mem_append_left _ member))
      fun character member => blank character (List.mem_append_right _ member)

/-- A task with a known and an extra attribute, in JSON. -/
theorem input_has_canonicalForms_of_extra_attribute :
    let value : Datum := .record [
      ("label", .text "test-linux"),
      ("attributes", .record [("e10s", .bool false), ("tier", .int 2)])]
    ∃ task, Task.decode 127 value = some task ∧
      Task.decode 127 task.encode = some task ∧ task.encode.isJson = true ∧
      task.attributes.extra.find? "tier" = some (.int 2) ∧
      task.attributes.extra.find? "e10s" = none := by
  intro value
  obtain ⟨task, read⟩ : ∃ task, Task.decode 127 value = some task :=
    Option.isSome_iff_exists.mp (by decide)
  obtain ⟨canonical, -, -, extra, -⟩ := input_has_canonicalForms 127
  obtain ⟨again, json⟩ := canonical value task read
  obtain ⟨kept, known⟩ := extra value task read
  have tier :
      Option.Rel Alike (task.attributes.extra.find? "tier") (some (.int 2)) :=
    (kept "tier" (by decide)).1
  refine ⟨task, read, again, json (by decide), ?_, known "e10s" (by decide)⟩
  generalize task.attributes.extra.find? "tier" = held at tier ⊢
  cases tier with
  | some alike =>
      cases alike
      rfl

end TaskSieve
