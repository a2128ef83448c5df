import TaskSieve.Proofs.Datum.Fields
import TaskSieve.Proofs.Decimal
import TaskSieve.Push

/-!
# The canonical form of a push

The numbers of a push fit their words, so that they are read as they were
written.  The id may also be a text, which is read like the number it stands
for.
-/

namespace TaskSieve

open Datum Decoder

namespace Push

variable {value : Datum} {push : Push}

theorem isSigned_of_decodeId {id : Int} (read : decodeId value = some id) :
    Word.isSigned id = true := by
  cases value with
  | int number =>
      rw [decodeId] at read
      split at read
      · next isSigned =>
          cases read
          exact isSigned
      · cases read
  | text text =>
      simp only [decodeId, Decimal.signed?, Option.bind_eq_bind,
        Option.bind_eq_some_iff] at read
      obtain ⟨number, -, checked⟩ := read
      split at checked
      · next isSigned =>
          cases checked
          exact isSigned
      · cases checked
  | _ => cases read

theorem decodeId_int {id : Int} (isSigned : Word.isSigned id = true) :
    decodeId (.int id) = some id := by
  rw [decodeId, if_pos isSigned]

theorem words_of_decode (read : decode value = some push) :
    Word.isSigned push.id = true ∧ Word.isSigned push.date = true := by
  simp only [decode, Option.bind_eq_bind, Option.bind_eq_some_iff] at read
  obtain ⟨fields, given, branch, -, repository, -, revision, -, project,
    -, id, idRead, date, dateRead, backstop, -, built⟩ := read
  cases built
  obtain ⟨written, -, idRead⟩ := required_cases idRead
  refine ⟨isSigned_of_decodeId idRead, ?_⟩
  obtain ⟨written, -, dateRead⟩ | ⟨-, rfl⟩ := withDefault_cases dateRead
  · exact isSigned_of_signed dateRead
  · have zero : Word.isSigned 0 = true := by decide
    exact zero

theorem decode_encode (id : Word.isSigned push.id = true)
    (date : Word.isSigned push.date = true) :
    decode push.encode = some push := by
  obtain ⟨fields, given, branch, repository, revision, project, idGiven,
      dateGiven, backstop⟩ :
      ∃ fields, fieldsOf names push.encode = some fields ∧
        lastField? "branch" fields = some (.text push.branch) ∧
        lastField? "head_repository" fields = some (.text push.repository) ∧
        lastField? "head_rev" fields = some (.text push.revision) ∧
        lastField? "project" fields = some (.text push.project) ∧
        lastField? "pushlog_id" fields = some (.int push.id) ∧
        lastField? "pushdate" fields = some (.int push.date) ∧
        lastField? "backstop" fields = some (.bool push.backstop) :=
    ⟨_, fieldsOf_record (.refl _) (by decide), rfl, rfl, rfl, rfl, rfl,
      rfl, rfl⟩
  simp [decode, given, required, withDefault, branch, repository, revision,
    project, idGiven, decodeId_int id, dateGiven, signed_int date, backstop]

theorem hasCanonicalForm : HasCanonicalForm decode encode := by
  intro value push read
  obtain ⟨id, date⟩ := words_of_decode read
  refine ⟨decode_encode id date, fun _ => ?_⟩
  simp [encode, haveJson, isJson_signed id, isJson_signed date]

/-- The decimal text of an id, also between blank characters, stands for the
id. -/
theorem decodeId_toString {id : Int} (isSigned : Word.isSigned id = true)
    {left right : List Char}
    (blankLeft : ∀ character ∈ left, Text.isBlank character = true)
    (blankRight : ∀ character ∈ right, Text.isBlank character = true) :
    decodeId (.text (String.ofList (left ++ (toString id).toList ++ right))) =
      some id := by
  rw [decodeId, String.toList_ofList,
    Decimal.signed?_trimList_toString isSigned blankLeft blankRight]

/-- A text that stands for an id is read like the id. -/
theorem readsAlike_id {text : String} {id : Int}
    (stands : decodeId (.text text) = some id) :
    ReadsAlike decode "pushlog_id" (.text text) (.int id) := by
  intro before after absent
  have number : decodeId (.int id) = some id :=
    decodeId_int (isSigned_of_decodeId stands)
  have declared : "pushlog_id" ∈ names := by decide
  obtain ⟨refused, -⟩ | ⟨front, back, others, given, -⟩ :=
    fieldsOf_inserted absent declared
  · simp only [decode, refused]
  · simp only [decode, given, Option.bind_eq_bind, Option.bind_some,
      required_inserted others, stands, number, required_inserted_of_ne,
      withDefault_inserted_of_ne, ne_eq, String.reduceEq, not_false_eq_true]

end Push

end TaskSieve
