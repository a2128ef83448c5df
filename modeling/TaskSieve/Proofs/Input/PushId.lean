import TaskSieve.Proofs.Input.Pushes
import TaskSieve.Proofs.Numeral

/-!
# Which values stand for a push log id

The id of a push is given as a whole number, or as a text that has a numeral
between blank characters.  Such a value is read as the number that it stands
for if that fits a signed word of 64 bits, and no other value is read at all.
Numbers with a fraction or an exponent and the negative zero are floating-point
numbers in a document, not whole ones.
-/

namespace TaskSieve

open Datum Decoder

theorem Word.isSigned_iff {number : Int} :
    isSigned number = true ↔ -2 ^ 63 ≤ number ∧ number ≤ 2 ^ 63 - 1 := by
  rw [isSigned, Bool.and_eq_true, decide_eq_true_iff, decide_eq_true_iff,
    signedLimit]
  norm_num
  omega

namespace Push

variable {value : Datum} {push : Push} {id other : Int}

/-- Whether a value stands for a push log id, whatever its size. -/
inductive StandsFor : Datum → Int → Prop
  | number (id : Int) : StandsFor (.int id) id
  | text {left numeral right : List Char} {id : Int}
      (blankLeft : ∀ character ∈ left, Text.isBlank character = true)
      (writes : Decimal.Writes numeral id)
      (blankRight : ∀ character ∈ right, Text.isBlank character = true) :
      StandsFor (.text (String.ofList (left ++ numeral ++ right))) id

theorem standsFor_text_iff {text : String} :
    StandsFor (.text text) id ↔
      Decimal.Writes (Text.trimList text.toList) id := by
  constructor
  · intro stands
    cases stands with
    | text blankLeft writes blankRight =>
        rw [String.toList_ofList,
          Text.trimList_between blankLeft blankRight writes.solid]
        exact writes
  · intro writes
    obtain ⟨left, right, spelled, blankLeft, blankRight⟩ :=
      Text.exists_trimList text.toList
    have same : String.ofList (left ++ Text.trimList text.toList ++ right) =
        text := by
      rw [← spelled, String.ofList_toList]
    rw [← same]
    exact .text blankLeft writes blankRight

theorem StandsFor.unique (stands : StandsFor value id)
    (again : StandsFor value other) : other = id := by
  cases value with
  | int number =>
      cases stands
      cases again
      rfl
  | text text =>
      exact (standsFor_text_iff.mp stands).unique (standsFor_text_iff.mp again)
  | _ => cases stands

/-- A value is read as the id that it stands for, if that fits its word. -/
theorem decodeId_eq_some_iff :
    decodeId value = some id ↔
      StandsFor value id ∧ Word.isSigned id = true := by
  cases value with
  | int number =>
      constructor
      · intro read
        rw [decodeId] at read
        split at read
        · next fits =>
            cases read
            exact ⟨.number _, fits⟩
        · cases read
      · rintro ⟨stands, fits⟩
        cases stands
        exact decodeId_int fits
  | text text => rw [decodeId, Decimal.signed?_eq_some_iff, standsFor_text_iff]
  | _ =>
      constructor
      · intro read
        cases read
      · rintro ⟨stands, -⟩
        cases stands

theorem decodeId_eq_none (stands : StandsFor value id)
    (outside : Word.isSigned id = false) : decodeId value = none := by
  cases read : decodeId value with
  | none => rfl
  | some other =>
      obtain ⟨standsAgain, fits⟩ := decodeId_eq_some_iff.mp read
      rw [stands.unique standsAgain, outside] at fits
      contradiction

/-- Whether documents differ at most in the value of the id among the fields of
a push. -/
def GivesId (document : Datum → Datum) : Prop :=
  (∀ value, fieldsOf names (document value) = none) ∨
    ∃ front back, (∀ field ∈ front ++ back, field.1 ≠ "pushlog_id") ∧
      ∀ value, fieldsOf names (document value) =
        some (front ++ ("pushlog_id", value) :: back)

theorem repeats_of_mem {known : List String} {name : String}
    {before after : List (String × Datum)} (declared : name ∈ known)
    (again : ∃ field ∈ before ++ after, field.1 = name) (value : Datum) :
    repeats known (before ++ (name, value) :: after) = true := by
  obtain ⟨field, member, same⟩ := again
  have listed : 0 < ((before ++ after).map (·.1)).count name := by
    apply List.count_pos_iff.mpr
    exact List.mem_map.mpr ⟨field, member, same⟩
  rw [repeats_eq_any_count, List.any_eq_true]
  refine ⟨name, declared, decide_eq_true ?_⟩
  simp only [List.map_append, List.map_cons, List.count_append,
    List.count_cons_self] at listed ⊢
  omega

theorem givesId_record (before after : List (String × Datum)) :
    GivesId fun value =>
      .record (before ++ ("pushlog_id", value) :: after) := by
  have declared : "pushlog_id" ∈ names := by decide
  by_cases again : ∃ field ∈ before ++ after, field.1 = "pushlog_id"
  · left
    intro value
    rw [fieldsOf, repeats_of_mem declared again, if_pos rfl]
  · have absent : ∀ field ∈ before ++ after, field.1 ≠ "pushlog_id" := by
      intro field member same
      exact again ⟨field, member, same⟩
    obtain ⟨refused, -⟩ | ⟨front, back, others, given, -⟩ :=
      fieldsOf_inserted absent declared
    · exact .inl refused
    · exact .inr ⟨front, back, others, given⟩

theorem givesId_list (branch repository revision project : Datum)
    (rest : List Datum) :
    GivesId fun value =>
      .list (branch :: repository :: revision :: project :: value :: rest) := by
  by_cases short : rest.length + 5 ≤ names.length
  · right
    refine ⟨[("branch", branch), ("head_repository", repository),
      ("head_rev", revision), ("project", project)],
      ["pushdate", "backstop"].zip rest, ?_, ?_⟩
    · intro field member same
      have known :
          field.1 ∈ ["branch", "head_repository", "head_rev", "project"] ∨
          field.1 ∈ ["pushdate", "backstop"] := by
        rcases List.mem_append.mp member with front | back
        · left
          exact List.mem_map_of_mem (f := Prod.fst) front
        · right
          exact (List.of_mem_zip back).1
      rw [same] at known
      exact absurd known (by decide)
    · intro value
      exact if_pos short
  · left
    intro value
    exact if_neg short

/-- A document is read as if the number that the value of its id stands for was
written there. -/
theorem decode_eq_some_iff {document : Datum → Datum}
    (gives : GivesId document) :
    decode (document value) = some push ↔
      decodeId value = some push.id ∧ decode (document (.int push.id)) =
        some push := by
  obtain refused | ⟨front, back, others, given⟩ := gives
  · simp [decode, refused]
  · simp only [decode, given, Option.bind_eq_bind, Option.bind_some,
      required_inserted others, required_inserted_of_ne,
      withDefault_inserted_of_ne, ne_eq, String.reduceEq, not_false_eq_true,
      Option.bind_eq_some_iff]
    constructor
    · rintro ⟨branch, branchRead, repository, repositoryRead, revision,
        revisionRead, project, projectRead, id, idRead, date, dateRead,
        backstop, backstopRead, built⟩
      cases built
      exact ⟨idRead, branch, branchRead, repository, repositoryRead, revision,
        revisionRead, project, projectRead, id,
        decodeId_int (isSigned_of_decodeId idRead), date, dateRead, backstop,
        backstopRead, rfl⟩
    · rintro ⟨idRead, branch, branchRead, repository, repositoryRead, revision,
        revisionRead, project, projectRead, id, _, date, dateRead, backstop,
        backstopRead, built⟩
      cases built
      exact ⟨branch, branchRead, repository, repositoryRead, revision,
        revisionRead, project, projectRead, id, idRead, date, dateRead,
        backstop, backstopRead, rfl⟩

theorem decode_iff_standsFor {document : Datum → Datum}
    (gives : GivesId document) :
    decode (document value) = some push ↔
      StandsFor value push.id ∧ (-2 ^ 63 ≤ push.id ∧ push.id ≤ 2 ^ 63 - 1) ∧
        decode (document (.int push.id)) = some push := by
  rw [decode_eq_some_iff gives, decodeId_eq_some_iff, Word.isSigned_iff,
    and_assoc]

/-- Exactly those values are read as an id that stand for a signed word of 64
bits, and what is read is the id that they stand for; an id past the limits of a
word is never read, and the decimal text of an id within them always is, between
any blank characters.  So a push is read from a record or a list of its fields
exactly if the value of its id stands for such an id and the push is read when
the plain number is written in its place. -/
theorem id_read_exactly :
    (∀ value id, decodeId value = some id ↔
      StandsFor value id ∧ -2 ^ 63 ≤ id ∧ id ≤ 2 ^ 63 - 1) ∧
    (∀ value id, StandsFor value id → id < -2 ^ 63 ∨ 2 ^ 63 - 1 < id →
      decodeId value = none) ∧
    (∀ id : Int, -2 ^ 63 ≤ id → id ≤ 2 ^ 63 - 1 → ∀ left right : List Char,
      (∀ character ∈ left ++ right, Text.isBlank character = true) →
      decodeId (.text (String.ofList (left ++ (toString id).toList ++ right))) =
        some id) ∧
    (∀ before after value push,
      decode (.record (before ++ ("pushlog_id", value) :: after)) = some push ↔
        StandsFor value push.id ∧ (-2 ^ 63 ≤ push.id ∧ push.id ≤ 2 ^ 63 - 1) ∧
          decode (.record (before ++ ("pushlog_id", .int push.id) :: after)) =
            some push) ∧
    ∀ branch repository revision project value rest push,
      decode
        (.list (branch :: repository :: revision :: project :: value :: rest)) =
        some push ↔
        StandsFor value push.id ∧ (-2 ^ 63 ≤ push.id ∧ push.id ≤ 2 ^ 63 - 1) ∧
          decode (.list (branch :: repository :: revision :: project ::
            .int push.id :: rest)) =
            some push := by
  refine ⟨?_, ?_, ?_, ?_, ?_⟩
  · intro value id
    rw [decodeId_eq_some_iff, Word.isSigned_iff]
  · intro value id stands outside
    apply decodeId_eq_none stands
    rw [Bool.eq_false_iff, ne_eq, Word.isSigned_iff]
    omega
  · intro id lower upper left right blank
    apply decodeId_toString (Word.isSigned_iff.mpr ⟨lower, upper⟩)
    · intro character member
      exact blank character (List.mem_append_left _ member)
    · intro character member
      exact blank character (List.mem_append_right _ member)
  · intro before after value push
    exact decode_iff_standsFor (givesId_record before after)
  · intro branch repository revision project value rest push
    exact decode_iff_standsFor
      (givesId_list branch repository revision project rest)

/-- The least id of a word is read between blanks, and the number after the
greatest one is not, although it is a numeral. -/
theorem id_read_exactly_at_limits :
    (-2 ^ 63 ≤ (-9223372036854775808 : Int) ∧ (-9223372036854775808 : Int) ≤
      2 ^ 63 - 1) ∧
      decodeId (.text (String.ofList
        (['\u00a0'] ++ (toString (-9223372036854775808 : Int)).toList ++
          ['\u3000']))) =
          some (-9223372036854775808) ∧
      StandsFor (.text "+9223372036854775808") 9223372036854775808 ∧
      decodeId (.text "+9223372036854775808") = none := by
  obtain ⟨-, outside, padded, -⟩ := id_read_exactly
  have lower : -2 ^ 63 ≤ (-9223372036854775808 : Int) := by decide
  have upper : (-9223372036854775808 : Int) ≤ 2 ^ 63 - 1 := by decide
  have blank : ∀ character ∈ ['\u00a0'] ++ ['\u3000'], Text.isBlank character =
      true := by
    intro character member
    rcases List.mem_append.mp member with first | last
    · rw [List.mem_singleton.mp first]
      decide
    · rw [List.mem_singleton.mp last]
      decide
  have stands :
      StandsFor (.text "+9223372036854775808") 9223372036854775808 := by
    rw [standsFor_text_iff, ← Decimal.integer?_eq_some_iff]
    decide
  have past : (2 : Int) ^ 63 - 1 < 9223372036854775808 := by decide
  exact ⟨⟨lower, upper⟩, padded _ lower upper _ _ blank, stands,
    outside _ _ stands (.inr past)⟩

end Push

end TaskSieve
