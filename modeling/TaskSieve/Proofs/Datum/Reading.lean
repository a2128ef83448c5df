import Mathlib.Data.List.Nodup
import TaskSieve.Datum.Decode
import TaskSieve.Proofs.Datum.Json
import TaskSieve.Proofs.Table

/-!
# Reading back what was written

Each decoder reads back what is written for a value of its type.  A record that
lists some of its declared fields, each once and in their order, gives exactly
these fields.
-/

namespace TaskSieve

namespace Decoder

/-- What is accepted has a canonical form: written down it is read as the same
again, and it is written in JSON if it was read from JSON. -/
def HasCanonicalForm {α : Type} (decode : Decoder α) (encode : α → Datum) :
    Prop :=
  ∀ value decoded, decode value = some decoded →
    decode (encode decoded) = some decoded ∧
      (value.isJson = true → (encode decoded).isJson = true)

variable {α : Type} {decode : Decoder α} {encode : α → Datum}

@[simp] theorem text_text (value : String) :
    text (.text value) = some value := rfl

@[simp] theorem bool_bool (value : Bool) :
    bool (.bool value) = some value := rfl

@[simp] theorem real_real (value : Binary64) :
    real (.real value) = some value := rfl

theorem signed_int {value : Int} (isSigned : Word.isSigned value = true) :
    signed (.int value) = some value := by
  rw [signed, if_pos isSigned]

theorem unsigned_int {value : Nat} (small : value < Word.count) :
    unsigned (.int value) = some value := by
  rw [unsigned, if_pos (Word.isUnsigned_natCast small), Int.toNat_natCast]

theorem word_int (value : UInt64) : word (.int value.toNat) = some value := by
  rw [word, unsigned_int (Word.toNat_lt_count value), Option.map_some,
    UInt64.ofNat_toNat]

theorem mapM_map {β : Type} {read : β → Option α} {write : α → β}
    {items : List α} (reads : ∀ item ∈ items, read (write item) = some item) :
    (items.map write).mapM read = some items := by
  induction items with
  | nil => rfl
  | cons item rest induction =>
      have later := induction fun other member =>
        reads other (List.mem_cons_of_mem _ member)
      rw [List.map_cons, List.mapM_cons,
        reads item (List.mem_cons_self ..), later]
      rfl

/-- Whatever is read from a list is read from one of its items. -/
theorem exists_of_mem_mapM {β : Type} {read : β → Option α} {items : List β}
    {values : List α} (reads : items.mapM read = some values) :
    ∀ value ∈ values, ∃ item ∈ items, read item = some value := by
  induction items generalizing values with
  | nil =>
      cases reads
      nofun
  | cons item rest induction =>
      simp only [List.mapM_cons, Option.bind_eq_bind, Option.bind_eq_some_iff]
          at reads
      obtain ⟨first, here, others, later, built⟩ := reads
      cases built
      intro value member
      rcases List.mem_cons.mp member with rfl | inOthers
      · exact ⟨item, List.mem_cons_self .., here⟩
      · obtain ⟨other, there, same⟩ := induction later value inOthers
        exact ⟨other, List.mem_cons_of_mem _ there, same⟩

theorem list_map {items : List α}
    (reads : ∀ item ∈ items, decode (encode item) = some item) :
    list decode (.list (items.map encode)) = some items :=
  mapM_map reads

@[simp] theorem list_ofNames (names : List String) :
    list text (Datum.ofNames names) = some names :=
  list_map fun name _ => text_text name

theorem optional_ofOption {value : Option α}
    (reads : ∀ held, encode held ≠ .null ∧ decode (encode held) = some held) :
    optional decode (Datum.ofOption encode value) = some value := by
  cases value with
  | none => rfl
  | some held =>
      obtain ⟨notNull, same⟩ := reads held
      rw [Datum.ofOption, optional, same]
      · rfl
      · exact notNull

@[simp] theorem optional_text (value : Option String) :
    optional text (Datum.ofOption .text value) = some value :=
  optional_ofOption fun held => ⟨nofun, text_text held⟩

@[simp] theorem optional_names (value : Option (List String)) :
    optional (list text) (Datum.ofOption Datum.ofNames value) = some value :=
  optional_ofOption fun held => ⟨nofun, list_ofNames held⟩

theorem table_ofTable {table : Table String α}
    (reads : ∀ entry ∈ table.toList, decode (encode entry.2) = some entry.2) :
    Decoder.table decode (Datum.ofTable encode table) = some table := by
  have fields : (table.toList.map fun entry => (entry.1, encode entry.2)).mapM
      (fun field => (decode field.2).map fun value => (field.1, value)) =
        some table.toList :=
    mapM_map fun entry member => by rw [reads entry member]; rfl
  rw [Datum.ofTable, Decoder.table, fields, Option.map_some,
    Table.ofList_toList]

@[simp] theorem names_keys (set : Names) :
    names (Datum.ofNames set.keys) = some set := by
  have entries : (set.keys.map fun name => (name, ())) = set.toList := by
    rw [Table.keys, List.map_map]
    exact List.map_id _
  rw [names, list_ofNames, Option.map_some, Names.ofList, entries,
    Table.ofList_toList]

theorem orDefault_of_decoded {value : Datum} {default decoded : α}
    (notNull : value ≠ .null) (decodes : decode value = some decoded) :
    orDefault default decode value = some decoded := by
  rw [orDefault, optional, decodes]
  · rfl
  · exact notNull

section Fields

variable {known : List String} {fields : List (String × Datum)}

theorem repeats_eq_any_count :
    repeats known fields = known.any fun name =>
      decide (1 < (fields.map (·.1)).count name) := by
  rw [repeats]
  apply List.any_congr rfl
  intro name
  rw [List.count, List.countP_map, List.countP_eq_length_filter]
  rfl

theorem repeats_eq_false (distinct : (fields.map (·.1)).Nodup) :
    repeats known fields = false := by
  rw [repeats_eq_any_count, List.any_eq_false]
  intro name _
  rw [decide_eq_true_eq, Nat.not_lt]
  exact List.nodup_iff_count_le_one.mp distinct name

/-- A record that lists some of its declared fields in their order gives exactly
these. -/
theorem fieldsOf_record (declared : (fields.map (·.1)).Sublist known)
    (distinct : known.Nodup) :
    fieldsOf known (.record fields) = some fields := by
  have all : (fields.filter fun field => known.contains field.1) = fields := by
    rw [List.filter_eq_self]
    intro field member
    exact List.contains_iff_mem.mpr
      (declared.subset (List.mem_map_of_mem member))
  rw [fieldsOf, repeats_eq_false (distinct.sublist declared), all]
  rfl

end Fields

end Decoder

end TaskSieve
