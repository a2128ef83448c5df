import Mathlib.Data.List.Forall2
import TaskSieve.Proofs.Datum.Fields

/-!
# Settled values

Settling a value puts the fields of its records in key order and leaves one of
each name, the last.  The settled value says the same, and it stays as it is
when it is settled again.  Settling nests nothing deeper and makes nothing that
JSON has no form for.
-/

namespace TaskSieve.Datum

/-- Two values say the same: they are equal but for the order of fields, and
where records repeat a name the last field with it counts. -/
inductive Alike : Datum → Datum → Prop where
  | same (value : Datum) : Alike value value
  | list {left right : List Datum} :
      List.Forall₂ Alike left right → Alike (.list left) (.list right)
  | record {left right : List (String × Datum)} :
      (∀ name,
        Option.Rel Alike (lastField? name left) (lastField? name right)) →
      Alike (.record left) (.record right)
  | mapping {left right : List (Datum × Datum)} :
      List.Forall₂ Alike (left.map (·.1)) (right.map (·.1)) →
      List.Forall₂ Alike (left.map (·.2)) (right.map (·.2)) →
      Alike (.mapping left) (.mapping right)

/-- The last value that fields give a name is the one that a table of them
has. -/
theorem find?_ofList_eq_lastField? (fields : List (String × Datum))
    (name : String) :
    (Table.ofList fields).find? name = lastField? name fields := by
  rw [Table.find?_ofList, lastField?]
  rfl

theorem find?_eq_lastField? (table : Table String Datum) (name : String) :
    table.find? name = lastField? name table.toList := by
  rw [← find?_ofList_eq_lastField?, Table.ofList_toList]

theorem fitsFields_iff {levels : Nat} {fields : List (String × Datum)} :
    fitsFields levels fields = true ↔
      ∀ field ∈ fields, field.2.fits levels = true := by
  induction fields with
  | nil => simp [fitsFields]
  | cons field rest induction => simp [fitsFields, induction]

theorem settleFields_eq_map (fields : List (String × Datum)) :
    settleFields fields = fields.map fun field =>
      (field.1, field.2.settle) := by
  induction fields with
  | nil => rfl
  | cons field rest induction => rw [settleFields, induction, List.map_cons]

theorem lastField?_map (name : String) (image : Datum → Datum)
    (fields : List (String × Datum)) :
    lastField? name (fields.map fun field => (field.1, image field.2)) =
      (lastField? name fields).map image := by
  rw [lastField?, lastField?, ← List.map_reverse, List.find?_map,
    Option.map_map, Option.map_map]
  rfl

theorem map_settle {fields : List (String × Datum)}
    (settled : ∀ field ∈ fields, field.2.settle = field.2) :
    (fields.map fun field => (field.1, field.2.settle)) = fields :=
  calc (fields.map fun field => (field.1, field.2.settle))
      = fields.map id :=
        List.map_congr_left fun field member =>
          Prod.ext rfl (settled field member)
    _ = fields := List.map_id _

/-- Fields whose values are settled are left as they are when they come from a
table. -/
theorem settle_table {table : Table String Datum}
    (settled : ∀ field ∈ table.toList, field.2.settle = field.2) :
    (record table.toList).settle = record table.toList := by
  rw [settle, settleFields_eq_map, map_settle settled, Table.ofList_toList]

mutual

/-- A settled value is settled. -/
theorem settle_settle : ∀ value : Datum, value.settle.settle = value.settle
  | .null | .bool _ | .int _ | .real _ | .text _ | .unreadable => rfl
  | .list items => by
      rw [settle, settle, settleItems_settleItems items]
  | .record fields => by
      rw [settle]
      apply settle_table
      intro field member
      exact settle_of_mem_settleFields fields field
        (Table.mem_of_mem_ofList member)
  | .mapping entries => by
      rw [settle, settle, settleEntries_settleEntries entries]

theorem settleItems_settleItems :
    ∀ items : List Datum, settleItems (settleItems items) = settleItems items
  | [] => rfl
  | item :: rest => by
      rw [settleItems, settleItems, settle_settle item,
        settleItems_settleItems rest]

theorem settle_of_mem_settleFields :
    ∀ fields : List (String × Datum), ∀ field ∈ settleFields fields,
      field.2.settle = field.2
  | [] => nofun
  | (name, value) :: rest => by
      intro field member
      rw [settleFields] at member
      rcases List.mem_cons.mp member with rfl | later
      · exact settle_settle value
      · exact settle_of_mem_settleFields rest field later

theorem settleEntries_settleEntries :
    ∀ entries : List (Datum × Datum),
      settleEntries (settleEntries entries) = settleEntries entries
  | [] => rfl
  | (key, value) :: rest => by
      rw [settleEntries, settleEntries, settle_settle key, settle_settle value,
        settleEntries_settleEntries rest]

end

mutual

/-- The settled value says the same. -/
theorem alike_settle : ∀ value : Datum, Alike value.settle value
  | .null | .bool _ | .int _ | .real _ | .text _ | .unreadable => .same _
  | .list items => .list (alike_settleItems items)
  | .record fields => by
      rw [settle]
      refine .record fun name => ?_
      rw [← find?_eq_lastField?, find?_ofList_eq_lastField?,
        settleFields_eq_map, lastField?_map]
      cases found : lastField? name fields with
      | none => exact .none
      | some value =>
          exact .some (alike_of_mem fields _ (mem_of_lastField? found))
  | .mapping entries =>
      have ⟨keys, values⟩ := alike_settleEntries entries
      .mapping keys values

theorem alike_settleItems :
    ∀ items : List Datum, List.Forall₂ Alike (settleItems items) items
  | [] => .nil
  | item :: rest => .cons (alike_settle item) (alike_settleItems rest)

theorem alike_of_mem :
    ∀ fields : List (String × Datum),
      ∀ field ∈ fields, Alike field.2.settle field.2
  | [] => nofun
  | (name, value) :: rest => by
      intro field member
      rcases List.mem_cons.mp member with rfl | later
      · exact alike_settle value
      · exact alike_of_mem rest field later

theorem alike_settleEntries : ∀ entries : List (Datum × Datum),
    List.Forall₂ Alike ((settleEntries entries).map (·.1)) (entries.map (·.1)) ∧
      List.Forall₂ Alike ((settleEntries entries).map (·.2)) (entries.map (·.2))
  | [] => ⟨.nil, .nil⟩
  | (key, value) :: rest =>
      have ⟨keys, values⟩ := alike_settleEntries rest
      ⟨.cons (alike_settle key) keys, .cons (alike_settle value) values⟩

end

mutual

/-- A reader that takes a value takes it settled. -/
theorem fits_settle {levels : Nat} :
    ∀ {value : Datum}, value.fits levels = true →
      value.settle.fits levels = true
  | .null, _ | .bool _, _ | .int _, _ | .real _, _
  | .text _, _ => by simp [settle, fits]
  | .list items, taken => by
      rw [fits, Bool.and_eq_true] at taken
      rw [settle, fits, taken.1, fitsItems_settleItems taken.2, Bool.and_self]
  | .record fields, taken => by
      rw [fits, Bool.and_eq_true] at taken
      have settled : fitsFields (levels - 1)
          (Table.ofList (settleFields fields)).toList = true :=
        fitsFields_iff.mpr fun field member =>
          fitsFields_iff.mp (fitsFields_settleFields taken.2) field
            (Table.mem_of_mem_ofList member)
      rw [settle, fits, taken.1, settled, Bool.and_self]
  | .mapping entries, taken => by
      rw [fits, Bool.and_eq_true] at taken
      rw [settle, fits, taken.1, fitsEntries_settleEntries taken.2,
        Bool.and_self]
  | .unreadable, taken => taken

theorem fitsItems_settleItems {levels : Nat} :
    ∀ {items : List Datum}, fitsItems levels items = true →
      fitsItems levels (settleItems items) = true
  | [], _ => rfl
  | item :: rest, taken => by
      rw [fitsItems, Bool.and_eq_true] at taken
      rw [settleItems, fitsItems, fits_settle taken.1,
        fitsItems_settleItems taken.2, Bool.and_self]

theorem fitsFields_settleFields {levels : Nat} :
    ∀ {fields : List (String × Datum)}, fitsFields levels fields = true →
      fitsFields levels (settleFields fields) = true
  | [], _ => rfl
  | (_, value) :: rest, taken => by
      rw [fitsFields, Bool.and_eq_true] at taken
      rw [settleFields, fitsFields, fits_settle taken.1,
        fitsFields_settleFields taken.2, Bool.and_self]

theorem fitsEntries_settleEntries {levels : Nat} :
    ∀ {entries : List (Datum × Datum)}, fitsEntries levels entries = true →
      fitsEntries levels (settleEntries entries) = true
  | [], _ => rfl
  | (key, value) :: rest, taken => by
      rw [fitsEntries, Bool.and_eq_true, Bool.and_eq_true] at taken
      rw [settleEntries, fitsEntries, fits_settle taken.1.1,
        fits_settle taken.1.2, fitsEntries_settleEntries taken.2, Bool.and_self,
        Bool.and_self]

end

mutual

/-- What JSON has a form for is settled in JSON. -/
theorem isJson_settle : ∀ {value : Datum}, value.isJson = true →
      value.settle.isJson = true
  | .null, json | .bool _, json | .int _, json | .real _, json
  | .text _, json => json
  | .list items, json => by
      rw [isJson_list] at json
      rw [settle, isJson_list, areJson_settleItems json]
  | .record fields, json => by
      rw [settle, isJson_record, haveJson_iff]
      intro field member
      exact haveJson_iff.mp (haveJson_settleFields json) field
        (Table.mem_of_mem_ofList member)
  | .mapping _, json | .unreadable, json => by simp [isJson] at json

theorem areJson_settleItems :
    ∀ {items : List Datum}, areJson items = true →
      areJson (settleItems items) = true
  | [], _ => rfl
  | item :: rest, json => by
      rw [areJson, Bool.and_eq_true] at json
      rw [settleItems, areJson, isJson_settle json.1,
        areJson_settleItems json.2, Bool.and_self]

theorem haveJson_settleFields :
    ∀ {fields : List (String × Datum)}, haveJson fields = true →
      haveJson (settleFields fields) = true
  | [], _ => rfl
  | (_, value) :: rest, json => by
      rw [haveJson, Bool.and_eq_true] at json
      rw [settleFields, haveJson, isJson_settle json.1,
        haveJson_settleFields json.2, Bool.and_self]

end

end TaskSieve.Datum
