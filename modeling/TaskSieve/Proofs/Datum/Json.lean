import TaskSieve.Datum.Basic
import TaskSieve.Word

/-!
# The values of JSON

JSON has a form for a document value if its records have texts as keys, its
whole numbers fit a word of 64 bits and its other numbers are finite.  Whether
a reader that follows so many levels takes such a value depends on its depth
alone.
-/

namespace TaskSieve

theorem Word.isUnsigned_natCast {value : Nat} (small : value < count) :
    isUnsigned value = true := by
  simp only [isUnsigned, Bool.and_eq_true, decide_eq_true_eq]
  omega

namespace Datum

mutual

/-- Whether JSON has a form for a value. -/
def isJson : Datum → Bool
  | .null | .bool _ | .text _ => true
  | .int value => Word.isSigned value || Word.isUnsigned value
  | .real value => value.isFinite
  | .list items => areJson items
  | .record fields => haveJson fields
  | .mapping _ | .unreadable => false

/-- Whether JSON has a form for every item of a list. -/
def areJson : List Datum → Bool
  | [] => true
  | item :: rest => item.isJson && areJson rest

/-- Whether JSON has a form for the value of every field. -/
def haveJson : List (String × Datum) → Bool
  | [] => true
  | (_, value) :: rest => value.isJson && haveJson rest

end

mutual

/-- How deep lists and records nest in a value. -/
def depth : Datum → Nat
  | .list items => depthOfItems items + 1
  | .record fields => depthOfFields fields + 1
  | .mapping entries => depthOfEntries entries + 1
  | .null | .bool _ | .int _ | .real _ | .text _ | .unreadable => 0

/-- The greatest depth of an item. -/
def depthOfItems : List Datum → Nat
  | [] => 0
  | item :: rest => max item.depth (depthOfItems rest)

/-- The greatest depth of the value of a field. -/
def depthOfFields : List (String × Datum) → Nat
  | [] => 0
  | (_, value) :: rest => max value.depth (depthOfFields rest)

/-- The greatest depth of a key or a value. -/
def depthOfEntries : List (Datum × Datum) → Nat
  | [] => 0
  | (key, value) :: rest =>
      max (max key.depth value.depth) (depthOfEntries rest)

end

@[simp] theorem isJson_text (value : String) : (text value).isJson = true := rfl

@[simp] theorem isJson_bool (value : Bool) : (bool value).isJson = true := rfl

@[simp] theorem isJson_real (value : Binary64) :
    (real value).isJson = value.isFinite := rfl

@[simp] theorem isJson_list (items : List Datum) :
    (list items).isJson = areJson items := rfl

@[simp] theorem isJson_record (fields : List (String × Datum)) :
    (record fields).isJson = haveJson fields := rfl

theorem isJson_signed {value : Int} (isSigned : Word.isSigned value = true) :
    (int value).isJson = true := by
  rw [isJson, isSigned, Bool.true_or]

theorem isJson_unsigned {value : Nat} (small : value < Word.count) :
    (int value).isJson = true := by
  have isUnsigned : Word.isUnsigned value = true :=
    Word.isUnsigned_natCast small
  rw [isJson, isUnsigned, Bool.or_true]

theorem areJson_iff {items : List Datum} :
    areJson items = true ↔ ∀ item ∈ items, item.isJson = true := by
  induction items with
  | nil => simp [areJson]
  | cons item rest induction => simp [areJson, induction]

theorem haveJson_iff {fields : List (String × Datum)} :
    haveJson fields = true ↔ ∀ field ∈ fields, field.2.isJson = true := by
  induction fields with
  | nil => simp [haveJson]
  | cons field rest induction => simp [haveJson, induction]

@[simp] theorem isJson_ofNames (names : List String) :
    (ofNames names).isJson = true := by
  rw [ofNames, isJson_list, areJson_iff]
  intro item member
  obtain ⟨name, _, rfl⟩ := List.mem_map.mp member
  rfl

theorem isJson_ofOption {α : Type} {encode : α → Datum}
    (json : ∀ held, (encode held).isJson = true) (value : Option α) :
    (ofOption encode value).isJson = true := by
  cases value with
  | none => rfl
  | some held => exact json held

theorem isJson_ofTable {α : Type} {encode : α → Datum} {table : Table String α}
    (json : ∀ entry ∈ table.toList, (encode entry.2).isJson = true) :
    (ofTable encode table).isJson = true := by
  rw [ofTable, isJson_record, haveJson_iff]
  intro field member
  obtain ⟨entry, inTable, rfl⟩ := List.mem_map.mp member
  exact json entry inTable

/-- Items are less deep than their list. -/
theorem depth_lt_list {item : Datum} {items : List Datum}
    (member : item ∈ items) : item.depth < (list items).depth := by
  rw [depth, Nat.lt_succ_iff]
  induction items with
  | nil => cases member
  | cons first rest induction =>
      rw [depthOfItems]
      rcases List.mem_cons.mp member with rfl | later
      · exact Nat.le_max_left _ _
      · exact Nat.le_trans (induction later) (Nat.le_max_right _ _)

/-- Values of fields are less deep than their record. -/
theorem depth_lt_record (name : String) {value : Datum}
    {fields : List (String × Datum)} (member : (name, value) ∈ fields) :
    value.depth < (record fields).depth := by
  rw [depth, Nat.lt_succ_iff]
  induction fields with
  | nil => cases member
  | cons first rest induction =>
      rw [depthOfFields]
      rcases List.mem_cons.mp member with rfl | later
      · exact Nat.le_max_left _ _
      · exact Nat.le_trans (induction later) (Nat.le_max_right _ _)

/-- A level is left for a list or a record, and then enough of them for what is
in it. -/
theorem succ_le_iff (deepest levels : Nat) :
    deepest + 1 ≤ levels ↔ (levels != 0) = true ∧ deepest ≤ levels - 1 := by
  rw [bne_iff_ne]
  omega

mutual

/-- A reader takes the JSON values that are not deeper than the levels it
follows. -/
theorem fits_iff_depth_le {levels : Nat} :
    ∀ {value : Datum}, value.isJson = true →
      (value.fits levels = true ↔ value.depth ≤ levels)
  | .null, _ | .bool _, _ | .int _, _ | .real _, _
  | .text _, _ => by simp [fits, depth]
  | .list items, json => by
      rw [isJson] at json
      rw [fits, Bool.and_eq_true, fitsItems_iff_depth_le json, depth,
        succ_le_iff]
  | .record fields, json => by
      rw [isJson] at json
      rw [fits, Bool.and_eq_true, fitsFields_iff_depth_le json, depth,
        succ_le_iff]
  | .mapping _, json | .unreadable, json => by simp [isJson] at json

theorem fitsItems_iff_depth_le {levels : Nat} :
    ∀ {items : List Datum}, areJson items = true →
      (fitsItems levels items = true ↔ depthOfItems items ≤ levels)
  | [], _ => by simp [fitsItems, depthOfItems]
  | item :: rest, json => by
      rw [areJson, Bool.and_eq_true] at json
      rw [fitsItems, Bool.and_eq_true, fits_iff_depth_le json.1,
        fitsItems_iff_depth_le json.2, depthOfItems, Nat.max_le]

theorem fitsFields_iff_depth_le {levels : Nat} :
    ∀ {fields : List (String × Datum)}, haveJson fields = true →
      (fitsFields levels fields = true ↔ depthOfFields fields ≤ levels)
  | [], _ => by simp [fitsFields, depthOfFields]
  | (_, value) :: rest, json => by
      rw [haveJson, Bool.and_eq_true] at json
      rw [fitsFields, Bool.and_eq_true, fits_iff_depth_le json.1,
        fitsFields_iff_depth_le json.2, depthOfFields, Nat.max_le]

end

end Datum

end TaskSieve
