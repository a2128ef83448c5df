import TaskSieve.Table
import TaskSieve.Binary64.Rounding
import TaskSieve.Decimal

/-!
# Document values

`Datum` is what a structured document says, whatever notation it is written
in.  Records keep their fields in the order written, repetitions included:
whoever reads a record decides what a repetition means.
-/

namespace TaskSieve

/-- A value in a document. -/
inductive Datum
  | null
  | bool (value : Bool)
  | int (value : Int)
  | real (value : Binary64)
  | text (value : String)
  | list (items : List Datum)
  | record (fields : List (String × Datum))
  /-- A record whose keys are not all texts. -/
  | mapping (entries : List (Datum × Datum))
  /-- Well-formed notation that denotes no value, such as a number past every
  range.  It can be passed over but not read. -/
  | unreadable
  deriving Inhabited

namespace Datum

/-- The greatest nesting of lists and records that a reader follows. -/
def levelLimit : Nat := 127

mutual

/-- Whether a value is readable throughout and nests at most so many levels. -/
def fits (levels : Nat) : Datum → Bool
  | .null | .bool _ | .int _ | .real _ | .text _ => true
  | .list items => levels != 0 && fitsItems (levels - 1) items
  | .record fields => levels != 0 && fitsFields (levels - 1) fields
  | .mapping entries => levels != 0 && fitsEntries (levels - 1) entries
  | .unreadable => false

/-- Whether every item of a list fits. -/
def fitsItems (levels : Nat) : List Datum → Bool
  | [] => true
  | item :: rest => item.fits levels && fitsItems levels rest

/-- Whether every field of a record fits. -/
def fitsFields (levels : Nat) : List (String × Datum) → Bool
  | [] => true
  | (_, value) :: rest => value.fits levels && fitsFields levels rest

/-- Whether every key and every value of a mapping fits. -/
def fitsEntries (levels : Nat) : List (Datum × Datum) → Bool
  | [] => true
  | (key, value) :: rest =>
      key.fits levels && value.fits levels && fitsEntries levels rest

end

mutual

/-- The value with every record in key order and without repetitions, of which
the last counts. -/
def settle : Datum → Datum
  | .list items => .list (settleItems items)
  | .record fields => .record (Table.ofList (settleFields fields)).toList
  | .mapping entries => .mapping (settleEntries entries)
  | .null => .null
  | .bool value => .bool value
  | .int value => .int value
  | .real value => .real value
  | .text value => .text value
  | .unreadable => .unreadable

/-- Settles every item of a list. -/
def settleItems : List Datum → List Datum
  | [] => []
  | item :: rest => item.settle :: settleItems rest

/-- Settles the value of every field. -/
def settleFields : List (String × Datum) → List (String × Datum)
  | [] => []
  | (name, value) :: rest => (name, value.settle) :: settleFields rest

/-- Settles the keys and the values of a mapping, which stays in its order. -/
def settleEntries : List (Datum × Datum) → List (Datum × Datum)
  | [] => []
  | (key, value) :: rest => (key.settle, value.settle) :: settleEntries rest

end

/-- The last value that a list of fields gives a name. -/
def lastField? (name : String) (fields : List (String × Datum)) :
    Option Datum :=
  (fields.reverse.find? fun field => field.1 == name).map (·.2)

/-- What entries say, a record if every key is a text. -/
def ofEntries (entries : List (Datum × Datum)) : Datum :=
  let field? : Datum × Datum → Option (String × Datum)
    | (.text name, value) => some (name, value)
    | _ => none
  match entries.mapM field? with
  | some fields => .record fields
  | none => .mapping entries

/-- The value of a field of a record. -/
def field? (name : String) : Datum → Option Datum
  | .record fields => lastField? name fields
  | _ => none

/-- A set of names as a list. -/
def ofNames (names : List String) : Datum := .list (names.map .text)

/-- An optional value, null when absent. -/
def ofOption (encode : α → Datum) : Option α → Datum
  | none => .null
  | some value => encode value

/-- A table with text keys as a record. -/
def ofTable (encode : α → Datum) (table : Table String α) : Datum :=
  .record (table.toList.map fun entry => (entry.1, encode entry.2))

end Datum

end TaskSieve
