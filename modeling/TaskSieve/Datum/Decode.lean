import TaskSieve.Datum.Basic

/-!
# Decoding document values

A decoder turns a value of a document into a value of a domain type, or
refuses it.  Records with declared fields may be written as records or as
lists of their field values in declared order: unknown fields are passed
over, a known field written twice is refused, and a list may stop early but
not run on.
-/

namespace TaskSieve

/-- A partial reading of document values. -/
abbrev Decoder (α : Type) := Datum → Option α

namespace Decoder

/-- A text. -/
def text : Decoder String
  | .text value => some value
  | _ => none

/-- A truth value. -/
def bool : Decoder Bool
  | .bool value => some value
  | _ => none

/-- A whole number of a signed word of 64 bits. -/
def signed : Decoder Int
  | .int value => if Word.isSigned value then some value else none
  | _ => none

/-- A whole number of an unsigned word of 64 bits. -/
def unsigned : Decoder Nat
  | .int value => if Word.isUnsigned value then some value.toNat else none
  | _ => none

/-- A whole number as an unsigned word of 64 bits. -/
def word : Decoder UInt64 := fun value => (unsigned value).map UInt64.ofNat

/-- A floating-point number; whole numbers are rounded to one. -/
def real : Decoder Binary64
  | .real value => some value
  | .int value => some (.ofInt value)
  | _ => none

/-- Null, or a value. -/
def optional (decode : Decoder α) : Decoder (Option α)
  | .null => some none
  | value => (decode value).map some

/-- A list of values. -/
def list (decode : Decoder α) : Decoder (List α)
  | .list items => items.mapM decode
  | _ => none

/-- A record whose field names are keys; of a key written twice the last value
counts. -/
def table (decode : Decoder α) : Decoder (Table String α)
  | .record fields =>
      (fields.mapM fun field => (decode field.2).map fun value =>
        (field.1, value)).map Table.ofList
  | _ => none

/-- A list of names as a set. -/
def names : Decoder Names := fun value => (list text value).map Names.ofList

/-- Null as a default, or a value. -/
def orDefault (default : α) (decode : Decoder α) : Decoder α := fun value =>
  (optional decode value).map fun decoded => decoded.getD default

/-- Whether some name of a list occurs twice among the names of the fields. -/
def repeats (known : List String) (fields : List (String × Datum)) : Bool :=
  known.any fun name =>
    decide (1 < (fields.filter fun field => field.1 == name).length)

/-- The declared fields of a record, each at most once. -/
def fieldsOf (known : List String) : Decoder (List (String × Datum))
  | .record fields =>
      if repeats known fields then none
      else some (fields.filter fun field => known.contains field.1)
  | .list items =>
      if items.length ≤ known.length then some (known.zip items) else none
  | _ => none

/-- A field that must be there. -/
def required (fields : List (String × Datum)) (name : String)
    (decode : Decoder α) : Option α :=
  match Datum.lastField? name fields with
  | some value => decode value
  | none => none

/-- A field with a default for when it is not there. -/
def withDefault (fields : List (String × Datum)) (name : String) (default : α)
    (decode : Decoder α) : Option α :=
  match Datum.lastField? name fields with
  | some value => decode value
  | none => some default

end Decoder

end TaskSieve
