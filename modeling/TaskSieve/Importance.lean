import TaskSieve.Datum.Decode

/-!
# Importance of test groups

How risky it is to skip a test group, from low to high.
-/

namespace TaskSieve

/-- The risk of skipping a test group. -/
inductive Importance
  | low
  | medium
  | high
  deriving DecidableEq, Repr

namespace Importance

/-- The name of a level. -/
def name : Importance → String
  | .low => "low"
  | .medium => "medium"
  | .high => "high"

/-- The level of a name. -/
def ofName? : String → Option Importance
  | "low" => some .low
  | "medium" => some .medium
  | "high" => some .high
  | _ => none

/-- The place of a level in their order. -/
def rank : Importance → Nat
  | .low => 0
  | .medium => 1
  | .high => 2

/-- Whether a level lies above another. -/
def above (level other : Importance) : Bool := other.rank < level.rank

/-- Reads a level: its name, or a record with that name as its only field and no
value. -/
def decode : Decoder Importance
  | .text name => ofName? name
  | .record [(name, .null)] => ofName? name
  | _ => none

/-- A level as its name. -/
def encode (level : Importance) : Datum := .text level.name

end Importance

end TaskSieve
