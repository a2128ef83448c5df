import TaskSieve.Datum.Decode
import TaskSieve.Calendar

/-!
# Pushes

What is decided about, apart from the tasks: the push, where it landed, and
its place in the push log of its repository.
-/

namespace TaskSieve

/-- A push to a repository. -/
structure Push where
  branch : String
  repository : String
  /-- The revision at the head of the push. -/
  revision : String
  project : String
  /-- The place in the push log; -1 for a push that is not in it. -/
  id : Int
  /-- When the push happened, in seconds; not positive when unknown. -/
  date : Int := 0
  /-- Whether this push runs every task. -/
  backstop : Bool := false
  deriving DecidableEq, Repr

namespace Push

/-- Reads a push log id: a whole number, or its decimal text between blanks. -/
def decodeId : Decoder Int
  | .int value => if Word.isSigned value then some value else none
  | .text value => Decimal.signed? (Text.trimList value.toList)
  | _ => none

/-- The fields of a push. -/
def names : List String :=
  ["branch", "head_repository", "head_rev", "project", "pushlog_id", "pushdate",
    "backstop"]

/-- Reads a push. -/
def decode : Decoder Push := fun value => do
  let fields ← Decoder.fieldsOf names value
  return {
    branch := ← Decoder.required fields "branch" Decoder.text
    repository := ← Decoder.required fields "head_repository" Decoder.text
    revision := ← Decoder.required fields "head_rev" Decoder.text
    project := ← Decoder.required fields "project" Decoder.text
    id := ← Decoder.required fields "pushlog_id" decodeId
    date := ← Decoder.withDefault fields "pushdate" 0 Decoder.signed
    backstop := ← Decoder.withDefault fields "backstop" false Decoder.bool }

/-- A push as a record. -/
def encode (push : Push) : Datum :=
  .record [
    ("branch", .text push.branch),
    ("head_repository", .text push.repository),
    ("head_rev", .text push.revision),
    ("project", .text push.project),
    ("pushlog_id", .int push.id),
    ("pushdate", .int push.date),
    ("backstop", .bool push.backstop)]

/-- When the push happened, as a date; nothing when unknown or past every
date. -/
def dateText (push : Push) : Option String :=
  if 0 < push.date && push.date ≤ Calendar.lastSecond then
    some (Calendar.text push.date.toNat)
  else none

end Push

end TaskSieve
