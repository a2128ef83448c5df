import TaskSieve.Datum.Decode

/-!
# Evidence of the predictor

How confident the predictor is that a task or a test group matters for a
push.  Evidence of several pushes is merged by taking the largest confidence
for each name.
-/

namespace TaskSieve

/-- What the predictor says about a push. -/
structure Evidence where
  tasks : Table String Binary64 := ∅
  groups : Table String Binary64 := ∅
  /-- Confidences of the tasks that remain after redundant configurations are
  left out. -/
  reducedTasks : Table String Binary64 := ∅
  /-- The tasks that the predictor has data for. -/
  known : Names := ∅
  deriving DecidableEq, Repr

namespace Evidence

/-- Whether there is no evidence at all. -/
def isEmpty (evidence : Evidence) : Bool :=
  evidence.tasks.isEmpty && evidence.groups.isEmpty &&
    evidence.reducedTasks.isEmpty
    && evidence.known.isEmpty

/-- Whether the predictor has data for a task. -/
def knows (evidence : Evidence) (label : String) : Bool :=
  evidence.known.contains label

/-- The larger of a confidence that is held and a new one; of equal ones the
first stays. -/
def raise (held new : Binary64) : Binary64 :=
  if held.less new then new else held

/-- The evidence of both. -/
def merge (left right : Evidence) : Evidence where
  tasks := left.tasks.mergeWith raise right.tasks
  groups := left.groups.mergeWith raise right.groups
  reducedTasks := left.reducedTasks.mergeWith raise right.reducedTasks
  known := left.known.union right.known

/-- The evidence of all results together. -/
def merged (results : List Evidence) : Evidence := results.foldl merge {}

/-- Reads the confidences of groups; groups that are only listed have confidence
1. -/
def decodeGroups : Decoder (Table String Binary64)
  | .null => some ∅
  | .list items => do
      let names ← items.mapM Decoder.text
      return Table.ofList (names.map fun name => (name, Binary64.one))
  | value => Decoder.table Decoder.real value

/-- The fields of evidence. -/
def names : List String := ["tasks", "groups", "reduced_tasks", "known_tasks"]

/-- Reads evidence; what is missing or null is empty. -/
def decode : Decoder Evidence := fun value => do
  let fields ← Decoder.fieldsOf names value
  let confidences := Decoder.orDefault ∅ (Decoder.table Decoder.real)
  return {
    tasks := ← Decoder.withDefault fields "tasks" ∅ confidences
    groups := ← Decoder.withDefault fields "groups" ∅ decodeGroups
    reducedTasks := ← Decoder.withDefault fields "reduced_tasks" ∅ confidences
    known := ← Decoder.withDefault fields "known_tasks" ∅
      (Decoder.orDefault ∅ Decoder.names) }

/-- Evidence as a record. -/
def encode (evidence : Evidence) : Datum :=
  .record [
    ("tasks", Datum.ofTable .real evidence.tasks),
    ("groups", Datum.ofTable .real evidence.groups),
    ("reduced_tasks", Datum.ofTable .real evidence.reducedTasks),
    ("known_tasks", Datum.ofNames evidence.known.keys)]

end Evidence

end TaskSieve
