import TaskSieve.Datum.Decode

/-!
# Tasks

A task of the graph that was built for a push.  Its attributes are the ones
that decisions depend on; every other attribute is kept as it came.
-/

namespace TaskSieve

/-- What is known about a task. -/
structure Attributes where
  /-- The test groups that the task runs, when it is driven by a list of
  them. -/
  manifests : Option (List String) := none
  buildType : Option String := none
  platform : Option String := none
  variant : Option String := none
  suite : Option String := none
  multiProcess : Bool := true
  /-- The components whose changes schedule the task. -/
  components : List String := []
  extra : Table String Datum := ∅

/-- A task of the graph. -/
structure Task where
  label : String
  kind : String := ""
  attributes : Attributes := {}
  dependencies : Table String String := ∅
  softDependencies : List String := []

namespace Attributes

/-- The names of the attributes that are not extra. -/
def names : List String :=
  ["test_manifests", "build_type", "test_platform", "unittest_variant",
    "unittest_suite", "e10s", "schedules"]

/-- Whether the task runs a debug build. -/
def isDebug (attributes : Attributes) : Bool :=
  attributes.buildType == some "debug"

/-- The attributes that are not known by name; of one written twice the last
value counts. -/
def extraOf (fields : List (String × Datum)) : Table String Datum :=
  Table.ofList
    ((fields.filter fun field => !names.contains field.1).map fun field =>
    (field.1, field.2.settle))

/-- Reads attributes, which must be a record.  The values of extra ones may nest
so many levels. -/
def decode (levels : Nat) : Decoder Attributes
  | .record fields => do
      if Decoder.repeats names fields then none
      let extra := fields.filter fun field => !names.contains field.1
      if !Datum.fitsFields levels extra then none
      let optionalText (name : String) :=
        Decoder.withDefault fields name none (Decoder.optional Decoder.text)
      return {
        manifests := ← Decoder.withDefault fields "test_manifests" none
          (Decoder.optional (Decoder.list Decoder.text))
        buildType := ← optionalText "build_type"
        platform := ← optionalText "test_platform"
        variant := ← optionalText "unittest_variant"
        suite := ← optionalText "unittest_suite"
        multiProcess := ← Decoder.withDefault fields "e10s" true Decoder.bool
        components := ←
          Decoder.withDefault fields "schedules" [] (Decoder.list Decoder.text)
        extra := extraOf fields }
  | _ => none

/-- Attributes as a record: the known ones, then the extra ones. -/
def encode (attributes : Attributes) : Datum :=
  .record ([
    ("test_manifests", Datum.ofOption Datum.ofNames attributes.manifests),
    ("build_type", Datum.ofOption .text attributes.buildType),
    ("test_platform", Datum.ofOption .text attributes.platform),
    ("unittest_variant", Datum.ofOption .text attributes.variant),
    ("unittest_suite", Datum.ofOption .text attributes.suite),
    ("e10s", .bool attributes.multiProcess),
    ("schedules", Datum.ofNames attributes.components)] ++
    attributes.extra.toList)

end Attributes

namespace Task

/-- A test task without attributes. -/
def test (label : String) : Task := { label, kind := "test" }

/-- The test groups that the task runs. -/
def manifests (task : Task) : List String := task.attributes.manifests.getD []

/-- The fields of a task. -/
def names : List String :=
  ["label", "kind", "attributes", "dependencies", "soft_dependencies"]

/-- Reads a task whose record may nest so many levels. -/
def decode (levels : Nat) : Decoder Task := fun value => do
  let fields ← Decoder.fieldsOf names value
  return {
    label := ← Decoder.required fields "label" Decoder.text
    kind := ← Decoder.withDefault fields "kind" "" Decoder.text
    attributes := ← Decoder.withDefault fields "attributes" {}
      (Attributes.decode (levels - 2))
    dependencies :=
      ← Decoder.withDefault fields "dependencies" ∅ (Decoder.table Decoder.text)
    softDependencies := ← Decoder.withDefault fields "soft_dependencies" []
      (Decoder.list Decoder.text) }

/-- A task as a record. -/
def encode (task : Task) : Datum :=
  .record [
    ("label", .text task.label),
    ("kind", .text task.kind),
    ("attributes", task.attributes.encode),
    ("dependencies", Datum.ofTable .text task.dependencies),
    ("soft_dependencies", Datum.ofNames task.softDependencies)]

end Task

/-- A set of tasks as a list, or as a record from labels to tasks. -/
def Task.decodeSet : Decoder (List Task) := fun value =>
  if !value.fits Datum.levelLimit then none
  else match Decoder.list (Task.decode Datum.levelLimit) value with
    | some tasks => some tasks
    | none =>
        (Decoder.table (Task.decode Datum.levelLimit) value).map Table.values

end TaskSieve
