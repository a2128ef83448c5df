import TaskSieve.Datum.Decode
import TaskSieve.Failure

/-!
# Push logs

The push log of a repository lists the changesets of each push.  The revision
of a push is its last changeset.
-/

namespace TaskSieve

/-- What a push log says about a push. -/
structure PushEntry where
  changesets : List String := []
  deriving DecidableEq, Repr

namespace PushEntry

/-- Reads an entry. -/
def decode : Decoder PushEntry := fun value => do
  let fields ← Decoder.fieldsOf ["changesets"] value
  return {
    changesets :=
      ← Decoder.withDefault fields "changesets" [] (Decoder.list Decoder.text) }

/-- An entry as a record. -/
def encode (entry : PushEntry) : Datum :=
  .record [("changesets", Datum.ofNames entry.changesets)]

end PushEntry

/-- Entries of a push log by push id. -/
abbrev PushLog := Table Int PushEntry

namespace PushLog

/-- Reads a field of entries, whose name is a push id. -/
def decodeEntry (field : String × Datum) : Option (Int × PushEntry) := do
  let id ← Decimal.canonical? field.1.toList
  if !Word.isSigned id then none
  return (id, ← PushEntry.decode field.2)

/-- Reads entries from a record whose field names are push ids. -/
def decode : Decoder PushLog
  | .record fields => (fields.mapM decodeEntry).map Table.ofList
  | _ => none

/-- Reads the reply of a push log. -/
def decodeReply : Decoder PushLog := fun value => do
  let fields ← Decoder.fieldsOf ["pushes"] value
  Decoder.withDefault fields "pushes" ∅ decode

/-- Entries as a record. -/
def encode (log : PushLog) : Datum :=
  .record (log.toList.map fun entry => (toString entry.1, entry.2.encode))

/-- The revision of a push in a range that was asked for. -/
def revision (log : PushLog) (first last id : Int) :
    Except PushLogError String :=
  match log.find? id with
  | none => .error (.missingPush id first last)
  | some entry =>
      match entry.changesets.getLast? with
      | none => .error (.emptyPush id)
      | some revision => .ok revision

/-- The revisions of so many pushes from an id on, up to the first that has
none. -/
def revisionsFrom (log : PushLog) (first last : Int) :
    Nat → Int → Except PushLogError (List (Int × String))
  | 0, _ => .ok []
  | count + 1, id => do
      let revision ← log.revision first last id
      let rest ← revisionsFrom log first last count (id + 1)
      return (id, revision) :: rest

/-- The revisions of all pushes of a range, in order. -/
def revisions (log : PushLog) (first last : Int) :
    Except PushLogError (List (Int × String)) :=
  log.revisionsFrom first last (last + 1 - first).toNat first

end PushLog

end TaskSieve
