/-!
# Finite tables in key order

A table holds at most one value per key and lists its keys in increasing
order, so two tables with the same contents are the same table.  A finite set
is a table with the trivial value at every member.
-/

namespace TaskSieve

open Std

/-- A finite map whose entries are listed by strictly increasing keys. -/
structure Table (κ : Type) [Ord κ] (α : Type u) where
  entries : List (κ × α)
  sorted : entries.Pairwise fun left right => compare left.1 right.1 = .lt

namespace Table

variable {κ : Type} [Ord κ] {α : Type u}

/-- The table without entries. -/
def empty : Table κ α := ⟨[], .nil⟩

instance : EmptyCollection (Table κ α) := ⟨empty⟩
instance : Inhabited (Table κ α) := ⟨empty⟩

instance [DecidableEq κ] [DecidableEq α] :
    DecidableEq (Table κ α) := fun left right =>
  if same : left.entries = right.entries then
    isTrue (by cases left; cases right; simp_all)
  else
    isFalse (fun equal => same (by rw [equal]))

instance [Repr κ] [Repr α] : Repr (Table κ α) :=
  ⟨fun table _ => repr table.entries⟩

/-- The entries by increasing key. -/
def toList (table : Table κ α) : List (κ × α) := table.entries

/-- The keys in increasing order. -/
def keys (table : Table κ α) : List κ := table.entries.map (·.1)

/-- The values by increasing key. -/
def values (table : Table κ α) : List α := table.entries.map (·.2)

/-- How many keys the table has. -/
def size (table : Table κ α) : Nat := table.entries.length

/-- Whether the table has no entry. -/
def isEmpty (table : Table κ α) : Bool := table.entries.isEmpty

/-- The value of a key in a list of entries. -/
def lookup (key : κ) : List (κ × α) → Option α
  | [] => none
  | (other, value) :: rest =>
      match compare key other with
      | .eq => some value
      | _ => lookup key rest

/-- The value of a key. -/
def find? (table : Table κ α) (key : κ) : Option α := lookup key table.entries

/-- Whether the key has a value. -/
def contains (table : Table κ α) (key : κ) : Bool := (table.find? key).isSome

/-- Places an entry among sorted entries, combining it with the value that is
there. -/
def place (combine : α → α → α) (key : κ) (value : α) :
    List (κ × α) → List (κ × α)
  | [] => [(key, value)]
  | (other, held) :: rest =>
      match compare key other with
      | .lt => (key, value) :: (other, held) :: rest
      | .eq => (other, combine held value) :: rest
      | .gt => (other, held) :: place combine key value rest

theorem mem_place [LawfulEqOrd κ] {combine : α → α → α} {key : κ} {value : α}
    {entries : List (κ × α)} {entry : κ × α}
    (member : entry ∈ place combine key value entries) :
    entry.1 = key ∨ ∃ old ∈ entries, old.1 = entry.1 := by
  induction entries with
  | nil => simp_all [place]
  | cons head rest inductionHypothesis =>
    obtain ⟨other, held⟩ := head
    unfold place at member
    split at member
    · simp only [List.mem_cons] at member
      rcases member with rfl | rfl | inRest
      · exact .inl rfl
      · exact .inr ⟨_, by simp, rfl⟩
      · exact .inr ⟨entry, by simp [inRest], rfl⟩
    · simp only [List.mem_cons] at member
      rcases member with rfl | inRest
      · exact .inr ⟨(other, held), by simp, rfl⟩
      · exact .inr ⟨entry, by simp [inRest], rfl⟩
    · simp only [List.mem_cons] at member
      rcases member with rfl | inPlaced
      · exact .inr ⟨_, by simp, rfl⟩
      · rcases inductionHypothesis inPlaced with
          sameKey | ⟨old, oldMember, oldKey⟩
        · exact .inl sameKey
        · exact .inr ⟨old, by simp [oldMember], oldKey⟩

theorem place_sorted [TransOrd κ] [LawfulEqOrd κ] (combine : α → α → α)
    (key : κ) (value : α) {entries : List (κ × α)}
    (sorted : entries.Pairwise fun left right => compare left.1 right.1 = .lt) :
    (place combine key value entries).Pairwise
      fun left right => compare left.1 right.1 = .lt := by
  induction entries with
  | nil => simp [place]
  | cons head rest inductionHypothesis =>
    obtain ⟨other, held⟩ := head
    have below := (List.pairwise_cons.1 sorted).1
    have tail := (List.pairwise_cons.1 sorted).2
    unfold place
    split
    · rename_i less
      refine List.pairwise_cons.2 ⟨?_, sorted⟩
      intro entry member
      rcases List.mem_cons.1 member with rfl | inRest
      · exact less
      · exact TransCmp.lt_trans less (below entry inRest)
    · exact List.pairwise_cons.2 ⟨fun entry member => below entry member, tail⟩
    · rename_i greater
      refine List.pairwise_cons.2 ⟨?_, inductionHypothesis tail⟩
      intro entry member
      rcases mem_place member with sameKey | ⟨old, oldMember, oldKey⟩
      · rw [sameKey]
        exact OrientedCmp.lt_of_gt greater
      · rw [← oldKey]
        exact below old oldMember

variable [TransOrd κ] [LawfulEqOrd κ]

/-- Adds an entry; a value that the key already has is combined with the new
one. -/
def insertWith (table : Table κ α) (combine : α → α → α) (key : κ) (value : α) :
    Table κ α :=
  ⟨place combine key value table.entries,
    place_sorted combine key value table.sorted⟩

/-- Gives the key this value, whatever it had. -/
def insert (table : Table κ α) (key : κ) (value : α) : Table κ α :=
  table.insertWith (fun _ new => new) key value

/-- The table of a list of entries; of two entries for one key the later
counts. -/
def ofList (entries : List (κ × α)) : Table κ α :=
  entries.foldl (fun table entry => table.insert entry.1 entry.2) empty

/-- Adds every entry of the second table to the first. -/
def mergeWith (combine : α → α → α) (left right : Table κ α) : Table κ α :=
  right.entries.foldl
    (fun table entry => table.insertWith combine entry.1 entry.2) left

end Table

/-- A finite set of names. -/
abbrev Names := Table String Unit

namespace Names

/-- The set of the names of a list. -/
def ofList (names : List String) : Names :=
  Table.ofList (names.map fun name => (name, ()))

/-- The set with one more name. -/
def add (names : Names) (name : String) : Names := names.insert name ()

/-- The members of either set. -/
def union (left right : Names) : Names :=
  left.mergeWith (fun held _ => held) right

end Names

end TaskSieve
