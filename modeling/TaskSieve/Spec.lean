import TaskSieve.Datum.Decode

/-!
# Composition trees

A strategy named or composed from others: remove when any child removes, when
every child removes, or when a child does not.
-/

namespace TaskSieve

/-- A composition of named strategies. -/
inductive Spec
  | named (name : String)
  | any (children : List Spec)
  | all (children : List Spec)
  | not (child : Spec)
  deriving Inhabited

namespace Spec

mutual

/-- The names of a tree from left to right. -/
def names : Spec → List String
  | .named name => [name]
  | .any children => namesOfAll children
  | .all children => namesOfAll children
  | .not child => child.names

/-- The names of several trees from left to right. -/
def namesOfAll : List Spec → List String
  | [] => []
  | child :: rest => child.names ++ namesOfAll rest

end

mutual

/-- The first fault of a tree, children before later siblings. -/
def fault? : Spec → Option String
  | .named name =>
      if name.isEmpty then some "strategy name cannot be empty" else none
  | .any children => faultOfChildren? children
  | .all children => faultOfChildren? children
  | .not child => child.fault?

/-- The first fault of a composite with these children. -/
def faultOfChildren? : List Spec → Option String
  | [] => some "composite strategies need at least one child"
  | child :: rest =>
      match child.fault? with
      | some fault => some fault
      | none => firstFault? rest

/-- The first fault among several trees. -/
def firstFault? : List Spec → Option String
  | [] => none
  | child :: rest =>
      match child.fault? with
      | some fault => some fault
      | none => firstFault? rest

end

/-- What a record gives a composite under each of the three names. -/
structure Choices where
  any : Option (List Spec) := none
  all : Option (List Spec) := none
  not : Option Spec := none

/-- The tree of the choices that a record offers: the first that was read. -/
def Choices.spec? (choices : Choices) : Option Spec :=
  match choices.any, choices.all, choices.not with
  | some children, _, _ => some (.any children)
  | none, some children, _ => some (.all children)
  | none, none, some child => some (.not child)
  | none, none, none => none

/-- Adds what a value offers, as the children and as the child, under each name
that its key has. -/
def Choices.offer (choices : Choices) (has : String → Bool)
    (children : Option (List Spec)) (child : Option Spec) : Choices where
  any := if has "any" then children else choices.any
  all := if has "all" then children else choices.all
  not := if has "not" then child else choices.not

/-- Whether a key stands for the field with a name, which is the only field and
so also the one at place zero. -/
def isKeyOf (name : String) : Datum → Bool
  | .text key => key == name
  | .int place => place == 0
  | _ => false

/-- Whether a key may stand for a field: it is a text or a place. -/
def isFieldKey : Datum → Bool
  | .text _ => true
  | .int place => 0 ≤ place
  | _ => false

/-- Whether a key stands for a field and no other one does; a field written
twice is none. -/
def isOnlyKey (keys : List Datum) (key : Datum) (name : String) : Bool :=
  isKeyOf name key && keys.countP (isKeyOf name) == 1

mutual

/-- Reads a tree from a value that is readable throughout. -/
def ofDatum? : Datum → Option Spec
  | .text name => some (.named name)
  | .record fields =>
      (choicesOfFields (fields.map fun field => .text field.1) fields {}).spec?
  | .mapping entries =>
      let keys := entries.map (·.1)
      if keys.all isFieldKey then (choicesOfEntries keys entries {}).spec?
      else none
  | _ => none

/-- Reads the children of a composite. -/
def childrenOf? : Datum → Option (List Spec)
  | .list items => ofItems? items
  | _ => none

/-- Reads every item of a list. -/
def ofItems? : List Datum → Option (List Spec)
  | [] => some []
  | item :: rest =>
      match ofDatum? item, ofItems? rest with
      | some child, some children => some (child :: children)
      | _, _ => none

/-- Reads what the fields of a record offer, whose keys are given. -/
def choicesOfFields (keys : List Datum) :
    List (String × Datum) → Choices → Choices
  | [], choices => choices
  | (name, value) :: rest, choices =>
      choicesOfFields keys rest
        (choices.offer (isOnlyKey keys (.text name)) (childrenOf? value)
          (ofDatum? value))

/-- Reads what the entries of a mapping offer, whose keys are given. -/
def choicesOfEntries (keys : List Datum) :
    List (Datum × Datum) → Choices → Choices
  | [], choices => choices
  | (key, value) :: rest, choices =>
      choicesOfEntries keys rest
        (choices.offer (isOnlyKey keys key) (childrenOf? value)
          (ofDatum? value))

end

/-- Reads a tree that may nest so many levels. -/
def decode (levels : Nat) : Decoder Spec := fun value =>
  if value.fits levels then ofDatum? value else none

mutual

/-- A tree as a document value. -/
def encode : Spec → Datum
  | .named name => .text name
  | .any children => .record [("any", .list (encodeAll children))]
  | .all children => .record [("all", .list (encodeAll children))]
  | .not child => .record [("not", child.encode)]

/-- Several trees as document values. -/
def encodeAll : List Spec → List Datum
  | [] => []
  | child :: rest => child.encode :: encodeAll rest

end

end Spec

end TaskSieve
