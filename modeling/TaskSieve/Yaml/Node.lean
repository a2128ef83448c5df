import TaskSieve.Table
import TaskSieve.Yaml.Token

/-!
# Documents of YAML

A text holds one document, a tree of scalars, sequences and mappings.  Where a
node is left out, an empty scalar stands.  An alias has the number of its
name, and stands for the node that was the last to begin with that number.
A name takes a number anew whenever a node begins that has it as its anchor:
the number is how many other names were known by then, so that names may come
to share one.
-/

namespace TaskSieve.Yaml

/-- A node of a document, with its tag. -/
inductive Node
  | scalar (tag : Option String) (style : Style) (text : String)
  | sequence (tag : Option String) (items : List Node)
  | mapping (tag : Option String) (entries : List (Node × Node))
  /-- What stands for another node, by its number. -/
  | alias (number : Nat)
  deriving Inhabited

namespace Node

/-- The node where none is written. -/
def empty (tag : Option String) : Node := .scalar tag .plain ""

mutual

/-- How many marks a node consists of: a collection has one at either end. -/
def size : Node → Nat
  | .scalar _ _ _ => 1
  | .alias _ => 1
  | .sequence _ items => sizeOfItems items + 2
  | .mapping _ entries => sizeOfEntries entries + 2

/-- How many marks the items of a sequence consist of. -/
def sizeOfItems : List Node → Nat
  | [] => 0
  | item :: rest => item.size + sizeOfItems rest

/-- How many marks the entries of a mapping consist of. -/
def sizeOfEntries : List (Node × Node) → Nat
  | [] => 0
  | (key, value) :: rest => key.size + value.size + sizeOfEntries rest

end

end Node

/-- A document. -/
structure Document where
  root : Node
  /-- What aliases stand for, by number. -/
  targets : Table Nat Node := ∅

/-- Where a node stands. -/
inductive Place
  | item
  /-- A key or value of a block, where the items of a sequence need no more
  indentation. -/
  | entry
  | flow
  deriving DecidableEq

/-- What is left of a document while it is read, and what is known of its
anchors. -/
structure Scene where
  tokens : List Token
  /-- The numbers of the names. -/
  numbers : Table String Nat := ∅
  /-- How many nodes with anchors have begun. -/
  begun : Nat := 0
  /-- Which of the nodes with anchors was the last to begin with a number. -/
  holders : Table Nat Nat := ∅
  /-- The nodes with anchors that have ended, by their place among those that
  have begun. -/
  ended : Table Nat Node := ∅

/-- What the numbers stand for. -/
def Scene.targets (scene : Scene) : Table Nat Node :=
  Table.ofList (scene.holders.toList.filterMap fun holder =>
    (scene.ended.find? holder.2).map fun node => (holder.1, node))

/-- A step of reading a document. -/
abbrev Step (α : Type) := StateT Scene Option α

namespace Step

/-- Refuses the document. -/
def refuse : Step α := fun _ => none

/-- The next token. -/
def peek : Step (Option Token) := fun scene => some (scene.tokens.head?, scene)

/-- Passes a token. -/
def pass : Step Unit :=
  fun scene => some ((), { scene with tokens := scene.tokens.drop 1 })

/-- Passes a token if it is the next one. -/
def passed (token : Token) : Step Bool := do
  if (← peek) == some token then
    pass
    return true
  else return false

/-- Passes a comma, which must be there. -/
def comma : Step Unit := do
  if ← passed .comma then return () else refuse

/-- Begins a node with an anchor and gives its place among such nodes. -/
def begin (anchor : String) : Step Nat := fun scene =>
  let number := scene.numbers.size
  some (scene.begun, {
    scene with
    numbers := scene.numbers.insert anchor number
    begun := scene.begun + 1
    holders := scene.holders.insert number scene.begun })

/-- Ends the node at a place among those with anchors. -/
def finish (place : Nat) (node : Node) : Step Unit := fun scene =>
  some ((), { scene with ended := scene.ended.insert place node })

/-- The number of a name, which must have one. -/
def number (anchor : String) : Step Nat := fun scene =>
  (scene.numbers.find? anchor).map fun number => (number, scene)

end Step

/-- The meanings of the handles of tags. -/
abbrev Handles := List (String × String)

/-- What every document knows about handles. -/
def Handles.standard : Handles := [("!", "!"), ("!!", "tag:yaml.org,2002:")]

/-- The tag that a token denotes. -/
def Handles.tag? (handles : Handles) (handle rest : String) : Option String :=
  if handle.isEmpty then some rest
  else
    (handles.find? fun entry => entry.1 == handle).map fun entry =>
      entry.2 ++ rest

/-- The anchor and the tag before a node, in either order. -/
def properties (handles : Handles) : Step (Option String × Option String) := do
  match ← Step.peek with
  | some (.anchor anchor) =>
      Step.pass
      match ← Step.peek with
      | some (.tag handle rest) =>
          Step.pass
          return (some anchor, some (← handles.tag? handle rest))
      | _ => return (some anchor, none)
  | some (.tag handle rest) =>
      Step.pass
      let tag ← handles.tag? handle rest
      match ← Step.peek with
      | some (.anchor anchor) =>
          Step.pass
          return (some anchor, some tag)
      | _ => return (none, some tag)
  | _ => return (none, none)

mutual

/-- A node. -/
def node (handles : Handles) : Nat → Place → Step Node
  | 0, _ => Step.refuse
  | steps + 1, place => do
      match ← Step.peek with
      | some (.alias anchor) =>
          Step.pass
          return .alias (← Step.number anchor)
      | _ =>
        let (anchor, tag) ← properties handles
        match anchor with
        | none => content handles steps place tag false
        | some anchor =>
            let mark ← Step.begin anchor
            let node ← content handles steps place tag true
            Step.finish mark node
            return node

/-- A node after its tag and its anchor; an empty scalar must have one of
them. -/
def content (handles : Handles) : Nat → Place → Option String → Bool → Step Node
  | 0, _, _, _ => Step.refuse
  | steps + 1, place, tag, anchored => do
      match ← Step.peek with
      | some (.scalar style text) =>
          Step.pass
          return .scalar tag style text
      | some .item =>
          if place == .entry then
            return .sequence tag (← looseItems handles steps)
          else leaf tag anchored
      | some .flowSequenceStart =>
          Step.pass
          return .sequence tag (← flowItems handles steps true)
      | some .flowMappingStart =>
          Step.pass
          return .mapping tag (← flowEntries handles steps true)
      | some .sequenceStart =>
          if place == .flow then leaf tag anchored
          else
            Step.pass
            return .sequence tag (← items handles steps)
      | some .mappingStart =>
          if place == .flow then leaf tag anchored
          else
            Step.pass
            return .mapping tag (← entries handles steps)
      | _ => leaf tag anchored

/-- An empty scalar, which must have a tag or an anchor. -/
def leaf (tag : Option String) (anchored : Bool) : Step Node :=
  if anchored || tag.isSome then return Node.empty tag else Step.refuse

/-- A node, or an empty scalar before one of some tokens or at the end. -/
def nodeUnless (handles : Handles) : Nat → Place → List Token → Step Node
  | 0, _, _ => Step.refuse
  | steps + 1, place, ends => do
      match ← Step.peek with
      | some token =>
          if ends.contains token then
            return Node.empty none else node handles steps place
      | none => node handles steps place

/-- The items of a block. -/
def items (handles : Handles) : Nat → Step (List Node)
  | 0 => Step.refuse
  | steps + 1 => do
      if ← Step.passed .item then
        let first ← nodeUnless handles steps .item [.item, .blockEnd]
        return first :: (← items handles steps)
      else if ← Step.passed .blockEnd then return []
      else Step.refuse

/-- The items of a sequence with no indentation of its own. -/
def looseItems (handles : Handles) : Nat → Step (List Node)
  | 0 => Step.refuse
  | steps + 1 => do
      if ← Step.passed .item then
        let first ←
            nodeUnless handles steps .item [.item, .key, .value, .blockEnd]
        return first :: (← looseItems handles steps)
      else return []

/-- The entries of a block. -/
def entries (handles : Handles) : Nat → Step (List (Node × Node))
  | 0 => Step.refuse
  | steps + 1 => do
      if ← Step.passed .key then
        let key ← nodeUnless handles steps .entry [.key, .value, .blockEnd]
        let value ←
          if ← Step.passed .value then
            nodeUnless handles steps .entry [.key, .value, .blockEnd]
          else pure (Node.empty none)
        return (key, value) :: (← entries handles steps)
      else if ← Step.passed .blockEnd then return []
      else Step.refuse

/-- The items between brackets. -/
def flowItems (handles : Handles) : Nat → Bool → Step (List Node)
  | 0, _ => Step.refuse
  | steps + 1, first => do
      if ← Step.passed .flowSequenceEnd then return []
      if !first then Step.comma
      if ← Step.passed .flowSequenceEnd then return []
      let item ←
        if ← Step.passed .key then do
          let entry ← flowPair handles steps
          pure (Node.mapping none [entry])
        else node handles steps .flow
      return item :: (← flowItems handles steps false)

/-- A mapping of one entry between brackets, after its announcement.  If the key
is left out, so is the token after it. -/
def flowPair (handles : Handles) : Nat → Step (Node × Node)
  | 0 => Step.refuse
  | steps + 1 => do
      let key ← match ← Step.peek with
        | some .value | some .comma | some .flowSequenceEnd => do
            Step.pass
            pure (Node.empty none)
        | _ => node handles steps .flow
      if ← Step.passed .value then
        return (key,
          ← nodeUnless handles steps .flow [.comma, .flowSequenceEnd])
      else return (key, Node.empty none)

/-- The entries between braces. -/
def flowEntries (handles : Handles) : Nat → Bool → Step (List (Node × Node))
  | 0, _ => Step.refuse
  | steps + 1, first => do
      if ← Step.passed .flowMappingEnd then return []
      if !first then Step.comma
      if ← Step.passed .flowMappingEnd then return []
      let entry ←
        if ← Step.passed .key then do
          let key ←
              nodeUnless handles steps .flow [.value, .comma, .flowMappingEnd]
          let value ←
            if ← Step.passed .value then
              nodeUnless handles steps .flow [.comma, .flowMappingEnd]
            else pure (Node.empty none)
          pure (key, value)
        else do
          let key ← node handles steps .flow
          pure (key, Node.empty none)
      return entry :: (← flowEntries handles steps false)

end

/-- The handles that directives define, each once, before others; at most one
version, which must be known. -/
def directives : List Token → Bool → Handles → Option (Handles × List Token)
  | .version major minor :: rest, versioned, handles =>
      if versioned || major != 1 || (minor != 1 && minor != 2) then none
      else directives rest true handles
  | .handle name meaning :: rest, versioned, handles =>
      if handles.any fun entry => entry.1 == name then none
      else directives rest versioned ((name, meaning) :: handles)
  | rest, _, handles => some (handles ++ Handles.standard, rest)

/-- The content of a document whose start is marked. -/
def markedContent (handles : Handles) (steps : Nat) : Step Node :=
  fun scene => match scene.tokens with
    | [] => some (Node.empty none, scene)
    | .documentEnd :: _ => some (Node.empty none, scene)
    | _ => node handles steps .item scene

/-- The only document of a text.  A text without any has an empty scalar. -/
def Document.ofTokens? (tokens : List Token) : Option Document := do
  let (handles, start) ← directives tokens false []
  let steps := 4 * tokens.length + 4
  let (root, scene) ← match start with
    | .documentStart :: rest => markedContent handles steps { tokens := rest }
    | [] =>
        if tokens.isEmpty then
          some (Node.empty none, { tokens := [] }) else none
    | _ =>
        if start.length == tokens.length then
          node handles steps .item { tokens := start }
        else none
  if (scene.tokens.dropWhile (· == .documentEnd)).isEmpty then
    some { root := root, targets := scene.targets }
  else none

end TaskSieve.Yaml
