import TaskSieve.Datum.Basic
import TaskSieve.Toml.Lexis

/-!
# Reading TOML

A document is a tree of tables.  Headers open tables and add tables to lists,
assignments fill the table that is open, and keys with dots make tables on the
way.  A table that was written out is not opened or extended again.  Dates
become records that no reader of settings knows.
-/

namespace TaskSieve.Toml

/-- What a key stands for while a document is read. -/
inductive Node
  /-- A value written in one piece. -/
  | value (datum : Datum)
  /-- A table: whether only longer keys mention it so far, whether keys with
  dots made it, and what it holds. -/
  | table (implied dotted : Bool) (entries : List (String × Node))
  /-- A list of tables, the latest first. -/
  | tables (items : List Node)
  deriving Inhabited

namespace Node

/-- The node under a key. -/
def child? (key : String) (entries : List (String × Node)) : Option Node :=
  (entries.find? fun entry => entry.1 == key).map (·.2)

/-- The entries with another node under a key that is there or new. -/
def withChild (key : String) (node : Node) (entries : List (String × Node)) :
    List (String × Node) :=
  if (child? key entries).isSome then
    entries.map fun entry => if entry.1 == key then (key, node) else entry
  else entries ++ [(key, node)]

/-- Changes the table at a path, with tables made on the way where there are
none.  Keys with dots do not lead through tables that have headers. -/
def changeAt (dotted : Bool) (change : Node → Option Node) :
    List String → Node → Option Node
  | [], node => change node
  | key :: path, .table implied made entries => do
      let inner ← match child? key entries with
        | none => changeAt dotted change path (.table true dotted [])
        | some (.value _) => none
        | some (.tables []) => none
        | some (.tables (last :: earlier)) =>
            (changeAt dotted change path last).map fun last =>
              .tables (last :: earlier)
        | some (.table innerImplied innerMade innerEntries) =>
            if dotted && !innerImplied then none
            else
              changeAt dotted change path
                (.table innerImplied innerMade innerEntries)
      return .table implied made (withChild key inner entries)
  | _ :: _, _ => none

/-- Opens a table under a key, which must be new or only implied. -/
def openTable (key : String) : Node → Option Node
  | .table implied dotted entries =>
      match child? key entries with
      | none =>
          some (.table implied dotted
            (withChild key (.table false false []) entries))
      | some (.table true false inner) =>
          some (.table implied dotted
            (withChild key (.table false false inner) entries))
      | some _ => none
  | _ => none

/-- Adds a table to the list under a key, which must be new or such a list. -/
def addTable (key : String) : Node → Option Node
  | .table implied dotted entries =>
      match child? key entries with
      | none =>
          some (.table implied dotted
            (withChild key (.tables [.table false false []]) entries))
      | some (.tables items) =>
          some (.table implied dotted
            (withChild key (.tables (.table false false [] :: items)) entries))
      | some _ => none
  | _ => none

/-- Gives a new key a value.  Tables made by keys with dots take values by such
keys only. -/
def assign (byDots : Bool) (key : String) (datum : Datum) : Node → Option Node
  | .table implied dotted entries =>
      if dotted != byDots || (child? key entries).isSome then none
      else some (.table implied dotted (entries ++ [(key, .value datum)]))
  | _ => none

/-- Gives a key with dots a value below a table. -/
def assignPath (keys : List String) (datum : Datum) (node : Node) :
    Option Node := do
  let key ← keys.getLast?
  let path := keys.dropLast
  changeAt true (assign (!path.isEmpty) key datum) path node

mutual

/-- The value of a node. -/
def datum : Node → Datum
  | .value datum => datum
  | .table _ _ entries => .record (fields entries)
  | .tables items => .list (data items).reverse

/-- The fields of a table. -/
def fields : List (String × Node) → List (String × Datum)
  | [] => []
  | (key, node) :: rest => (key, node.datum) :: fields rest

/-- The values of several nodes. -/
def data : List Node → List Datum
  | [] => []
  | node :: rest => node.datum :: data rest

end

end Node

/-- Whether a character may stand in a word. -/
def isWordCharacter (character : Char) : Bool :=
  isBare character || character == '+' || character == '.' || character == ':'

/-- The value of a date. -/
def moment (word : List Char) : Datum :=
  .record [("date", .text (String.ofList word))]

/-- The value of a word. -/
def word? (word : List Char) : Option Datum :=
  match String.ofList word with
  | "true" => some (.bool true)
  | "false" => some (.bool false)
  | _ =>
    match whole? word, real? word with
    | some value, _ => some (.int value)
    | none, some value => some (.real value)
    | none, none => if isMoment word then some (moment word) else none

/-- A word at the start and what follows it.  A space may stand between a date
and a time. -/
def takeWord? (text : List Char) : Option (Datum × List Char) :=
  let word := text.takeWhile isWordCharacter
  let rest := text.dropWhile isWordCharacter
  match rest with
  | ' ' :: after =>
      let time := after.takeWhile isWordCharacter
      if isDate word && isOffsetTime time then
        some (moment (word ++ ' ' :: time), after.dropWhile isWordCharacter)
      else (word? word).map fun datum => (datum, rest)
  | _ => (word? word).map fun datum => (datum, rest)

/-- How many lists and inline tables may be nested. -/
def levelLimit : Nat := 79

mutual

/-- A value and what follows it. -/
def value? : Nat → Nat → List Char → Option (Datum × List Char)
  | 0, _, _ => none
  | fuel + 1, levels, text =>
      match text with
      | '[' :: rest =>
          if levels == 0 then none else items? fuel (levels - 1) [] rest
      | '\x7b' :: rest =>
          if levels == 0 then none
          else match skipSpace rest with
            | '\x7d' :: after => some (.record [], after)
            | rest => pairs? fuel (levels - 1) (.table false false []) rest
      | _ =>
          match text? text with
          | some (value, rest) => some (.text (String.ofList value), rest)
          | none => takeWord? text

/-- The items of a list after those read before, held backwards, and what
follows the list. -/
def items? : Nat → Nat → List Datum → List Char → Option (Datum × List Char)
  | 0, _, _, _ => none
  | fuel + 1, levels, held, text =>
      match skipGap false text with
      | ']' :: rest => some (.list held.reverse, rest)
      | start => do
          let (item, rest) ← value? fuel levels start
          match skipGap false rest with
          | ',' :: after => items? fuel levels (item :: held) after
          | ']' :: after => some (.list (item :: held).reverse, after)
          | _ => none

/-- The assignments of an inline table after those read before, and what follows
the table. -/
def pairs? : Nat → Nat → Node → List Char → Option (Datum × List Char)
  | 0, _, _, _ => none
  | fuel + 1, levels, held, text => do
      let (keys, rest) ← key? text
      match skipSpace rest with
      | '=' :: after =>
          let (datum, rest) ← value? fuel levels (skipSpace after)
          let held ← held.assignPath keys datum
          match skipSpace rest with
          | ',' :: after => pairs? fuel levels held after
          | '\x7d' :: after => some (held.datum, after)
          | _ => none
      | _ => none

end

/-- Reads one line of a document whose open table is at a path; also what
follows the line. -/
def line? (root : Node) (path : List String) (text : List Char) :
    Option (Node × List String × List Char) :=
  match skipSpace text with
  | '[' :: '[' :: rest => do
      let (keys, rest) ← key? rest
      match rest with
      | ']' :: ']' :: after =>
          let root ← root.changeAt false (Node.addTable (← keys.getLast?))
              keys.dropLast
          return (root, keys, ← afterLine? after)
      | _ => none
  | '[' :: rest => do
      let (keys, rest) ← key? rest
      match rest with
      | ']' :: after =>
          let root ← root.changeAt false (Node.openTable (← keys.getLast?))
              keys.dropLast
          return (root, keys, ← afterLine? after)
      | _ => none
  | start =>
      match afterLine? start with
      | some after => some (root, path, after)
      | none => do
          let (keys, rest) ← key? start
          match rest with
          | '=' :: after =>
              let (datum, rest) ←
                  value? (text.length + 1) levelLimit (skipSpace after)
              let root ← root.changeAt false (Node.assignPath keys datum) path
              return (root, path, ← afterLine? rest)
          | _ => none

/-- Reads all lines of a document. -/
def lines? : Nat → Node → List String → List Char → Option Node
  | _, root, _, [] => some root
  | 0, _, _, _ :: _ => none
  | fuel + 1, root, path, text => do
      let (root, path, rest) ← line? root path text
      lines? fuel root path rest

/-- The value that a text denotes; nothing when it is not TOML.  A byte order
mark at the start does not count. -/
def read? (text : String) : Option Datum :=
  let characters := match text.toList with
    | '\uFEFF' :: rest => rest
    | characters => characters
  (lines? characters.length (.table false false []) [] characters).map
    Node.datum

end TaskSieve.Toml
