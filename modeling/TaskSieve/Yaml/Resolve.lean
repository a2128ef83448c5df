import TaskSieve.Binary64.Rounding
import TaskSieve.Datum.Basic
import TaskSieve.Yaml.Node

/-!
# What scalars of YAML mean

A plain scalar has no kind of its own: it means what its reader expects, if it
can.  Where a reader takes anything, null, truth values and numbers are
recognised, and whatever is left is a text.
-/

namespace TaskSieve.Yaml

/-- The tags with a meaning of their own. -/
def standardTag (name : String) : String := "tag:yaml.org,2002:" ++ name

/-- Whether a plain scalar means null. -/
def isNull (text : String) : Bool := ["null", "Null", "NULL", "~"].contains text

/-- The truth value of a plain scalar. -/
def truth? (text : String) : Option Bool :=
  if ["true", "True", "TRUE"].contains text then some true
  else if ["false", "False", "FALSE"].contains text then some false
  else none

/-- What follows a plus sign, if there is one; nothing when another sign
follows. -/
def afterPlus? : List Char → Option (List Char)
  | '+' :: rest =>
      if rest.head?.any fun next => next == '+' || next == '-' then
        none else some rest
  | text => some text

/-- The value of digits after the mark of a base. -/
def inBase? : List Char → Option Nat
  | '0' :: mark :: digits =>
      if digits.isEmpty then none
      else if mark == 'x' then Digits.value? 16 digits
      else if mark == 'o' then Digits.value? 8 digits
      else if mark == 'b' then Digits.value? 2 digits
      else none
  | _ => none

/-- Whether a text is digits after a zero, with or without a sign, which is no
number. -/
def isPadded (text : List Char) : Bool :=
  let digits := match text with
    | '+' :: rest => rest
    | '-' :: rest => rest
    | rest => rest
  1 < digits.length && digits.head? == some '0' && digits.all Decimal.isDigit

/-- A whole number that is not negative. -/
def natural? (text : List Char) : Option Nat := do
  let body ← afterPlus? text
  match inBase? body with
  | some value => return value
  | none => if isPadded text then none else Decimal.natural? body

/-- A whole number. -/
def integer? (text : List Char) : Option Int :=
  match text with
  | '-' :: body =>
      match inBase? body with
      | some value => some (-(value : Int))
      | none =>
          if isPadded text then none
          else (Decimal.natural? body).map fun value => -(value : Int)
  | _ => (natural? text).map fun value => (value : Int)

/-- A decimal number with or without a fraction and an exponent. -/
def decimal? (text : List Char) : Option Binary64 := do
  let (negative, body) := match text with
    | '-' :: rest => (true, rest)
    | '+' :: rest => (false, rest)
    | rest => (false, rest)
  let front := body.takeWhile Decimal.isDigit
  let (fraction, tail) := match body.drop front.length with
    | '.' :: rest =>
        (rest.takeWhile Decimal.isDigit, rest.dropWhile Decimal.isDigit)
    | rest => ([], rest)
  let digits := front ++ fraction
  if digits.isEmpty then none
  let exponent ← match tail with
    | [] => some 0
    | mark :: rest =>
        if mark == 'e' || mark == 'E' then Decimal.integer? rest else none
  return .ofDecimal negative (Decimal.value digits) (exponent - fraction.length)

/-- A floating-point number.  One too large for every number is refused. -/
def real? (text : List Char) : Option Binary64 := do
  let body ← afterPlus? text
  let word := String.ofList body
  if [".inf", ".Inf", ".INF"].contains word then return .infinity false
  if ["-.inf", "-.Inf", "-.INF"].contains (String.ofList text) then
    return .infinity true
  if [".nan", ".NaN", ".NAN"].contains (String.ofList text) then return .nan
  let value ← decimal? body
  if value.isFinite then some value else none

/-- What a whole number means, which is unreadable past 64 bits.  A zero with a
sign in front is none that a word can hold. -/
def wholeDatum (negative : Bool) (value : Int) : Datum :=
  if negative && value == 0 then .real ⟨true, 0⟩
  else if Word.isSigned value || Word.isUnsigned value then .int value
  else .unreadable

/-- The whole number of a text, if some word can hold it. -/
def whole? (text : List Char) : Option Datum :=
  match integer? text with
  | some value =>
      if Word.isDouble value then
        some (wholeDatum (text.head? == some '-') value) else none
  | none => none

/-- What a plain scalar means to a reader that takes anything. -/
def plainDatum (text : String) : Datum :=
  let characters := text.toList
  if text.isEmpty || isNull text then .null
  else match truth? text, whole? characters with
    | some value, _ => .bool value
    | none, some datum => datum
    | none, none =>
        if isPadded characters then .text text
        else match real? characters with
          | some value => .real value
          | none => .text text

/-- Whether a tag is one that documents define for themselves. -/
def isLocal (tag : Option String) : Bool :=
  tag.any fun tag => tag.toList.head? == some '!'

/-- What a scalar means to a reader that takes anything. -/
def freeDatum? (tag : Option String) (style : Style) (text : String) :
    Option Datum :=
  match tag with
  | none => some (if style == .plain then plainDatum text else .text text)
  | some tag =>
      if isLocal (some tag) then none
      else if tag == standardTag "bool" then (truth? text).map .bool
      else if tag == standardTag "int" then whole? text.toList
      else if tag == standardTag "float" then (real? text.toList).map .real
      else if tag == standardTag "null" then
        if isNull text then some .null else none
      else some (.text text)

/-- What a reader expects of a node. -/
inductive Shape
  | text
  | signed
  | unsigned
  | real
  | optional (inner : Shape)
  | list (item : Shape)
  | record (fields : List (String × Shape))
  /-- Anything. -/
  | free
  deriving Inhabited

namespace Shape

/-- What is expected of a node that is not null. -/
def bare : Shape → Shape
  | .optional inner => inner.bare
  | shape => shape

/-- What a scalar means to a reader with an expectation.  Numbers are plain, or
a literal block with their tag; an empty plain scalar is an empty list or
record. -/
def scalar? (tag : Option String) (style : Style) (text : String) :
    Shape → Option Datum
  | .text => some (.text text)
  | .signed => number "int" (integer? text.toList) .int
  | .unsigned => number "int" (natural? text.toList) fun value => .int value
  | .real => number "float" (real? text.toList) .real
  | .optional inner =>
      if style != .plain then scalar? tag style text inner
      else if tag == some (standardTag "null") then
        if isNull text then some .null else none
      else if tag.isNone && (text.isEmpty || isNull text) then some .null
      else scalar? tag style text inner
  | .list _ => if style == .plain && text.isEmpty then some (.list []) else none
  | .record _ =>
      if style == .plain && text.isEmpty then some (.record []) else none
  | .free => freeDatum? tag style text
where
  /-- A number, where one may stand. -/
  number {α : Type} (kind : String) (value : Option α) (datum : α → Datum) :
      Option Datum :=
    if style == .plain ||
      (style == .literal && tag == some (standardTag kind)) then
      value.map datum
    else none

end Shape

namespace Document

/-- A reading of nodes, which keeps how many aliases may still be followed. -/
abbrev Reading (α : Type) := StateT Nat Option α

/-- Refuses the document. -/
def refuse : Reading α := fun _ => none

/-- What a node is or stands for. -/
def follow (document : Document) : Node → Reading Node
  | .alias number => fun left =>
      if left == 0 then none
      else (document.targets.find? number).map fun node => (node, left - 1)
  | node => pure node

/-- The name that a node is as a key of a record with declared fields. -/
def fieldName (document : Document) (key : Node) : Reading String := do
  match ← document.follow key with
  | .scalar _ _ text => return text
  | _ => refuse

/-- The value of a declared field; other entries are passed over. -/
def field (document : Document) (read : Shape → Node → Reading Datum)
    (fields : List (String × Shape)) (entry : Node × Node) :
    Reading (Option (String × Datum)) := do
  let name ← document.fieldName entry.1
  match fields.lookup name with
  | none => return none
  | some shape => return some (name, ← read shape entry.2)

/-- The value of a collection, given how what it holds is read. -/
def collection (document : Document) (read : Shape → Node → Reading Datum)
    (shape : Shape) :
    Node → Reading Datum
  | .sequence tag items =>
      match shape.bare with
      | .list item => do return .list (← items.mapM (read item))
      | .free =>
          if isLocal tag then
            refuse else do return .list (← items.mapM (read .free))
      | _ => refuse
  | .mapping tag entries =>
      match shape.bare with
      | .record fields => do
          return .record (← entries.filterMapM (document.field read fields))
      | .free =>
          if isLocal tag then refuse
          else do
            let entries ← entries.mapM fun entry => do
              return (← read .free entry.1, ← read .free entry.2)
            return Datum.ofEntries entries
      | _ => refuse
  | _ => refuse

/-- The value of a node for a reader with an expectation; it nests at most so
many levels. -/
def datum (document : Document) : Nat → Shape → Node → Reading Datum
  | levels, shape, node => do
      match ← document.follow node with
      | .scalar tag style text => shape.scalar? tag style text
      | node =>
          match levels with
          | 0 => refuse
          | levels + 1 => document.collection (document.datum levels) shape node

/-- How many aliases are followed at most for each mark of a document. -/
def followLimit : Nat := 100

/-- The value of a document for a reader with an expectation; it nests at most
so many levels. -/
def datum? (document : Document) (levels : Nat) (shape : Shape) :
    Option Datum :=
  (document.datum levels shape document.root).run'
    (followLimit * document.root.size)

end Document

/-- The value that a text has for a reader with an expectation; it nests at most
so many levels. -/
def read? (levels : Nat) (shape : Shape) (text : String) : Option Datum := do
  (← Document.ofTokens? (← tokens? text)).datum? levels shape

end TaskSieve.Yaml
