import TaskSieve.Url.Domain

/-!
# Hosts

The host of a web address is an address of four or six groups, or a domain
name.  A name whose last label is a number must be an address of four groups.
Addresses of groups are written in one way, however they are given.
-/

namespace TaskSieve.Url

/-- Why a text is no address. -/
inductive Fault
  | noBase
  | emptyHost
  | badPort
  | badName
  | badFourGroups
  | badSixGroups
  | badCharacter
  deriving DecidableEq, Repr

/-- The wording of a fault. -/
def Fault.message : Fault → String
  | .noBase => "relative URL without a base"
  | .emptyHost => "empty host"
  | .badPort => "invalid port number"
  | .badName => "invalid international domain name"
  | .badFourGroups => "invalid IPv4 address"
  | .badSixGroups => "invalid IPv6 address"
  | .badCharacter => "invalid domain character"

/-- The digits of a number. -/
def decimal (value : Nat) : List Char := (toString value).toList

/-- Splits at a separator. -/
def splitAt (separator : Char) (text : List Char) : List (List Char) :=
  Text.splitList (· == separator) text

/-- What the text of one group says: no number, a number that is too large, or a
number. -/
inductive Group
  | noNumber
  | tooLarge
  | number (value : Nat)
  deriving DecidableEq, Repr

/-- The value of digits in a base, at most what a word of 32 bits holds. -/
def Group.ofDigits (base : Nat) (digits : List Char) : Group :=
  match Digits.value? base digits with
  | some value => if value < Word.smallCount then .number value else .tooLarge
  | none => .noNumber

/-- Reads a group: hexadecimal after `0x`, octal after another zero, decimal
otherwise. -/
def Group.ofText : List Char → Group
  | [] => .noNumber
  | '0' :: mark :: digits =>
      if mark == 'x' || mark == 'X' then
        .ofDigits 16 digits else .ofDigits 8 (mark :: digits)
  | digits => .ofDigits 10 digits

/-- Whether the last label of a name is a number; one empty label may follow
it. -/
def endsInNumber (name : List Char) : Bool :=
  let labels := (splitAt '.' name).reverse
  let last := match labels with
    | [] :: label :: _ => label
    | [[]] => []
    | label :: _ => label
    | [] => []
  !last.isEmpty && (last.all Decimal.isDigit || Group.ofText last != .noNumber)

/-- The number that at most four groups are, of which the last may stand for
several. -/
def fourGroups? (name : List Char) : Option Nat := do
  let labels := splitAt '.' name
  let labels := if labels.getLast? == some [] then labels.dropLast else labels
  let values ← labels.mapM fun label => match Group.ofText label with
    | .number value => some value
    | _ => none
  let last ← values.getLast?
  let others := values.dropLast
  let fits := others.length < 4 && others.all (· ≤ 255)
    && last ≤ (Word.smallCount - 1) / Nat.pow 256 others.length
  if fits then
    let front := others.foldl (fun total value => 256 * total + value) 0
    some (front * Nat.pow 256 (4 - others.length) + last)
  else none

/-- A number as four decimal groups. -/
def fourGroups (number : Nat) : List Char :=
  ['.'].intercalate ([3, 2, 1, 0].map fun place =>
    decimal (number / Nat.pow 256 place % 256))

/-- The two pieces that four decimal groups without leading zeros are. -/
def dottedPieces? (text : List Char) : Option (List Nat) := do
  let values ← (splitAt '.' text).mapM fun part => do
    let value ← Decimal.natural? part
    if value ≤ 255 && (part.length == 1 || part.head? != some '0') then
      some value else none
  match values with
  | [first, second, third, fourth] =>
      some [256 * first + second, 256 * third + fourth]
  | _ => none

/-- The pieces of an address of six-group form, read so far. -/
structure Pieces where
  /-- The pieces before the gap. -/
  before : List Nat := []
  /-- The pieces after the gap, if there is one. -/
  after : Option (List Nat) := none

namespace Pieces

/-- How many pieces a gap counts as at least one of. -/
def count (pieces : Pieces) : Nat :=
  pieces.before.length + match pieces.after with
    | none => 0
    | some after => after.length + 1

/-- Adds pieces. -/
def add (pieces : Pieces) (more : List Nat) : Pieces :=
  match pieces.after with
  | none => { pieces with before := pieces.before ++ more }
  | some after => { pieces with after := some (after ++ more) }

/-- All eight pieces; a gap is filled with zeros. -/
def all? (pieces : Pieces) : Option (List Nat) :=
  match pieces.after with
  | none => if pieces.before.length == 8 then some pieces.before else none
  | some after =>
      let given := pieces.before.length + after.length
      some (pieces.before ++ List.replicate (8 - given) 0 ++ after)

/-- Reads the rest of an address after its pieces so far. -/
def read? : Nat → Pieces → List Char → Option (List Nat)
  | _, pieces, [] => pieces.all?
  | 0, _, _ :: _ => none
  | fuel + 1, pieces, character :: rest =>
      if pieces.count == 8 then none
      else if character == ':' then
        if pieces.after.isSome then
          none else read? fuel { pieces with after := some [] } rest
      else
        let text := character :: rest
        let digits := (text.take 4).takeWhile (Digits.isDigit 16)
        let piece := (Digits.value? 16 digits).getD 0
        match text.drop digits.length with
        | [] => read? fuel (pieces.add [piece]) []
        | '.' :: _ =>
            if digits.isEmpty || 6 < pieces.count then none
            else (dottedPieces? text).bind fun more => (pieces.add more).all?
        | ':' :: after =>
            if after.isEmpty then
              none else read? fuel (pieces.add [piece]) after
        | _ => none

end Pieces

/-- The eight pieces of an address, in which a gap between colons stands for
zeros. -/
def sixGroups? (text : List Char) : Option (List Nat) :=
  match text with
  | ':' :: ':' :: rest => Pieces.read? rest.length { after := some [] } rest
  | ':' :: _ => none
  | _ => if 2 ≤ text.length then Pieces.read? text.length {} text else none

/-- The length of the longest run of zeros, from the first of those of that
length on, and how many pieces precede it. -/
def longestZeros (pieces : List Nat) : Nat × Nat :=
  let runs := (List.range pieces.length).map fun start =>
    (((pieces.drop start).takeWhile (· == 0)).length, start)
  runs.foldl (fun best run => if best.1 < run.1 then run else best) (0, 0)

/-- Pieces as an address of six-group form: the longest run of several zeros
becomes a gap. -/
def sixGroups (pieces : List Nat) : List Char :=
  let piece (value : Nat) : List Char := Nat.toDigits 16 value
  let join (pieces : List Nat) : List Char :=
    [':'].intercalate (pieces.map piece)
  let (length, start) := longestZeros pieces
  let written :=
    if length < 2 then join pieces
    else
      join (pieces.take start) ++ [':', ':'] ++
        join (pieces.drop (start + length))
  ['['] ++ written ++ [']']

/-- The host between brackets, which have been opened. -/
def bracketed (text : List Char) : Except Fault (List Char) :=
  let pieces :=
    if text.getLast? == some ']' then sixGroups? text.dropLast else none
  match pieces with
  | some pieces => .ok (sixGroups pieces)
  | none => .error .badSixGroups

/-- The host of a web address. -/
def webHost (text : List Char) : Except Fault (List Char) :=
  match text with
  | '[' :: rest => bracketed rest
  | _ =>
      match domain? text with
      | none => .error .badName
      | some name =>
          if name.isEmpty then .error .emptyHost
          else if endsInNumber name then
            match fourGroups? name with
            | some number => .ok (fourGroups number)
            | none => .error .badFourGroups
          else .ok name

/-- Characters that no other host has. -/
def isForbiddenInOpaque (character : Char) : Bool :=
  ['\x00', '\t', '\n', '\r', ' ', '#', '/', ':', '<', '>', '?', '@', '[',
    '\\', ']', '^', '|'].contains character

/-- The host of an address of a kind that is not known. -/
def opaqueHost (text : List Char) : Except Fault (List Char) :=
  match text with
  | '[' :: rest => bracketed rest
  | _ =>
      if text.any isForbiddenInOpaque then
        .error .badCharacter else .ok (escapeAll [] text)

end TaskSieve.Url
