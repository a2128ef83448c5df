import TaskSieve.Word

/-!
# Encoded labels

A label of a domain name with characters other than those of ASCII is sent as
digits and letters.  Its ASCII characters come first, up to the last hyphen.
Then numbers say which character is inserted where: each is a count of the
places and code points that are passed over since the insertion before it.  The
numbers have a varying count of digits in base 36, whose thresholds adapt to the
numbers before.
-/

namespace TaskSieve.Url.Label

/-- How many digits there are. -/
def base : Nat := 36

/-- The value of a digit. -/
def digit? (character : Char) : Option Nat :=
  if 'a' ≤ character && character ≤ 'z' then some (character.toNat - 'a'.toNat)
  else if '0' ≤ character && character ≤ '9' then
    some (character.toNat - '0'.toNat + 26)
  else none

/-- The digit with a value. -/
def digitOf (value : Nat) : Char :=
  if value < 26 then
    Char.ofNat ('a'.toNat + value) else Char.ofNat ('0'.toNat + (value - 26))

/-- The least value with which a digit at a position says that another one
follows. -/
def threshold (bias position : Nat) : Nat :=
  Nat.min 26 (Nat.max 1 (base * (position + 1) - bias))

/-- Goes on with the bias for numbers of a size. -/
def settleBias : Nat → Nat → Nat → Nat
  | 0, size, bias => bias + base * size / (size + 38)
  | steps + 1, size, bias =>
      if 455 < size then settleBias steps (size / 35) (bias + base)
      else bias + base * size / (size + 38)

/-- The bias after a number, when so many characters are in place. -/
def nextBias (number count : Nat) (first : Bool) : Nat :=
  let damped := if first then number / 700 else number / 2
  settleBias 10 (damped + damped / count) 0

/-- Where inserting stands. -/
structure Insertion where
  /-- The code points in place. -/
  points : List Nat
  /-- The last code point that was inserted. -/
  code : Nat := 0x80
  /-- The place behind it. -/
  place : Nat := 0
  bias : Nat := 72

/-- Inserts the code point that a number tells. -/
def Insertion.insert? (insertion : Insertion) (number : Nat) :
    Option Insertion :=
  let count := insertion.points.length + 1
  let target := insertion.place + number
  let code := insertion.code + target / count
  let place := target % count
  if code.isValidChar then
    some {
      points := insertion.points.insertIdx place code
      code := code
      place := place + 1
      bias := nextBias number count (insertion.place == 0) }
  else none

/-- Inserts the code points of the numbers that are left, of which the first has
been read in part: its value so far, the weight of its next digit, and the
position of that digit. -/
def insertAll (insertion : Insertion) (number weight position : Nat) :
    List Char → Option (List Nat)
  | [] => if position == 0 then some insertion.points else none
  | character :: rest => do
      let digit ← digit? character
      let number := number + digit * weight
      let least := threshold insertion.bias position
      if Word.smallCount ≤ insertion.place + number then none
      if digit < least then insertAll (← insertion.insert? number) 0 1 0 rest
      else if Word.smallCount ≤ weight * (base - least) then none
      else
        insertAll insertion number (weight * (base - least)) (position + 1) rest

/-- The characters that an encoded label stands for. -/
def decode? (label : List Char) : Option (List Char) := do
  let tail := (label.reverse.takeWhile (· != '-')).reverse
  let basic := (label.take (label.length - tail.length)).dropLast
  let points ← insertAll { points := basic.map Char.toNat } 0 1 0 tail
  return points.map Char.ofNat

/-- The digits of a number from a position on. -/
def digits (bias : Nat) : Nat → Nat → Nat → List Char
  | 0, _, _ => []
  | steps + 1, position, number =>
      let least := threshold bias position
      if number < least then [digitOf number]
      else
        digitOf (least + (number - least) % (base - least)) ::
          digits bias steps (position + 1) ((number - least) / (base - least))

/-- Where encoding stands. -/
structure Encoding where
  /-- The digits so far, backwards. -/
  held : List Char := []
  /-- What has been passed over since the last insertion. -/
  passed : Nat := 0
  bias : Nat := 72
  /-- How many characters are in place. -/
  count : Nat
  /-- Whether nothing has been inserted. -/
  first : Bool := true

/-- Passes over a character, or inserts it if it has the given code point. -/
def Encoding.step (code : Nat) (encoding : Encoding) (character : Char) :
    Encoding :=
  if character.toNat < code then { encoding with passed := encoding.passed + 1 }
  else if character.toNat == code then {
    held :=
      (digits encoding.bias (encoding.passed + 1) 0 encoding.passed).reverse ++
      encoding.held
    passed := 0
    bias := nextBias encoding.passed (encoding.count + 1) encoding.first
    count := encoding.count + 1
    first := false }
  else encoding

/-- Inserts the characters with the given code points, which are above the last
one. -/
def Encoding.insertAll (text : List Char) (encoding : Encoding) (last : Nat) :
    List Nat → Encoding
  | [] => encoding
  | code :: rest =>
      let start := {
        encoding with
        passed := encoding.passed + (code - last) * (encoding.count + 1) }
      let done := text.foldl (Encoding.step code) start
      Encoding.insertAll text { done with
          passed := done.passed + 1 } (code + 1) rest

/-- The encoded label that stands for characters. -/
def encode (text : List Char) : List Char :=
  let isBasic (character : Char) : Bool := character.toNat < 0x80
  let basic := text.filter isBasic
  let codes := ((text.filter (!isBasic ·)).map Char.toNat).mergeSort.eraseDups
  let encoding := Encoding.insertAll text { count := basic.length } 0x80 codes
  (if basic.isEmpty then [] else basic ++ ['-']) ++ encoding.held.reverse

end TaskSieve.Url.Label
