import TaskSieve.Datum.Basic
import TaskSieve.Text.Digits
import TaskSieve.Text.Utf8

/-!
# Reading JSON

Text is cut into tokens character by character, and the tokens are put
together by a machine with a stack of the lists and records that are still
open.  Both are folds over their input, so nesting has no limit here.

Numbers follow the notation's usual rules for machine words: whole numbers of
64 bits are kept, all others become floating-point numbers, and a number past
every range is unreadable, as is a text with half of a surrogate pair or with
bytes that are no text.  What is unreadable can still be passed over.
-/

namespace TaskSieve.Json

/-- What stands between quotes. -/
structure Quotation where
  /-- Its text; nothing when it has half of a surrogate pair or bytes that are
  no text. -/
  text : Option String
  /-- Whether it is written without escapes. -/
  isPlain : Bool

/-- The pieces of the notation. -/
inductive Token
  | openList
  | closeList
  | openRecord
  | closeRecord
  | comma
  | colon
  | text (quotation : Quotation)
  /-- A number or a literal name. -/
  | scalar (value : Datum)

/-- The parts of a number as written. -/
structure Numeral where
  negative : Bool
  whole : List Char
  fraction : Option (List Char)
  exponent : Option Int

/-- The digits at the start of a text, and what follows them. -/
def spanDigits (characters : List Char) : List Char × List Char :=
  (characters.takeWhile Decimal.isDigit, characters.dropWhile Decimal.isDigit)

/-- A whole part: a zero alone, or digits that do not start with zero. -/
def isWholePart : List Char → Bool
  | [] => false
  | ['0'] => true
  | '0' :: _ => false
  | _ => true

/-- An exponent with its sign. -/
def exponent? : List Char → Option Int
  | '+' :: digits => (Decimal.natural? digits).map fun value => (value : Int)
  | '-' :: digits => (Decimal.natural? digits).map fun value => -(value : Int)
  | digits => (Decimal.natural? digits).map fun value => (value : Int)

/-- The exponent part at the end of a number; an absent one is allowed. -/
def exponentPart? : List Char → Option (Option Int)
  | [] => some none
  | mark :: rest =>
      if mark = 'e' || mark = 'E' then (exponent? rest).map some else none

/-- The parts of a number. -/
def Numeral.ofText? (characters : List Char) : Option Numeral := do
  let (negative, body) := match characters with
    | '-' :: rest => (true, rest)
    | rest => (false, rest)
  let (whole, rest) := spanDigits body
  if !isWholePart whole then none
  match rest with
  | '.' :: after =>
      let (fraction, rest) := spanDigits after
      if fraction.isEmpty then none
      let exponent ← exponentPart? rest
      return ⟨negative, whole, some fraction, exponent⟩
  | _ =>
      let exponent ← exponentPart? rest
      return ⟨negative, whole, none, exponent⟩

/-- Adds digits to a significand as long as it fits a word of 64 bits; also how
many digits were left over. -/
def absorb : Nat → List Char → Nat × Nat
  | significand, [] => (significand, 0)
  | significand, digit :: rest =>
      let next := 10 * significand + Decimal.digitValue digit
      if next < Word.count then
        absorb next rest else (significand, rest.length + 1)

/-- The floating-point number of a numeral.  Its significand keeps the digits
that fit a word of 64 bits; further digits of the whole part raise the exponent,
further digits of the fraction are dropped. -/
def Numeral.real? (numeral : Numeral) : Option Binary64 :=
  let (head, extra) := absorb 0 numeral.whole
  let fraction := numeral.fraction.getD []
  let (significand, dropped) := absorb head fraction
  let exponent : Int :=
    (extra : Int) - ((fraction.length - dropped : Nat) : Int)
  Binary64.ofSignificand? numeral.negative significand
    (exponent + numeral.exponent.getD 0)

/-- The value of a numeral. -/
def Numeral.datum (numeral : Numeral) : Datum :=
  let magnitude : Int := Decimal.value numeral.whole
  let value := if numeral.negative then -magnitude else magnitude
  let isWhole := numeral.fraction.isNone && numeral.exponent.isNone
  let isWord :=
    if numeral.negative then value != 0 && Word.isSigned value
    else Word.isUnsigned value
  if isWhole && isWord then .int value
  else match numeral.real? with
    | some value => .real value
    | none => .unreadable

/-- The value of a word outside quotes. -/
def word? (characters : List Char) : Option Datum :=
  match String.ofList characters with
  | "null" => some .null
  | "true" => some (.bool true)
  | "false" => some (.bool false)
  | _ => (Numeral.ofText? characters).map Numeral.datum

/-- What stands among the code units of a text for bytes that are no text. -/
def noText : Nat := 0x110000

/-- The text of code units in which a high surrogate stands before a low one. -/
def joinUnits : List Nat → Option (List Char)
  | [] => some []
  | unit :: rest =>
      if 0xD800 ≤ unit && unit < 0xDC00 then
        match rest with
        | low :: others =>
            if 0xDC00 ≤ low && low < 0xE000 then
              (joinUnits others).map
                (Char.ofNat
                  (0x10000 + (unit - 0xD800) * 0x400 + (low - 0xDC00)) :: ·)
            else none
        | [] => none
      else if 0xDC00 ≤ unit && unit < 0xE000 || unit == noText then none
      else (joinUnits rest).map (Char.ofNat unit :: ·)

/-- What the character after a backslash stands for, when it stands for itself
or a control. -/
def escape? : Char → Option Nat
  | '"' => some 0x22
  | '\\' => some 0x5C
  | '/' => some 0x2F
  | 'b' => some 0x08
  | 'f' => some 0x0C
  | 'n' => some 0x0A
  | 'r' => some 0x0D
  | 't' => some 0x09
  | _ => none

/-- A quotation that is still open. -/
structure Quoting where
  /-- Its code units, backwards. -/
  units : List Nat := []
  isPlain : Bool := true

namespace Quoting

/-- Adds a code unit. -/
def add (quoting : Quoting) (unit : Nat) : Quoting :=
  { quoting with units := unit :: quoting.units }

/-- The finished quotation. -/
def close (quoting : Quoting) : Quotation where
  text := (joinUnits quoting.units.reverse).map String.ofList
  isPlain := quoting.isPlain

end Quoting

/-- Where cutting into tokens stands.  Words are held backwards. -/
inductive Mode
  | between
  | word (characters : List Char)
  | quoted (quoting : Quoting)
  | escaped (quoting : Quoting)
  | hex (quoting : Quoting) (value : Nat) (owed : Nat)

/-- Whether a character belongs to a word outside quotes. -/
def isWordCharacter (character : Char) : Bool :=
  character.isAlphanum || character == '+' || character == '-' ||
    character == '.'

/-- The token of a character that is one by itself. -/
def mark? : Char → Option Token
  | '[' => some .openList
  | ']' => some .closeList
  | '\x7b' => some .openRecord
  | '\x7d' => some .closeRecord
  | ',' => some .comma
  | ':' => some .colon
  | _ => none

/-- Whether a character may stand between tokens. -/
def isSpace (character : Char) : Bool :=
  character == ' ' || character == '\t' || character == '\n' ||
    character == '\r'

/-- Reads a character where a token may start. -/
def startToken (tokens : List Token) (character : Char) :
    Option (List Token × Mode) :=
  if isSpace character then some (tokens, .between)
  else if character == '"' then some (tokens, .quoted {})
  else if isWordCharacter character then some (tokens, .word [character])
  else (mark? character).map fun token => (token :: tokens, .between)

/-- Reads the next character of what has been cut so far. -/
def cut : List Token × Mode → Char → Option (List Token × Mode)
  | (tokens, .between), character => startToken tokens character
  | (tokens, .word held), character =>
      if isWordCharacter character then some (tokens, .word (character :: held))
      else do
        let value ← word? held.reverse
        startToken (.scalar value :: tokens) character
  | (tokens, .quoted quoting), character =>
      if character == '"' then some (.text quoting.close :: tokens, .between)
      else if character == '\\' then
        some (tokens, .escaped { quoting with isPlain := false })
      else if character.toNat < 0x20 then none
      else some (tokens, .quoted (quoting.add character.toNat))
  | (tokens, .escaped quoting), character =>
      if character == 'u' then some (tokens, .hex quoting 0 4)
      else
        (escape? character).map fun unit => (tokens, .quoted (quoting.add unit))
  | (tokens, .hex quoting value owed), character => do
      let digit ← Digits.digit? character
      let value := 16 * value + digit
      if owed ≤ 1 then return (tokens, .quoted (quoting.add value))
      else return (tokens, .hex quoting value (owed - 1))

/-- Reads the next piece: a character, or bytes that are no text, which stand
only in quotations. -/
def cutPiece (progress : List Token × Mode) :
    Option Char → Option (List Token × Mode)
  | some character => cut progress character
  | none =>
      match progress with
      | (tokens, .quoted quoting) => some (tokens, .quoted (quoting.add noText))
      | _ => none

/-- The tokens of pieces of text. -/
def tokens? (pieces : List (Option Char)) : Option (List Token) := do
  match ← pieces.foldlM cutPiece ([], .between) with
  | (tokens, .between) => return tokens.reverse
  | (tokens, .word held) =>
      let value ← word? held.reverse
      return (.scalar value :: tokens).reverse
  | _ => none

/-- The name that the next value of a record belongs to. -/
structure Name where
  /-- Nothing when it is unreadable. -/
  text : Option String
  /-- Whether a value can be read under it. -/
  isProper : Bool

/-- A list or record that is still open; what it holds is kept backwards. -/
inductive Frame
  | list (items : List Datum)
  /-- A record, and the name of the next value. -/
  | record (fields : List (String × Datum)) (readable : Bool)
    (name : Option Name)

/-- What may come next. -/
inductive Expecting
  | value
  | valueOrClose
  | name
  | nameOrClose
  | colon
  | commaOrClose
  | done (value : Datum)

/-- The field that a value makes with a name, if that is readable. -/
def Name.field? (name : Name) (value : Datum) : Option (String × Datum) :=
  name.text.map fun text => (text, if name.isProper then value else .unreadable)

/-- Hands a finished value to the innermost open list or record. -/
def deliver (value : Datum) : List Frame → List Frame × Expecting
  | [] => ([], .done value)
  | .list items :: outer => (.list (value :: items) :: outer, .commaOrClose)
  | .record fields readable name :: outer =>
      match name.bind (·.field? value) with
      | some field =>
          (.record (field :: fields) readable none :: outer, .commaOrClose)
      | none => (.record fields false none :: outer, .commaOrClose)

/-- Closes the innermost list. -/
def closeList : List Frame → Option (List Frame × Expecting)
  | .list items :: outer => some (deliver (.list items.reverse) outer)
  | _ => none

/-- Closes the innermost record. -/
def closeRecord : List Frame → Option (List Frame × Expecting)
  | .record fields readable _ :: outer =>
      some (deliver (if readable then .record fields.reverse else .unreadable)
        outer)
  | _ => none

/-- Reads the token of a value, or the one that opens it. -/
def startValue (stack : List Frame) : Token → Option (List Frame × Expecting)
  | .scalar value => some (deliver value stack)
  | .text quotation =>
      some (deliver ((quotation.text.map .text).getD .unreadable) stack)
  | .openList => some (.list [] :: stack, .valueOrClose)
  | .openRecord => some (.record [] true none :: stack, .nameOrClose)
  | _ => none

/-- Reads the name of a field.  Some names must be written without escapes. -/
def startName (mustBePlain : String → Bool) :
    List Frame → Token → Option (List Frame × Expecting)
  | .record fields readable _ :: outer, .text quotation =>
      let isProper := quotation.isPlain || !quotation.text.any mustBePlain
      some (.record fields readable (some ⟨quotation.text, isProper⟩) :: outer,
        .colon)
  | _, _ => none

/-- Reads the next token. -/
def build (mustBePlain : String → Bool) :
    List Frame × Expecting → Token → Option (List Frame × Expecting)
  | (stack, .value), token => startValue stack token
  | (stack, .valueOrClose), .closeList => closeList stack
  | (stack, .valueOrClose), token => startValue stack token
  | (stack, .name), token => startName mustBePlain stack token
  | (stack, .nameOrClose), .closeRecord => closeRecord stack
  | (stack, .nameOrClose), token => startName mustBePlain stack token
  | (stack, .colon), .colon => some (stack, .value)
  | (stack, .commaOrClose), .closeList => closeList stack
  | (stack, .commaOrClose), .closeRecord => closeRecord stack
  | (.list items :: outer, .commaOrClose), .comma =>
      some (.list items :: outer, .value)
  | (.record fields readable name :: outer, .commaOrClose), .comma =>
      some (.record fields readable name :: outer, .name)
  | _, _ => none

/-- The value that pieces of text denote, nothing when they are not JSON.  Under
some names only those values can be read whose name is written without
escapes. -/
def readPieces? (mustBePlain : String → Bool) (pieces : List (Option Char)) :
    Option Datum := do
  let tokens ← tokens? pieces
  match ← tokens.foldlM (build mustBePlain) ([], .value) with
  | (_, .done value) => return value
  | _ => none

/-- The value that a text denotes; nothing when it is not JSON. -/
def read? (text : String) : Option Datum :=
  readPieces? (fun _ => false) (text.toList.map some)

/-- The value that bytes denote, nothing when they are not JSON.  Names that are
numbers must be written without escapes. -/
def readBytes? (bytes : ByteArray) : Option Datum :=
  readPieces? (fun name => (Decimal.canonical? name.toList).isSome)
    (Utf8.pieces bytes)

end TaskSieve.Json
