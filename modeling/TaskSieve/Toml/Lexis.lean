import TaskSieve.Binary64.Rounding
import TaskSieve.Text.Digits

/-!
# Words and texts of TOML

Each reader takes the characters from where its piece of notation starts and
gives what the piece denotes and the characters after it.
-/

namespace TaskSieve.Toml

/-- Whether a character may separate pieces on a line. -/
def isSpace (character : Char) : Bool := character == ' ' || character == '\t'

/-- The characters after the spaces at the start. -/
def skipSpace (text : List Char) : List Char := text.dropWhile isSpace

/-- Whether a character may stand in comments and texts. -/
def isPrintable (character : Char) : Bool :=
  character == '\t' || (0x20 ≤ character.toNat && character.toNat != 0x7F)

/-- What follows a line break at the start. -/
def afterNewline? : List Char → Option (List Char)
  | '\n' :: rest => some rest
  | '\r' :: '\n' :: rest => some rest
  | _ => none

/-- What follows the end of a line, which spaces and a comment may precede. -/
def afterLine? (text : List Char) : Option (List Char) :=
  let text := skipSpace text
  let text := match text with
    | '#' :: comment => comment.dropWhile isPrintable
    | _ => text
  if text.isEmpty then some [] else afterNewline? text

/-- The characters after spaces, line breaks and comments. -/
def skipGap (inComment : Bool) : List Char → List Char
  | [] => []
  | '\n' :: rest => skipGap false rest
  | '\r' :: '\n' :: rest => skipGap false rest
  | character :: rest =>
      if inComment then
        if isPrintable character then skipGap true rest else character :: rest
      else if isSpace character then skipGap false rest
      else if character == '#' then skipGap true rest
      else character :: rest

/-- What the character after a backslash stands for. -/
def escape? : Char → Option Char
  | 'b' => some '\x08'
  | 't' => some '\t'
  | 'n' => some '\n'
  | 'f' => some '\x0c'
  | 'r' => some '\r'
  | '"' => some '"'
  | '\\' => some '\\'
  | _ => none

/-- Puts a character before the text that a reader gives. -/
def putBefore (character : Char) :
    Option (List Char × List Char) → Option (List Char × List Char)
  | some (text, rest) => some (character :: text, rest)
  | none => none

/-- A text in quotes, after the opening one. -/
def quoted : List Char → Option (List Char × List Char)
  | [] => none
  | '"' :: rest => some ([], rest)
  | '\\' :: 'u' :: a :: b :: c :: d :: rest => do
      putBefore (← Digits.character? [a, b, c, d]) (quoted rest)
  | '\\' :: 'U' :: a :: b :: c :: d :: e :: f :: g :: h :: rest => do
      putBefore (← Digits.character? [a, b, c, d, e, f, g, h]) (quoted rest)
  | '\\' :: mark :: rest => do putBefore (← escape? mark) (quoted rest)
  | character :: rest =>
      if isPrintable character then putBefore character (quoted rest) else none

/-- A text in apostrophes, after the opening one. -/
def literal : List Char → Option (List Char × List Char)
  | [] => none
  | '\'' :: rest => some ([], rest)
  | character :: rest =>
      if isPrintable character then putBefore character (literal rest) else none

/-- A text over several lines, after the opening quotes.  After a backslash at
the end of a line the blanks up to the next character do not count. -/
def quotedLines (joining : Bool) : List Char → Option (List Char × List Char)
  | [] => none
  | '"' :: '"' :: '"' :: '"' :: '"' :: rest => some (['"', '"'], rest)
  | '"' :: '"' :: '"' :: '"' :: rest => some (['"'], rest)
  | '"' :: '"' :: '"' :: rest => some ([], rest)
  | '\r' :: '\n' :: rest =>
      if joining then
        quotedLines true rest else putBefore '\n' (quotedLines false rest)
  | '\n' :: rest =>
      if joining then
        quotedLines true rest else putBefore '\n' (quotedLines false rest)
  | '\\' :: 'u' :: a :: b :: c :: d :: rest => do
      putBefore (← Digits.character? [a, b, c, d]) (quotedLines false rest)
  | '\\' :: 'U' :: a :: b :: c :: d :: e :: f :: g :: h :: rest => do
      putBefore (← Digits.character? [a, b, c, d, e, f, g, h])
        (quotedLines false rest)
  | '\\' :: mark :: rest =>
      if (afterNewline? (skipSpace (mark :: rest))).isSome then
        quotedLines true (mark :: rest)
      else do putBefore (← escape? mark) (quotedLines false rest)
  | character :: rest =>
      if joining && isSpace character then quotedLines true rest
      else if isPrintable character then
        putBefore character (quotedLines false rest)
      else none

/-- A text of plain characters over several lines, after the opening
apostrophes. -/
def literalLines : List Char → Option (List Char × List Char)
  | [] => none
  | '\'' :: '\'' :: '\'' :: '\'' :: '\'' :: rest => some (['\'', '\''], rest)
  | '\'' :: '\'' :: '\'' :: '\'' :: rest => some (['\''], rest)
  | '\'' :: '\'' :: '\'' :: rest => some ([], rest)
  | '\r' :: '\n' :: rest => putBefore '\n' (literalLines rest)
  | '\n' :: rest => putBefore '\n' (literalLines rest)
  | character :: rest =>
      if isPrintable character then putBefore character (literalLines rest)
      else none

/-- The text without a line break at its start. -/
def dropNewline (text : List Char) : List Char := (afterNewline? text).getD text

/-- A text of any of the four kinds. -/
def text? : List Char → Option (List Char × List Char)
  | '"' :: '"' :: '"' :: rest => quotedLines false (dropNewline rest)
  | '"' :: rest => quoted rest
  | '\'' :: '\'' :: '\'' :: rest => literalLines (dropNewline rest)
  | '\'' :: rest => literal rest
  | _ => none

/-- Whether a character may stand in a key without quotes. -/
def isBare (character : Char) : Bool :=
  character.isAlphanum || character == '_' || character == '-'

/-- One part of a key. -/
def keyPart? : List Char → Option (String × List Char)
  | '"' :: rest =>
      (quoted rest).map fun (text, after) => (String.ofList text, after)
  | '\'' :: rest =>
      (literal rest).map fun (text, after) => (String.ofList text, after)
  | text =>
      let part := text.takeWhile isBare
      if part.isEmpty then
        none else some (String.ofList part, text.dropWhile isBare)

/-- The greatest number of parts of a key. -/
def partLimit : Nat := 79

/-- A key of parts with dots between them; spaces around the parts do not
count. -/
def keyWithin : Nat → List Char → Option (List String × List Char)
  | 0, _ => none
  | parts + 1, text => do
      let (part, rest) ← keyPart? (skipSpace text)
      match skipSpace rest with
      | '.' :: after =>
          let (others, rest) ← keyWithin parts after
          return (part :: others, rest)
      | rest => return ([part], rest)

/-- A key. -/
def key? (text : List Char) : Option (List String × List Char) :=
  keyWithin partLimit text

/-- Digits of a base, which single underscores may separate. -/
def digits? (isDigit : Char → Bool) : List Char → Option (List Char)
  | [] => none
  | [digit] => if isDigit digit then some [digit] else none
  | digit :: '_' :: rest =>
      if isDigit digit then (digits? isDigit rest).map (digit :: ·) else none
  | digit :: rest =>
      if isDigit digit then (digits? isDigit rest).map (digit :: ·) else none

/-- The value of digits in a base. -/
def inBase? (base : Nat) (text : List Char) : Option Int := do
  let digits ← digits? (Digits.isDigit base) text
  return (← Digits.value? base digits : Nat)

/-- Whether digits have no needless zero in front. -/
def isCanonical (digits : List Char) : Bool :=
  digits.length == 1 || digits.head? != some '0'

/-- The sign of a number and what follows it. -/
def splitSign : List Char → Bool × List Char
  | '-' :: rest => (true, rest)
  | '+' :: rest => (false, rest)
  | rest => (false, rest)

/-- A whole number in decimal notation. -/
def decimal? (word : List Char) : Option Int := do
  let (negative, body) := splitSign word
  let digits ← digits? Decimal.isDigit body
  if !isCanonical digits then none
  let value : Int := Decimal.value digits
  return if negative then -value else value

/-- A whole number. -/
def whole? (word : List Char) : Option Int := do
  let value ← match word with
    | '0' :: 'x' :: digits => inBase? 16 digits
    | '0' :: 'o' :: digits => inBase? 8 digits
    | '0' :: 'b' :: digits => inBase? 2 digits
    | _ => decimal? word
  if Word.isSigned value then some value else none

/-- The exponent of a number with its sign. -/
def exponent? (text : List Char) : Option Int := do
  let (negative, body) := splitSign text
  let value : Int := Decimal.value (← digits? Decimal.isDigit body)
  return if negative then -value else value

/-- A number with a fraction or an exponent.  One too large for every number is
refused. -/
def real? (word : List Char) : Option Binary64 := do
  let (negative, body) := splitSign word
  match body with
  | ['i', 'n', 'f'] => return .infinity negative
  | ['n', 'a', 'n'] => return .nan
  | _ =>
    let isMark (character : Char) : Bool := character == 'e' || character == 'E'
    let mantissa := body.takeWhile fun character => !isMark character
    let scaled := body.dropWhile fun character => !isMark character
    let exponent ← match scaled with
      | [] => some 0
      | _ :: digits => exponent? digits
    let front := mantissa.takeWhile (· != '.')
    let wholeDigits ← digits? Decimal.isDigit front
    if !isCanonical wholeDigits then none
    let fraction ← match mantissa.dropWhile (· != '.') with
      | [] => if scaled.isEmpty then none else some []
      | _ :: digits => digits? Decimal.isDigit digits
    let value :=
      Binary64.ofDecimal negative (Decimal.value (wholeDigits ++ fraction))
      (exponent - fraction.length)
    if value == .infinity false then none else some value

/-- The value of exactly so many digits. -/
def fixed? (count : Nat) (text : List Char) : Option Nat :=
  if text.length == count then Decimal.natural? text else none

/-- Whether a year has a day more. -/
def isLeap (year : Nat) : Bool :=
  year % 4 == 0 && (year % 100 != 0 || year % 400 == 0)

/-- How many days a month has. -/
def daysOf (year month : Nat) : Nat :=
  if month == 2 then if isLeap year then 29 else 28
  else if [4, 6, 9, 11].contains month then 30
  else 31

/-- Whether a word is a date. -/
def isDate (word : List Char) : Bool :=
  match Text.splitList (· == '-') word with
  | [year, month, day] =>
      match fixed? 4 year, fixed? 2 month, fixed? 2 day with
      | some year, some month, some day =>
          1 ≤ month && month ≤ 12 && 1 ≤ day && day ≤ daysOf year month
      | _, _, _ => false
  | _ => false

/-- Whether a text is hours and minutes. -/
def isClock (text : List Char) : Bool :=
  match Text.splitList (· == ':') text with
  | [hour, minute] =>
      (fixed? 2 hour).any (· ≤ 23) && (fixed? 2 minute).any (· ≤ 59)
  | _ => false

/-- Whether a word is a time of day. -/
def isTime (word : List Char) : Bool :=
  let front := word.takeWhile (· != '.')
  let fraction := word.dropWhile (· != '.')
  match front.drop 5 with
  | ':' :: second =>
      isClock (front.take 5) && (fixed? 2 second).any (· ≤ 60) &&
        (fraction.isEmpty || (Decimal.natural? (fraction.drop 1)).isSome)
  | _ => false

/-- Whether a word is a time of day with an offset or without one. -/
def isOffsetTime (word : List Char) : Bool :=
  let isMark (character : Char) : Bool :=
    character == 'Z' || character == 'z' || character == '+' || character == '-'
  let time := word.takeWhile fun character => !isMark character
  isTime time && match word.dropWhile fun character => !isMark character with
    | [] => true
    | ['Z'] => true
    | ['z'] => true
    | mark :: offset => (mark == '+' || mark == '-') && isClock offset

/-- Whether a word is a date, a time of day, or both. -/
def isMoment (word : List Char) : Bool :=
  isDate word || isTime word ||
    (isDate (word.take 10) && match word.drop 10 with
      | mark :: time => (mark == 'T' || mark == 't') && isOffsetTime time
      | [] => false)

end TaskSieve.Toml
