import TaskSieve.Text.Blank
import TaskSieve.Word

/-!
# Decimal numerals

A numeral is an optional sign followed by one or more of the digits `0` to
`9`.  Leading zeros are allowed and the value has no limit; readers for a
machine word refuse what lies outside it.
-/

namespace TaskSieve.Decimal

/-- Whether a character is one of the ten digits. -/
def isDigit (character : Char) : Bool := '0' ≤ character && character ≤ '9'

/-- The value of a digit. -/
def digitValue (character : Char) : Nat := character.toNat - '0'.toNat

/-- The value of a list of digits. -/
def value (digits : List Char) : Nat :=
  digits.foldl (fun total digit => 10 * total + digitValue digit) 0

/-- A non-empty list of digits as a number. -/
def natural? (characters : List Char) : Option Nat :=
  if !characters.isEmpty && characters.all isDigit then some (value characters)
  else none

/-- A numeral with at most one sign. -/
def integer? : List Char → Option Int
  | '-' :: digits => (natural? digits).map fun magnitude => -(magnitude : Int)
  | '+' :: digits => (natural? digits).map fun magnitude => (magnitude : Int)
  | digits => (natural? digits).map fun magnitude => (magnitude : Int)

/-- A numeral whose value fits a signed word of 64 bits. -/
def signed? (characters : List Char) : Option Int := do
  let number ← integer? characters
  if Word.isSigned number then some number else none

/-- A numeral in canonical form: no plus sign, no leading zero, no negative
zero. -/
def canonical? (characters : List Char) : Option Int :=
  match characters with
  | '+' :: _ => none
  | '-' :: '0' :: _ => none
  | '-' :: '+' :: _ => none
  | ['0'] => some 0
  | '0' :: _ => none
  | _ => integer? characters

/-- The digits of a number, at least as many as asked for. -/
def padded (width number : Nat) : String :=
  let digits := Nat.toDigits 10 number
  String.ofList (List.replicate (width - digits.length) '0' ++ digits)

end TaskSieve.Decimal
