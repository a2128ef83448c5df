import TaskSieve.Decimal

/-!
# Digits of any base up to sixteen

The letters `a` to `f`, large or small, are the digits above nine.  A list of
digits has a value in a base when each of them is below it.
-/

namespace TaskSieve.Digits

/-- The value of a hexadecimal digit. -/
def digit? (character : Char) : Option Nat :=
  if Decimal.isDigit character then some (Decimal.digitValue character)
  else if 'a' ≤ character && character ≤ 'f' then
    some (character.toNat - 'a'.toNat + 10)
  else if 'A' ≤ character && character ≤ 'F' then
    some (character.toNat - 'A'.toNat + 10)
  else none

/-- Whether a character is a digit of a base. -/
def isDigit (base : Nat) (character : Char) : Bool :=
  (digit? character).any (· < base)

/-- The value in a base of a list of its digits, zero if there are none. -/
def value? (base : Nat) (digits : List Char) : Option Nat :=
  if digits.all (isDigit base) then
    some (digits.foldl
      (fun total digit => base * total + (digit? digit).getD 0) 0)
  else none

/-- The character whose code point hexadecimal digits give. -/
def character? (digits : List Char) : Option Char := do
  let point ← value? 16 digits
  if point.isValidChar then some (Char.ofNat point) else none

end TaskSieve.Digits
