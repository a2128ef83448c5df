import TaskSieve.Binary64.Basic

/-!
# Shortest decimal text of a floating-point number

A finite number is written with the fewest digits that read back as it, and of
those with the nearest.  It is written without an exponent, and without a
fraction when it is whole.
-/

namespace TaskSieve.Binary64

/-- A decimal grid point: `digits * 10 ^ exponent`. -/
structure GridPoint where
  digits : Nat
  exponent : Int
  deriving DecidableEq, Repr

/-- The values that round to a positive finite number: twice the numerators of
both ends and of the number itself over twice one denominator, and whether the
ends belong to them. -/
structure Neighbourhood where
  low : Nat
  centre : Nat
  high : Nat
  denominator : Nat
  closed : Bool

/-- The values that round to a positive finite number.  Below a power of two the
next number is only half as far. -/
def neighbourhood (x : Binary64) : Neighbourhood :=
  let (significand, exponent) := x.parts
  let scale := Nat.pow 2 exponent.toNat
  let below := if significand = fractions && -1074 < exponent then 1 else 2
  { low := (4 * significand - below) * scale
    centre := 4 * significand * scale
    high := (4 * significand + 2) * scale
    denominator := 4 * Nat.pow 2 (-exponent).toNat
    closed := significand % 2 = 0 }

/-- A numerator and a denominator in units of a power of ten. -/
def inUnits (numerator denominator : Nat) (exponent : Int) : Nat × Nat :=
  (numerator * Nat.pow 10 (-exponent).toNat,
    denominator * Nat.pow 10 exponent.toNat)

/-- Whether a grid point lies in the neighbourhood. -/
def Neighbourhood.holds (around : Neighbourhood) (point : GridPoint) : Bool :=
  let (low, unit) := inUnits around.low around.denominator point.exponent
  let (high, _) := inUnits around.high around.denominator point.exponent
  let value := point.digits * unit
  if around.closed then
    low ≤ value && value ≤ high else low < value && value < high

/-- The exponent of the largest power of ten that the number reaches. -/
def Neighbourhood.decimalExponent (around : Neighbourhood) : Int :=
  let reaches (exponent : Int) : Bool :=
    let (top, bottom) := inUnits around.centre around.denominator exponent
    bottom ≤ top
  let binary : Int := (around.centre.log2 : Int) - around.denominator.log2
  let estimate := Int.fdiv (binary * 30103) 100000
  if reaches (estimate + 1) then estimate + 1
  else if reaches estimate then estimate
  else estimate - 1

/-- The nearer of the two points around the number on the grid of a power of
ten, if one of them lies in the neighbourhood. -/
def Neighbourhood.onGrid (around : Neighbourhood) (exponent : Int) :
    Option GridPoint :=
  let (top, bottom) := inUnits around.centre around.denominator exponent
  let down : GridPoint := ⟨top / bottom, exponent⟩
  let up : GridPoint := ⟨top / bottom + 1, exponent⟩
  match around.holds down, around.holds up with
  | true, true => some (if 2 * (top % bottom) < bottom then down else up)
  | true, false => some down
  | false, true => some up
  | false, false => none

/-- The first grid, from coarse to fine, that has a point in the
neighbourhood. -/
def Neighbourhood.search (around : Neighbourhood) : Nat → Int → Option GridPoint
  | 0, _ => none
  | count + 1, exponent =>
      match around.onGrid exponent with
      | some point => some point
      | none => around.search count (exponent - 1)

/-- The shortest decimal that reads back as a positive finite number. -/
def shortest (x : Binary64) : GridPoint :=
  let around := x.neighbourhood
  (around.search 17 around.decimalExponent).getD ⟨0, 0⟩

/-- A grid point in positional notation. -/
def GridPoint.text (point : GridPoint) : String :=
  let digits := Nat.toDigits 10 point.digits
  let kept := (digits.reverse.dropWhile (· == '0')).reverse
  let exponent := point.exponent + (digits.length - kept.length : Nat)
  if 0 ≤ exponent then
    String.ofList (kept ++ List.replicate exponent.toNat '0')
  else
    let places := (-exponent).toNat
    let padded := List.replicate (places + 1 - kept.length) '0' ++ kept
    String.ofList (padded.take (padded.length - places)) ++ "."
      ++ String.ofList (padded.drop (padded.length - places))

/-- The text of a value inside a message. -/
def text (x : Binary64) : String :=
  if x.isNaN then "NaN"
  else
    let body :=
      if x.magnitude = infinite then "inf"
      else if x.magnitude = 0 then "0"
      else x.shortest.text
    if x.negative then "-" ++ body else body

instance : ToString Binary64 := ⟨text⟩

/-- The text of a finite value in a document, which keeps a fraction to show
what it is. -/
def documentText (x : Binary64) : String :=
  let plain := x.text
  if plain.contains '.' then plain else plain ++ ".0"

end TaskSieve.Binary64
