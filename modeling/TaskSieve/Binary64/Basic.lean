/-!
# Binary floating-point numbers of 64 bits

A number is a sign and a magnitude.  The magnitude is the exponent field
followed by the fraction field, read as one natural number: magnitudes order
as the absolute values do, infinity is the least one with the largest
exponent field, and what lies above is not a number.
-/

namespace TaskSieve

/-- A binary floating-point number of 64 bits. -/
structure Binary64 where
  negative : Bool
  magnitude : Nat
  deriving DecidableEq, Repr

namespace Binary64

/-- How many numbers share an exponent field: two to the power of 52. -/
def fractions : Nat := 4503599627370496

/-- The magnitude of infinity. -/
def infinite : Nat := 2047 * fractions

/-- The number zero. -/
def zero : Binary64 := ⟨false, 0⟩

/-- The number one. -/
def one : Binary64 := ⟨false, 1023 * fractions⟩

/-- Infinity of either sign. -/
def infinity (negative : Bool) : Binary64 := ⟨negative, infinite⟩

/-- The value that is not a number. -/
def nan : Binary64 := ⟨false, infinite + fractions / 2⟩

instance : Inhabited Binary64 := ⟨zero⟩

/-- Whether the value is not a number. -/
def isNaN (x : Binary64) : Bool := infinite < x.magnitude

/-- Whether the value is a number and not infinite. -/
def isFinite (x : Binary64) : Bool := x.magnitude < infinite

/-- The place of a number in the order of all numbers; both zeros have place
0. -/
def place (x : Binary64) : Int :=
  if x.negative then -(x.magnitude : Int) else x.magnitude

/-- Strictly less, which holds of nothing that is not a number. -/
def less (x y : Binary64) : Bool :=
  !x.isNaN && !y.isNaN && decide (x.place < y.place)

/-- Less or equal, which holds of nothing that is not a number. -/
def atMost (x y : Binary64) : Bool :=
  !x.isNaN && !y.isNaN && decide (x.place ≤ y.place)

/-- The larger of two values; a value that is not a number gives way to the
other. -/
def larger (x y : Binary64) : Binary64 :=
  if x.isNaN || x.less y then y else x

/-- Whether a value lies between 0 and 1, both included. -/
def isFraction (x : Binary64) : Bool := zero.atMost x && x.atMost one

/-- The significand `m` and exponent `q` of a finite value, which is
`m * 2 ^ q`. -/
def parts (x : Binary64) : Nat × Int :=
  let field : Nat := x.magnitude / fractions
  let fraction : Nat := x.magnitude % fractions
  if field = 0 then
    (fraction, -1074) else (fraction + fractions, (field : Int) - 1075)

/-- A finite value without its sign, as a numerator and a denominator. -/
def ratio (x : Binary64) : Nat × Nat :=
  let (significand, exponent) := x.parts
  if 0 ≤ exponent then (significand * Nat.pow 2 exponent.toNat, 1)
  else (significand, Nat.pow 2 (-exponent).toNat)

end Binary64

end TaskSieve
