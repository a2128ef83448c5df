import TaskSieve.Binary64.Basic

/-!
# Rounding to 64-bit floating point

Every value is rounded to the nearest number; of two equally near ones the
one with the even magnitude is taken.  All arithmetic is exact, on natural
numbers.
-/

namespace TaskSieve.Binary64

/-- The quotient rounded to the nearest natural number, a half to the even
one. -/
def roundHalfEven (numerator denominator : Nat) : Nat :=
  let quotient := numerator / denominator
  let twice := 2 * (numerator % denominator)
  if denominator < twice || (twice = denominator && quotient % 2 = 1) then
    quotient + 1
  else quotient

/-- The exponent of the largest power of two that a positive ratio reaches. -/
def binaryExponent (numerator denominator : Nat) : Int :=
  let estimate : Int := (numerator.log2 : Int) - denominator.log2
  let reached :=
    if 0 ≤ estimate then denominator * Nat.pow 2 estimate.toNat ≤ numerator
    else denominator ≤ numerator * Nat.pow 2 (-estimate).toNat
  if reached then estimate else estimate - 1

/-- The magnitude nearest to a ratio, at most that of infinity. -/
def nearestMagnitude (numerator denominator : Nat) : Nat :=
  if numerator = 0 then 0
  else
    let exponent := Max.max (binaryExponent numerator denominator - 52) (-1074)
    let significand :=
      if 0 ≤ exponent then
        roundHalfEven numerator (denominator * Nat.pow 2 exponent.toNat)
      else roundHalfEven (numerator * Nat.pow 2 (-exponent).toNat) denominator
    Min.min ((exponent + 1074).toNat * fractions + significand) infinite

/-- The number nearest to a ratio of the given sign. -/
def ofRatio (negative : Bool) (numerator denominator : Nat) : Binary64 :=
  ⟨negative, nearestMagnitude numerator denominator⟩

/-- The number nearest to a whole number. -/
def ofInt (value : Int) : Binary64 :=
  ofRatio (decide (value < 0)) value.natAbs 1

/-- The number nearest to `digits * 10 ^ exponent`.  Exponents far outside the
range of the format are settled without computing the power. -/
def ofDecimal (negative : Bool) (digits : Nat) (exponent : Int) : Binary64 :=
  let leading : Int := (Nat.toDigits 10 digits).length + exponent
  if digits = 0 || leading < -330 then ⟨negative, 0⟩
  else if 310 < leading then infinity negative
  else if 0 ≤ exponent then
    ofRatio negative (digits * Nat.pow 10 exponent.toNat) 1
  else ofRatio negative digits (Nat.pow 10 (-exponent).toNat)

/-- The rounded product of finite numbers. -/
def times (x y : Binary64) : Binary64 :=
  let (top, bottom) := x.ratio
  let (factor, divisor) := y.ratio
  ofRatio (x.negative != y.negative) (top * factor) (bottom * divisor)

/-- The rounded quotient of finite numbers, the second not zero. -/
def dividedBy (x y : Binary64) : Binary64 :=
  let (top, bottom) := x.ratio
  let (factor, divisor) := y.ratio
  ofRatio (x.negative != y.negative) (top * divisor) (bottom * factor)

/-- The number nearest to a power of ten. -/
def powerOfTen (exponent : Nat) : Binary64 := ofDecimal false 1 exponent

/-- Divides by powers of ten whose exponent is at most 308, the largest one
first. -/
def shrink : Nat → Binary64 → Nat → Binary64
  | 0, x, _ => x
  | fuel + 1, x, exponent =>
      if exponent ≤ 308 then x.dividedBy (powerOfTen exponent)
      else if x.magnitude = 0 then x
      else shrink fuel (x.dividedBy (powerOfTen 308)) (exponent - 308)

/-- The number that a significand of at most 64 bits and a decimal exponent
denote when each of them is rounded before they are combined; nothing when it is
too large. -/
def ofSignificand? (negative : Bool) (significand : Nat) (exponent : Int) :
    Option Binary64 :=
  let start := ofRatio negative significand 1
  if exponent < 0 then
    some (shrink 4 start (-exponent).toNat)
  else if exponent ≤ 308 then
    let scaled := start.times (powerOfTen exponent.toNat)
    if scaled.isFinite then some scaled else none
  else if significand = 0 then some start
  else none

end TaskSieve.Binary64
