import Mathlib.Algebra.Order.Field.Power
import TaskSieve.Binary64.Rounding
import TaskSieve.Word

/-!
# Whole numbers as floating-point numbers

The number nearest to a whole number of a word is finite: the largest words
have 64 binary digits, and there is room for more than a thousand.
-/

namespace TaskSieve.Binary64

theorem roundHalfEven_le (numerator denominator : Nat) :
    roundHalfEven numerator denominator ≤ numerator / denominator + 1 := by
  rw [roundHalfEven]
  split <;> omega

/-- The exponent of a whole number is that of its highest binary digit. -/
theorem binaryExponent_one {number : Nat} (positive : number ≠ 0) :
    binaryExponent number 1 = number.log2 := by
  have estimate : (number.log2 : Int) - (Nat.log2 1 : Nat) = number.log2 :=
    Int.sub_zero _
  have reached : 1 * Nat.pow 2 number.log2 ≤ number := by
    rw [Nat.one_mul]
    exact Nat.log2_self_le positive
  simp only [binaryExponent, estimate, Int.natCast_nonneg, if_true,
    Int.toNat_natCast, reached]

/-- Before a whole number is rounded it has 53 binary digits. -/
theorem quotient_lt {number : Nat} {exponent : Nat}
    (long : number.log2 = exponent + 52) :
    number / (1 * Nat.pow 2 exponent) < 2 ^ 53 := by
  have below : number < 2 ^ (number.log2 + 1) := Nat.lt_log2_self
  rw [Nat.one_mul]
  apply Nat.div_lt_of_lt_mul
  calc number < 2 ^ (number.log2 + 1) := below
    _ = 2 ^ exponent * 2 ^ 53 := by rw [long, ← Nat.pow_add]

/-- A number with fewer binary digits is first given 53 of them. -/
theorem scaled_lt {number missing : Nat} (short : number.log2 + missing = 52) :
    number * Nat.pow 2 missing < 2 ^ 53 := by
  have below : number < 2 ^ (number.log2 + 1) := Nat.lt_log2_self
  calc number * 2 ^ missing < 2 ^ (number.log2 + 1) * 2 ^ missing :=
        Nat.mul_lt_mul_of_pos_right below (Nat.two_pow_pos _)
    _ = 2 ^ 53 := by rw [← Nat.pow_add]; congr 1; omega

/-- A magnitude is finite when it comes from an exponent below that of the
largest numbers and a significand of 53 digits, rounded up. -/
theorem magnitude_lt {exponent : Int} {significand : Nat}
    (small : exponent ≤ 11) (short : significand ≤ 2 ^ 53) :
    min ((exponent + 1074).toNat * fractions + significand) infinite <
      infinite := by
  apply Nat.lt_of_le_of_lt (Nat.min_le_left _ _)
  rw [infinite, fractions]
  omega

theorem nearestMagnitude_lt {number : Nat} (small : number < Word.count) :
    nearestMagnitude number 1 < infinite := by
  by_cases zero : number = 0
  · rw [nearestMagnitude, if_pos zero]
    decide
  · have digits : number.log2 < 64 := (Nat.log2_lt zero).mpr small
    rw [nearestMagnitude, if_neg zero, binaryExponent_one zero]
    by_cases long : 52 ≤ number.log2
    · obtain ⟨exponent, long⟩ : ∃ exponent, number.log2 = exponent + 52 :=
        ⟨number.log2 - 52, by omega⟩
      have exponentIs : max ((number.log2 : Int) - 52) (-1074) = exponent := by
        omega
      have rounded := roundHalfEven_le number (1 * Nat.pow 2 exponent)
      have quotient := quotient_lt long
      simp only [exponentIs, Int.natCast_nonneg, if_true, Int.toNat_natCast]
      exact magnitude_lt (by omega) (by omega)
    · obtain ⟨missing, short⟩ : ∃ missing, number.log2 + missing = 52 :=
        ⟨52 - number.log2, by omega⟩
      have exponentIs : max ((number.log2 : Int) - 52) (-1074) =
          -(missing : Int) := by omega
      have negative : ¬(0 ≤ -(missing : Int)) := by omega
      have rounded := roundHalfEven_le (number * Nat.pow 2 missing) 1
      have scaled := scaled_lt short
      simp only [exponentIs, negative, if_false, Int.neg_neg, Int.toNat_natCast]
      exact magnitude_lt (by omega) (by omega)

theorem isFinite_ofInt {value : Int} (small : value.natAbs < Word.count) :
    (ofInt value).isFinite = true :=
  decide_eq_true (nearestMagnitude_lt small)

end TaskSieve.Binary64
