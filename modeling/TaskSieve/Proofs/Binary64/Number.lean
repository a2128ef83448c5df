import Mathlib.Algebra.Order.Field.Power
import Mathlib.Algebra.Order.Ring.Unbundled.Rat
import Mathlib.Tactic.NormNum
import Mathlib.Tactic.Positivity
import TaskSieve.Binary64.Basic

/-!
# The number that a floating-point value stands for

A finite value is a significand times a power of two, with a sign.  Values are
compared by their magnitudes, and this tells rightly which of them lie between
0 and 1 as numbers.
-/

namespace TaskSieve.Binary64

/-- The absolute value of a finite value. -/
def size (x : Binary64) : ℚ := x.parts.1 * 2 ^ x.parts.2

/-- The number that a finite value stands for. -/
def number (x : Binary64) : ℚ := if x.negative then -x.size else x.size

variable {x : Binary64}

theorem parts_of_zero_field (field : x.magnitude / fractions = 0) :
    x.parts = (x.magnitude % fractions, -1074) := by
  simp [parts, field]

theorem parts_of_field (field : x.magnitude / fractions ≠ 0) :
    x.parts =
      (x.magnitude % fractions + fractions,
        ((x.magnitude / fractions : Nat) : ℤ) - 1075) := by
  simp [parts, field]

theorem size_nonneg (x : Binary64) : 0 ≤ x.size :=
  mul_nonneg (Nat.cast_nonneg _) (zpow_nonneg (by norm_num) _)

theorem size_eq_zero_iff : x.size = 0 ↔ x.magnitude = 0 := by
  have power : (2 : ℚ) ^ x.parts.2 ≠ 0 := zpow_ne_zero _ (by norm_num)
  rw [size, mul_eq_zero_iff_right power, Nat.cast_eq_zero]
  by_cases field : x.magnitude / fractions = 0
  · rw [parts_of_zero_field field]
    simp only [fractions] at field ⊢
    omega
  · rw [parts_of_field field]
    simp only [fractions] at field ⊢
    omega

theorem size_le_one (small : x.magnitude ≤ one.magnitude) : x.size ≤ 1 := by
  have below : x.magnitude ≤ 1023 * fractions := small
  by_cases whole : x.magnitude / fractions = 1023
  · have field : x.magnitude / fractions ≠ 0 := by omega
    have remainder : x.magnitude % fractions = 0 := by
      simp only [fractions] at below whole ⊢
      omega
    rw [size, parts_of_field field, remainder, whole]
    norm_num [fractions]
  · have significand : x.parts.1 < 2 ^ 53 ∧ x.parts.2 ≤ -53 := by
      by_cases field : x.magnitude / fractions = 0
      · rw [parts_of_zero_field field]
        simp only [fractions]
        omega
      · rw [parts_of_field field]
        simp only [fractions] at below whole ⊢
        omega
    have top : (x.parts.1 : ℚ) ≤ 2 ^ (53 : ℤ) := by
      exact_mod_cast significand.1.le
    calc x.size = x.parts.1 * 2 ^ x.parts.2 := rfl
      _ ≤ 2 ^ (53 : ℤ) * 2 ^ (-53 : ℤ) :=
        mul_le_mul top (zpow_le_zpow_right₀ (by norm_num) significand.2)
          (by positivity)
          (by positivity)
      _ = 1 := by norm_num

theorem one_lt_size (large : one.magnitude < x.magnitude) : 1 < x.size := by
  have above : 1023 * fractions < x.magnitude := large
  have field : x.magnitude / fractions ≠ 0 := by
    simp only [fractions] at above ⊢
    omega
  by_cases whole : x.magnitude / fractions = 1023
  · have remainder : 1 ≤ x.magnitude % fractions := by
      simp only [fractions] at above whole ⊢
      omega
    have top : (1 : ℚ) ≤ (x.magnitude % fractions : Nat) := by
      exact_mod_cast remainder
    calc (1 : ℚ) < (1 + fractions) * 2 ^ (-52 : ℤ) := by norm_num [fractions]
      _ ≤ ((x.magnitude % fractions : Nat) + fractions) * 2 ^ (-52 : ℤ) := by
        gcongr
      _ = x.size := by
        rw [size, parts_of_field field, whole]
        norm_num
  · have exponent : (-51 : ℤ) ≤ (x.magnitude / fractions : Nat) - 1075 := by
      simp only [fractions] at above whole ⊢
      omega
    have top :
        (fractions : ℚ) ≤ (x.magnitude % fractions + fractions : Nat) := by
      exact_mod_cast Nat.le_add_left _ _
    calc (1 : ℚ) < fractions * 2 ^ (-51 : ℤ) := by norm_num [fractions]
      _ ≤ (x.magnitude % fractions + fractions : Nat) *
          2 ^ (((x.magnitude / fractions : Nat) : ℤ) - 1075) :=
        mul_le_mul top (zpow_le_zpow_right₀ (by norm_num) exponent)
          (by positivity)
          (Nat.cast_nonneg _)
      _ = x.size := by rw [size, parts_of_field field]

theorem size_le_one_iff : x.size ≤ 1 ↔ x.magnitude ≤ one.magnitude := by
  constructor
  · intro small
    by_contra large
    exact (one_lt_size (Nat.lt_of_not_le large)).not_ge small
  · exact size_le_one

theorem one_lt_infinite : one.magnitude < infinite := by decide

theorem isFraction_iff_magnitude :
    x.isFraction = true ↔
      if x.negative then x.magnitude = 0 else x.magnitude ≤ one.magnitude := by
  have zeroPlace : zero.place = 0 := rfl
  have onePlace : one.place = one.magnitude := rfl
  have oneFinite := one_lt_infinite
  have zeroFinite : zero.magnitude < infinite := by decide
  simp only [isFraction, atMost, isNaN, zeroPlace, onePlace, Bool.and_eq_true,
    Bool.not_eq_true', decide_eq_false_iff_not, decide_eq_true_eq, Nat.not_lt]
  rw [place]
  cases x.negative with
  | false =>
      simp only [Bool.false_eq_true, if_false]
      omega
  | true =>
      simp only [if_true]
      omega

/-- The values between 0 and 1 are those that stand for a number there; infinity
and what is not a number do not. -/
theorem isFraction_iff :
    x.isFraction = true ↔ x.isFinite = true ∧ 0 ≤ x.number ∧ x.number ≤ 1 := by
  have nonneg := x.size_nonneg
  have finite : x.magnitude ≤ one.magnitude → x.isFinite = true := by
    intro small
    exact decide_eq_true (Nat.lt_of_le_of_lt small one_lt_infinite)
  rw [isFraction_iff_magnitude, number]
  cases x.negative with
  | false =>
      simp only [Bool.false_eq_true, if_false, size_le_one_iff]
      exact ⟨fun small => ⟨finite small, nonneg, small⟩,
        fun inside => inside.2.2⟩
  | true =>
      simp only [if_true]
      constructor
      · intro isZero
        have sizeZero := size_eq_zero_iff.mpr isZero
        exact ⟨finite (by simp [isZero]), by simp [sizeZero], by
            simp [sizeZero]⟩
      · rintro ⟨_, notNegative, _⟩
        exact size_eq_zero_iff.mp
          (le_antisymm (neg_nonneg.mp notNegative) nonneg)

end TaskSieve.Binary64
