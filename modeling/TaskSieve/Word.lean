/-!
# Machine words

Whole numbers in documents are kept in words of 64 bits, signed or unsigned.
What a sum or a difference of words has beyond the word is lost: it comes
round at the other end.
-/

namespace TaskSieve.Word

/-- How many values a word of 64 bits has: two to the power of 64. -/
def count : Nat := 18446744073709551616

/-- How many values a word of 32 bits has. -/
def smallCount : Nat := 4294967296

/-- The least number that no signed word of 64 bits holds: two to the power of
63. -/
def signedLimit : Nat := 9223372036854775808

/-- Whether a number fits a signed word of 64 bits. -/
def isSigned (number : Int) : Bool :=
  -(signedLimit : Int) ≤ number && number < signedLimit

/-- Whether a number fits an unsigned word of 64 bits. -/
def isUnsigned (number : Int) : Bool := 0 ≤ number && number < count

/-- Whether some word of 128 bits, signed or unsigned, holds a number. -/
def isDouble (number : Int) : Bool :=
  -((count * signedLimit : Nat) : Int) ≤ number &&
    number < (count * count : Nat)

/-- The signed word for a number that may be too small for one: below the least
word counting goes on from the greatest. -/
def comeRound (number : Int) : Int :=
  if number < -(signedLimit : Int) then number + count else number

theorem le_comeRound (number : Int) : number ≤ comeRound number := by
  unfold comeRound
  split
  · exact Int.le_add_of_nonneg_right (Int.natCast_nonneg count)
  · exact Int.le_refl number

theorem comeRound_eq_self {number : Int}
    (fits : -(signedLimit : Int) ≤ number) : comeRound number = number :=
  if_neg (Int.not_lt.mpr fits)

theorem toNat_lt_count (word : UInt64) : word.toNat < count := word.toNat_lt

/-- The sum of two words, as long as a word holds it. -/
theorem toNat_add_of_lt {left right : UInt64}
    (fits : left.toNat + right.toNat < count) :
    (left + right).toNat = left.toNat + right.toNat := by
  rw [UInt64.toNat_add]
  exact Nat.mod_eq_of_lt fits

end TaskSieve.Word
