import Mathlib.Data.List.TakeWhile
import TaskSieve.Decimal
import TaskSieve.Proofs.Text.Blank

/-!
# Numerals of numbers

The numeral of a number is read as that number, also when it stands between
blank characters: numerals have none.
-/

namespace TaskSieve

theorem Text.trimList_between {left characters right : List Char}
    (blankLeft : ∀ character ∈ left, isBlank character = true)
    (blankRight : ∀ character ∈ right, isBlank character = true)
    (solid : ∀ character ∈ characters, isBlank character = false) :
    trimList (left ++ characters ++ right) = characters := by
  cases characters with
  | nil =>
      rw [List.append_nil, trimList_eq_nil_iff, List.all_append,
        Bool.and_eq_true, List.all_eq_true, List.all_eq_true]
      exact ⟨blankLeft, blankRight⟩
  | cons first rest =>
      have front : (left ++ (first :: rest) ++ right).dropWhile isBlank =
          first :: rest ++ right := by
        rw [List.append_assoc, List.dropWhile_append_of_pos blankLeft,
          List.cons_append, List.dropWhile_cons_of_neg (by simp [solid first])]
      have back : (first :: rest ++ right).reverse.dropWhile isBlank =
          (first :: rest).reverse := by
        rw [List.reverse_append,
          List.dropWhile_append_of_pos fun character member =>
          blankRight character (List.mem_reverse.mp member)]
        refine List.dropWhile_eq_self_iff.mpr fun nonempty => ?_
        rw [solid _ (List.mem_reverse.mp (List.getElem_mem nonempty))]
        exact Bool.false_ne_true
      rw [trimList, front, back, List.reverse_reverse]

namespace Decimal

theorem value_toDigits (number : Nat) :
    value (Nat.toDigits 10 number) = number := by
  have folded : value (Nat.toDigits 10 number) =
      Nat.ofDigitChars 10 (Nat.toDigits 10 number) 0 :=
    Nat.ofDigitChars_eq_foldl.symm
  rw [folded, Nat.ofDigitChars_ten_toDigits]

theorem isDigit_of_mem_toDigits {number : Nat} {digit : Char}
    (member : digit ∈ Nat.toDigits 10 number) : isDigit digit = true := by
  have decimal := Nat.isDigit_of_mem_toDigits (by decide) (by decide) member
  exact decimal

theorem natural?_toDigits (number : Nat) :
    natural? (Nat.toDigits 10 number) = some number := by
  have notEmpty : (Nat.toDigits 10 number).isEmpty = false := by
    simp [Nat.toDigits_ne_nil]
  have digits : (Nat.toDigits 10 number).all isDigit = true :=
    List.all_eq_true.mpr fun digit member => isDigit_of_mem_toDigits member
  rw [natural?, notEmpty, digits, value_toDigits]
  rfl

theorem isBlank_of_isDigit {digit : Char} (decimal : isDigit digit = true) :
    Text.isBlank digit = false := by
  have range : 48 ≤ digit.toNat ∧ digit.toNat ≤ 57 := by
    rw [isDigit, Bool.and_eq_true, decide_eq_true_eq, decide_eq_true_eq]
        at decimal
    exact decimal
  rw [Text.isBlank, List.any_eq_false]
  intro blanks member
  simp only [Text.blankRanges, List.mem_cons, List.not_mem_nil, or_false]
      at member
  rcases member with rfl | rfl | rfl | rfl | rfl | rfl | rfl | rfl | rfl
    | rfl <;>
    simp only [Bool.and_eq_true, decide_eq_true_eq] <;> omega

theorem integer?_of_digits {digits : List Char}
    (decimal : digits.all isDigit = true) :
    integer? digits = (natural? digits).map fun magnitude =>
      (magnitude : Int) := by
  rw [integer?]
  · rintro rest rfl
    cases decimal
  · rintro rest rfl
    cases decimal

/-- A numeral is a sign, if the number is negative, and the digits. -/
theorem toList_toString (number : Int) :
    (toString number).toList =
      if number < 0 then '-' :: Nat.toDigits 10 number.natAbs
      else Nat.toDigits 10 number.natAbs := by
  rw [Int.toString_eq_repr]
  cases number with
  | ofNat magnitude =>
      rw [if_neg (by simp)]
      exact Nat.toList_repr
  | negSucc magnitude =>
      rw [if_pos (Int.negSucc_lt_zero magnitude), Int.repr,
        String.toList_append, Nat.toList_repr]
      rfl

/-- The numeral of a number is read as the number. -/
theorem integer?_toString (number : Int) :
    integer? (toString number).toList = some number := by
  rw [toList_toString]
  by_cases negative : number < 0
  · have opposite : -(number.natAbs : Int) = number := by omega
    rw [if_pos negative, integer?, natural?_toDigits]
    exact congrArg some opposite
  · have digits : (Nat.toDigits 10 number.natAbs).all isDigit = true :=
      List.all_eq_true.mpr fun digit member => isDigit_of_mem_toDigits member
    have same : (number.natAbs : Int) = number := by omega
    rw [if_neg negative, integer?_of_digits digits, natural?_toDigits]
    exact congrArg some same

theorem isBlank_of_mem_toString {number : Int} {character : Char}
    (member : character ∈ (toString number).toList) :
    Text.isBlank character = false := by
  rw [toList_toString] at member
  by_cases negative : number < 0
  · rw [if_pos negative] at member
    rcases List.mem_cons.mp member with rfl | digit
    · decide
    · exact isBlank_of_isDigit (isDigit_of_mem_toDigits digit)
  · rw [if_neg negative] at member
    exact isBlank_of_isDigit (isDigit_of_mem_toDigits member)

/-- The numeral of a signed word is read between any blank characters. -/
theorem signed?_trimList_toString {number : Int}
    (isSigned : Word.isSigned number = true) {left right : List Char}
    (blankLeft : ∀ character ∈ left, Text.isBlank character = true)
    (blankRight : ∀ character ∈ right, Text.isBlank character = true) :
    signed? (Text.trimList (left ++ (toString number).toList ++ right)) =
      some number := by
  rw [Text.trimList_between blankLeft blankRight fun character =>
    isBlank_of_mem_toString, signed?,
    integer?_toString]
  simp [isSigned]

end Decimal

end TaskSieve
