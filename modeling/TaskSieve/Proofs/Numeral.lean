import Mathlib.Tactic.Ring
import TaskSieve.Proofs.Decimal

/-!
# Which characters are numerals

A numeral is at most one sign and one or more digits, each worth ten times as
much as in the next place.  These are the characters that are read as a number,
and what is read is the number that they write.  Trimming takes away blank
characters at the ends and so leaves every numeral as it is.
-/

namespace TaskSieve

/-- What trimming takes away is blank and stands at the ends. -/
theorem Text.exists_trimList (characters : List Char) :
    ∃ left right, characters = left ++ trimList characters ++ right ∧
      (∀ character ∈ left, isBlank character = true) ∧
      ∀ character ∈ right, isBlank character = true := by
  let rest := characters.dropWhile isBlank
  have front : characters = characters.takeWhile isBlank ++ rest :=
    (List.takeWhile_append_dropWhile).symm
  have back : rest = trimList characters ++
      (rest.reverse.takeWhile isBlank).reverse := by
    rw [trimList, ← List.reverse_append, List.takeWhile_append_dropWhile,
      List.reverse_reverse]
  refine ⟨characters.takeWhile isBlank,
    (rest.reverse.takeWhile isBlank).reverse, ?_, ?_, ?_⟩
  · rw [List.append_assoc, ← back, ← front]
  · intro character member
    exact List.mem_takeWhile_imp member
  · intro character member
    exact List.mem_takeWhile_imp (List.mem_reverse.mp member)

namespace Decimal

variable {characters digits : List Char} {number other : Int}

/-- Whether characters are one or more of the ten digits. -/
def AreDigits (characters : List Char) : Prop :=
  characters ≠ [] ∧ ∀ character ∈ characters, '0' ≤ character ∧ character ≤ '9'

/-- The number that digits write in their places. -/
def placeValue : List Char → Nat
  | [] => 0
  | digit :: rest => digitValue digit * 10 ^ rest.length + placeValue rest

/-- Whether characters are a numeral of a number. -/
inductive Writes : List Char → Int → Prop
  | unsigned {digits : List Char} (areDigits : AreDigits digits) :
      Writes digits (placeValue digits)
  | positive {digits : List Char} (areDigits : AreDigits digits) :
      Writes ('+' :: digits) (placeValue digits)
  | negative {digits : List Char} (areDigits : AreDigits digits) :
      Writes ('-' :: digits) (-(placeValue digits : Int))

theorem foldl_eq_placeValue (total : Nat) (digits : List Char) :
    digits.foldl (fun total digit => 10 * total + digitValue digit) total =
      total * 10 ^ digits.length + placeValue digits := by
  induction digits generalizing total with
  | nil => simp [placeValue]
  | cons digit rest induction =>
      rw [List.foldl_cons, induction, placeValue, List.length_cons,
        Nat.pow_succ]
      ring

theorem value_eq_placeValue (digits : List Char) :
    value digits = placeValue digits := by
  rw [value, foldl_eq_placeValue, Nat.zero_mul, Nat.zero_add]

theorem areDigits_iff :
    AreDigits characters ↔ characters.isEmpty = false ∧
    characters.all isDigit = true := by
  rw [AreDigits, List.isEmpty_eq_false_iff, List.all_eq_true]
  simp only [isDigit, Bool.and_eq_true, decide_eq_true_eq]

theorem natural?_eq_some_iff {number : Nat} :
    natural? characters = some number ↔
      AreDigits characters ∧ placeValue characters = number := by
  rw [natural?, areDigits_iff, ← value_eq_placeValue]
  cases characters.isEmpty <;> cases characters.all isDigit <;> simp

/-- A numeral is read as its number, and nothing but numerals is read. -/
theorem integer?_eq_some_iff : integer? characters = some number ↔
      Writes characters number := by
  constructor
  · intro read
    unfold integer? at read
    split at read
    all_goals
      simp only [Option.map_eq_some_iff, Option.bind_eq_bind,
        Option.bind_eq_some_iff, natural?_eq_some_iff, Option.pure_def,
        Option.some.injEq] at read
      obtain ⟨_, ⟨_, ⟨areDigits, rfl⟩, rfl⟩, rfl⟩ := read
    · exact .negative areDigits
    · exact .positive areDigits
    · exact .unsigned areDigits
  · intro writes
    cases writes with
    | unsigned areDigits =>
        rw [integer?_of_digits (areDigits_iff.mp areDigits).2,
          natural?_eq_some_iff.mpr ⟨areDigits, rfl⟩]
        rfl
    | positive areDigits =>
        rw [integer?, natural?_eq_some_iff.mpr ⟨areDigits, rfl⟩]
        rfl
    | negative areDigits =>
        rw [integer?, natural?_eq_some_iff.mpr ⟨areDigits, rfl⟩]
        rfl

theorem Writes.unique (writes : Writes characters number)
    (again : Writes characters other) : other = number := by
  rw [← integer?_eq_some_iff] at writes again
  exact Option.some.inj (again.symm.trans writes)

theorem signed?_eq_some_iff :
    signed? characters = some number ↔ Writes characters number ∧
    Word.isSigned number = true := by
  simp only [signed?, Option.bind_eq_bind, Option.bind_eq_some_iff,
    integer?_eq_some_iff]
  constructor
  · rintro ⟨held, writes, checked⟩
    split at checked
    · next fits =>
        cases checked
        exact ⟨writes, fits⟩
    · cases checked
  · rintro ⟨writes, fits⟩
    exact ⟨number, writes, if_pos fits⟩

theorem AreDigits.solid (areDigits : AreDigits digits) :
    ∀ digit ∈ digits, Text.isBlank digit = false := by
  intro digit member
  apply isBlank_of_isDigit
  exact List.all_eq_true.mp (areDigits_iff.mp areDigits).2 digit member

theorem AreDigits.solid_cons (areDigits : AreDigits digits) {sign : Char}
    (solid : Text.isBlank sign = false) :
    ∀ character ∈ sign :: digits, Text.isBlank character = false := by
  intro character member
  rcases List.mem_cons.mp member with rfl | inDigits
  · exact solid
  · exact areDigits.solid character inDigits

theorem Writes.solid (writes : Writes characters number) :
    ∀ character ∈ characters, Text.isBlank character = false := by
  cases writes with
  | unsigned areDigits => exact areDigits.solid
  | positive areDigits => exact areDigits.solid_cons (by decide)
  | negative areDigits => exact areDigits.solid_cons (by decide)

end Decimal

end TaskSieve
