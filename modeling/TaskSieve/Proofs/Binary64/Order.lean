import TaskSieve.Binary64.Basic

/-!
# The order of numbers

Both comparisons hold of numbers only, and there they are those of the places
of the numbers.  So they chain like the order of integers, and a bound on the
largest of some numbers is a bound on each of them.
-/

namespace TaskSieve.Binary64

variable {first second third value bound : Binary64}

theorem less_eq_true_iff :
    first.less second = true ↔
      (first.isNaN = false ∧ second.isNaN = false) ∧
        first.place < second.place := by
  simp only [less, Bool.and_eq_true, Bool.not_eq_true', decide_eq_true_eq]

theorem atMost_eq_true_iff :
    first.atMost second = true ↔
      (first.isNaN = false ∧ second.isNaN = false) ∧
        first.place ≤ second.place := by
  simp only [atMost, Bool.and_eq_true, Bool.not_eq_true', decide_eq_true_eq]

theorem atMost_trans (below : first.atMost second = true)
    (above : second.atMost third = true) : first.atMost third = true := by
  rw [atMost_eq_true_iff] at below above ⊢
  exact ⟨⟨below.1.1, above.1.2⟩, Int.le_trans below.2 above.2⟩

theorem less_of_atMost (smaller : first.atMost second = true)
    (below : second.less bound = true) : first.less bound = true := by
  rw [atMost_eq_true_iff] at smaller
  rw [less_eq_true_iff] at below ⊢
  exact ⟨⟨smaller.1.1, below.1.2⟩, Int.lt_of_le_of_lt smaller.2 below.2⟩

theorem less_of_less_of_atMost (below : value.less first = true)
    (raised : first.atMost second = true) : value.less second = true := by
  rw [less_eq_true_iff] at below ⊢
  rw [atMost_eq_true_iff] at raised
  exact ⟨⟨below.1.1, raised.1.2⟩, Int.lt_of_lt_of_le below.2 raised.2⟩

theorem isNaN_of_atMost (reached : first.atMost second = true) :
    second.isNaN = false :=
  (atMost_eq_true_iff.mp reached).1.2

/-- One of some numbers that no other of them exceeds. -/
def IsLargest (values : List Binary64) (value : Binary64) : Prop :=
  value ∈ values ∧ ∀ other ∈ values, other.atMost value = true

theorem IsLargest.less_iff {values : List Binary64}
    (largest : IsLargest values value) :
    value.less bound = true ↔ ∀ other ∈ values, other.less bound = true := by
  constructor
  · intro below other member
    exact less_of_atMost (largest.2 other member) below
  · intro below
    exact below value largest.1

end TaskSieve.Binary64
