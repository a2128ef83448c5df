import Mathlib.Data.List.TakeWhile
import TaskSieve.Text.Blank

/-!
# What trimming leaves

Trimming leaves nothing of a text exactly when every character of it is blank.
-/

namespace TaskSieve.Text

theorem trimList_eq_nil_iff (characters : List Char) :
    trimList characters = [] ↔ characters.all isBlank = true := by
  rw [trimList, List.reverse_eq_nil_iff, List.dropWhile_eq_nil_iff,
    List.all_eq_true]
  constructor
  · intro rest character member
    cases first : characters.dropWhile isBlank with
    | nil => exact List.dropWhile_eq_nil_iff.mp first character member
    | cons head others =>
        have blank := rest head (by simp [first])
        have notBlank := List.head?_dropWhile_not isBlank characters
        simp [first, blank] at notBlank
  · intro all character member
    exact all character
      ((List.dropWhile_sublist isBlank).subset (List.mem_reverse.mp member))

/-- A text is blank throughout when nothing is left of it after trimming. -/
theorem isAllBlank_iff (text : String) : isAllBlank text = true ↔
      trim text = "" := by
  rw [isAllBlank, ← trimList_eq_nil_iff, trim, String.ofList_eq_empty_iff]

end TaskSieve.Text
