import Mathlib.Data.List.Infix
import TaskSieve.Path

/-!
# Paths as lists of segments

The segments of a path, joined by slashes, are the path again.  So the segments
of a path begin with those of another one exactly when the path is the other
one or continues it after a slash.
-/

namespace TaskSieve

namespace Text

theorem splitList_eq_splitOnP (test : Char → Bool) (characters : List Char) :
    splitList test characters = characters.splitOnP test := by
  induction characters with
  | nil => rfl
  | cons character rest induction =>
      rw [splitList, induction, List.splitOnP_cons_eq_if_modifyHead]
      by_cases ends : test character = true
      · rw [if_pos ends, if_pos ends]
      · rw [if_neg ends, if_neg ends]
        cases pieces : rest.splitOnP test with
        | nil => exact (List.splitOnP_ne_nil test rest pieces).elim
        | cons first others => rfl

theorem not_of_mem_splitList {test : Char → Bool} {characters piece : List Char}
    {character : Char} (member : piece ∈ splitList test characters)
    (inPiece : character ∈ piece) : test character = false := by
  induction characters generalizing piece with
  | nil => simp_all [splitList]
  | cons first rest induction =>
      rw [splitList] at member
      by_cases ends : test first = true
      · rw [if_pos ends] at member
        rcases List.mem_cons.mp member with rfl | later
        · cases inPiece
        · exact induction later inPiece
      · rw [if_neg ends] at member
        cases pieces : splitList test rest with
        | nil => simp_all
        | cons front others =>
            rw [pieces] at member induction
            rcases List.mem_cons.mp member with rfl | later
            · rcases List.mem_cons.mp inPiece with rfl | inFront
              · simpa using ends
              · exact induction List.mem_cons_self inFront
            · exact induction (List.mem_cons_of_mem _ later) inPiece

theorem intercalate_append {separator : List Char}
    {front back : List (List Char)} (frontNonempty : front ≠ [])
    (backNonempty : back ≠ []) :
    separator.intercalate (front ++ back) =
      separator.intercalate front ++
        (separator ++ separator.intercalate back) := by
  induction front with
  | nil => exact (frontNonempty rfl).elim
  | cons piece rest induction =>
      by_cases last : rest = []
      · rw [last, List.singleton_append, List.intercalate_singleton,
          List.intercalate_cons_of_ne_nil backNonempty, List.append_assoc]
      · rw [List.cons_append, List.intercalate_cons_of_ne_nil (by simp [last]),
          induction last, List.intercalate_cons_of_ne_nil last]
        simp only [List.append_assoc]

/-- The pieces of a text begin with those of another one when the text is the
other one or continues it after a separator. -/
theorem splitOn_prefix_iff {separator : Char} {start text : List Char} :
    start.splitOn separator <+: text.splitOn separator ↔
      text = start ∨ ∃ rest, text = start ++ separator :: rest := by
  constructor
  · rintro ⟨more, pieces⟩
    have joined : [separator].intercalate (start.splitOn separator ++ more) =
        text := by
      rw [pieces, List.intercalate_splitOn]
    by_cases last : more = []
    · rw [last, List.append_nil, List.intercalate_splitOn] at joined
      exact .inl joined.symm
    · rw [intercalate_append (List.splitOn_ne_nil separator start) last,
        List.intercalate_splitOn] at joined
      exact .inr ⟨[separator].intercalate more, joined.symm⟩
  · rintro (rfl | ⟨rest, rfl⟩)
    · exact List.prefix_rfl
    · rw [List.splitOn_append_cons_self]
      exact List.prefix_append _ _

end Text

namespace Path

theorem segments_eq (path : String) :
    segments path = (path.toList.splitOn '/').map String.ofList := by
  rw [segments, Text.splitList_eq_splitOnP, List.splitOn_eq_splitOnP]

theorem segments_prefix_iff {directory path : String} :
    segments directory <+: segments path ↔
      path.toList = directory.toList ∨
      ∃ rest, path.toList = directory.toList ++ '/' :: rest := by
  have injective : Function.Injective String.ofList := by
    intro left right same
    simpa using congrArg String.toList same
  rw [segments_eq, segments_eq, List.prefix_map_iff_of_injective injective,
    Text.splitOn_prefix_iff]

end Path

end TaskSieve
