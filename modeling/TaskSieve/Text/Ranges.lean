import TaskSieve.Text.Blank
import TaskSieve.Text.Digits

/-!
# Ranges of code points

A table of ranges gives code points their values: an entry holds from its first
code point up to the next entry.  A table is written as lines of words, each of
them a code point in hexadecimal, a colon, and a value.
-/

namespace TaskSieve.Text

/-- Values of ranges of code points, by increasing first code point. -/
structure Ranges (α : Type) where
  entries : Array (Nat × α)

namespace Ranges

/-- The entry that a word stands for. -/
def entry (read : List Char → α) (word : List Char) : Nat × α :=
  let first := word.takeWhile (· != ':')
  ((Digits.value? 16 first).getD 0, read (word.drop (first.length + 1)))

/-- The table that lines stand for. -/
def ofLines (read : List Char → α) (lines : List String) : Ranges α where
  entries :=
    (lines.flatMap fun line =>
      (splitList (· == ' ') line.toList).map (entry read)).toArray

/-- The place of the last entry that starts at a code point or before it, known
to be at the low place or above and below the high one. -/
def search (entries : Array (Nat × α)) (code low high : Nat) : Nat :=
  if low + 1 < high then
    let middle := (low + high) / 2
    if entries[middle]?.any fun entry => entry.1 ≤ code then
      search entries code middle high
    else search entries code low middle
  else low
termination_by high - low

/-- The entry that holds for a code point. -/
def find? (ranges : Ranges α) (code : Nat) : Option (Nat × α) :=
  ranges.entries[search ranges.entries code 0 ranges.entries.size]?

/-- The value of a code point. -/
def value? (ranges : Ranges α) (code : Nat) : Option α :=
  (ranges.find? code).map (·.2)

end Ranges

end TaskSieve.Text
