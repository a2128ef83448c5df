/-!
# Blank characters

A character is blank when Unicode gives it the property `White_Space`.
Trimming removes blank characters from both ends of a text and nothing else.
-/

namespace TaskSieve.Text

/-- The ranges of code points with the property `White_Space`. -/
def blankRanges : List (Nat × Nat) :=
  [(0x09, 0x0D), (0x20, 0x20), (0x85, 0x85), (0xA0, 0xA0), (0x1680, 0x1680),
    (0x2000, 0x200A), (0x2028, 0x2029), (0x202F, 0x202F), (0x205F, 0x205F),
    (0x3000, 0x3000)]

/-- Whether a character is blank. -/
def isBlank (character : Char) : Bool :=
  blankRanges.any fun range => range.1 ≤ character.toNat &&
    character.toNat ≤ range.2

/-- The characters without the blank ones at either end. -/
def trimList (characters : List Char) : List Char :=
  ((characters.dropWhile isBlank).reverse.dropWhile isBlank).reverse

/-- The text without the blank characters at either end. -/
def trim (text : String) : String := String.ofList (trimList text.toList)

/-- Whether a text has no character that is not blank. -/
def isAllBlank (text : String) : Bool := text.toList.all isBlank

/-- Splits characters at each place where the test holds, dropping the
characters it holds of. -/
def splitList (test : Char → Bool) : List Char → List (List Char)
  | [] => [[]]
  | character :: rest =>
      if test character then
        [] :: splitList test rest
      else
        match splitList test rest with
        | [] => [[character]]
        | first :: others => (character :: first) :: others

/-- The pieces of a text between line feeds. -/
def lines (text : String) : List String :=
  (splitList (· == '\n') text.toList).map String.ofList

/-- The text without the given characters at its end. -/
def trimEndOf (test : Char → Bool) (text : String) : String :=
  String.ofList (text.toList.reverse.dropWhile test).reverse

end TaskSieve.Text
