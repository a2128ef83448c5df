import TaskSieve.Datum.Basic
import TaskSieve.Binary64.Shortest

/-!
# Writing JSON

Values are written on one line without spaces, or over several lines with two
spaces for each level.  Fields come in the order they have.  What the notation
has no form for is written as null.
-/

namespace TaskSieve.Json

/-- The two hexadecimal digits of a number below 256. -/
def hexPair (value : Nat) : List Char :=
  [Nat.digitChar (value / 16 % 16), Nat.digitChar (value % 16)]

/-- A character inside quotes. -/
def quotedCharacter (character : Char) : List Char :=
  match character with
  | '"' => ['\\', '"']
  | '\\' => ['\\', '\\']
  | '\n' => ['\\', 'n']
  | '\r' => ['\\', 'r']
  | '\t' => ['\\', 't']
  | other =>
      if other.toNat = 0x08 then ['\\', 'b']
      else if other.toNat = 0x0C then ['\\', 'f']
      else if other.toNat < 0x20 then
        ['\\', 'u', '0', '0'] ++ hexPair other.toNat
      else [other]

/-- A text in quotes. -/
def quoted (text : String) : String :=
  "\"" ++ String.ofList (text.toList.flatMap quotedCharacter) ++ "\""

/-- A floating-point number; one that is not finite is written as null. -/
def realText (value : Binary64) : String :=
  if value.isFinite then value.documentText else "null"

mutual

/-- The value on one line. -/
def write : Datum → String
  | .null => "null"
  | .bool value => if value then "true" else "false"
  | .int value => toString value
  | .real value => realText value
  | .text value => quoted value
  | .list items => "[" ++ ",".intercalate (writeItems items) ++ "]"
  | .record fields => "\x7b" ++ ",".intercalate (writeFields fields) ++ "\x7d"
  | .mapping _ => "null"
  | .unreadable => "null"

/-- Each item of a list. -/
def writeItems : List Datum → List String
  | [] => []
  | item :: rest => write item :: writeItems rest

/-- Each field of a record. -/
def writeFields : List (String × Datum) → List String
  | [] => []
  | (name, value) :: rest =>
      (quoted name ++ ":" ++ write value) :: writeFields rest

end

/-- Encloses lines at one level more than the given one; nothing to enclose
gives no lines. -/
def enclose (opening closing : String) (level : Nat) (lines : List String) :
    String :=
  if lines.isEmpty then opening ++ closing
  else
    let margin (depth : Nat) := String.ofList (List.replicate (2 * depth) ' ')
    opening ++ "\n" ++
      ",\n".intercalate (lines.map (margin (level + 1) ++ ·)) ++ "\n"
      ++ margin level ++ closing

mutual

/-- The value over several lines, at a level of indentation. -/
def layOut (level : Nat) : Datum → String
  | .list items => enclose "[" "]" level (layOutItems (level + 1) items)
  | .record fields =>
      enclose "\x7b" "\x7d" level (layOutFields (level + 1) fields)
  | .null => write .null
  | .bool value => write (.bool value)
  | .int value => write (.int value)
  | .real value => write (.real value)
  | .text value => write (.text value)
  | .mapping entries => write (.mapping entries)
  | .unreadable => write .unreadable

/-- Each item of a list. -/
def layOutItems (level : Nat) : List Datum → List String
  | [] => []
  | item :: rest => layOut level item :: layOutItems level rest

/-- Each field of a record. -/
def layOutFields (level : Nat) : List (String × Datum) → List String
  | [] => []
  | (name, value) :: rest =>
      (quoted name ++ ": " ++ layOut level value) :: layOutFields level rest

end

/-- The value over several lines. -/
def writeIndented (value : Datum) : String := layOut 0 value

end TaskSieve.Json
