/-!
# Visible characters

A text may hold characters that steer a terminal and are not shown on it:
control characters, and sequences that begin with an escape.  `visible` leaves
them out.  Blanks and line breaks are shown also inside a sequence, which they
end, except in a string that belongs to one.
-/

namespace TaskSieve.Text

/-- How far a sequence that steers a terminal has come. -/
inductive Steering
  /-- There is none. -/
  | idle
  /-- The escape precedes. -/
  | begun
  /-- Marks follow the escape, and a last character is to come. -/
  | marked
  /-- A bracket follows the escape; parameters and a last letter are to come. -/
  | bracketed
  /-- A string, which an escape ends or, in some cases, a bell. -/
  | string (bell : Bool)
  deriving DecidableEq, Repr

namespace Steering

/-- How a sequence goes on after its escape. -/
def afterEscape (character : Char) : Steering :=
  if character.toNat < 0x30 then .marked
  else if character == '[' then .bracketed
  else if character == ']' then .string true
  else if "PX^_".contains character then .string false
  else .idle

/-- How a sequence goes on with a character, and whether that is shown. -/
def step (steering : Steering) (character : Char) : Steering × Bool :=
  let point := character.toNat
  if point == 0x18 || point == 0x1A then (.idle, false)
  else if point == 0x1B then (.begun, false)
  else if let .string bell := steering then
    (if bell && point == 0x07 then .idle else steering, false)
  else if point == 0x7F then (steering, false)
  else if point < 0x20 then
    if "\t\n\x0c\r".contains character then (.idle, true) else (steering, false)
  else if 0x80 ≤ point then (.idle, true)
  else match steering with
    | .begun => (afterEscape character, false)
    | .marked => (if point < 0x30 then .marked else .idle, false)
    | .bracketed => (if point < 0x40 then .bracketed else .idle, false)
    | _ => (.idle, true)

end Steering

/-- The characters that are shown, after the start of a sequence. -/
def visibleFrom (steering : Steering) : List Char → List Char
  | [] => []
  | character :: rest =>
      match steering.step character with
      | (steering, true) => character :: visibleFrom steering rest
      | (steering, false) => visibleFrom steering rest

/-- The text as a terminal shows it. -/
def visible (text : String) : String :=
  String.ofList (visibleFrom .idle text.toList)

end TaskSieve.Text
