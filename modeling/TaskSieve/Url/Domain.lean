import TaskSieve.Text.Composition
import TaskSieve.Text.Direction
import TaskSieve.Text.Joining
import TaskSieve.Url.Label
import TaskSieve.Url.Percent
import TaskSieve.Url.Spelling

/-!
# Domain names

A domain name is a sequence of labels.  Each has a form of ASCII characters, in
which it is sent, and a meaning, which has other characters when the form
announces that they are encoded.  A name in ASCII without such labels is its own
meaning, and no table is looked at for it.
-/

namespace TaskSieve.Url

/-- Whether a character is one of ASCII. -/
def isAscii (character : Char) : Bool := character.toNat < 0x80

/-- A name as it is spelled; nothing if a character has no place in a name. -/
def spelledName? (text : List Char) : Option (List Char) :=
  if text.all isAscii then some (text.map Char.toLower)
  else (text.mapM spelled?).map fun parts => Text.compose parts.flatten

/-- A label of a domain name. -/
structure Label where
  /-- The form in which it is sent. -/
  form : List Char
  meaning : List Char
  deriving DecidableEq, Repr

namespace Label

/-- What a label starts with that announces encoded characters. -/
def announcement : List Char := ['x', 'n', '-', '-']

/-- What follows the announcement of encoded characters. -/
def announced? (text : List Char) : Option (List Char) :=
  announcement.isPrefixOf? text

/-- The greatest length of what is decoded. -/
def decodeLimit : Nat := 2000

/-- The greatest length of what is encoded. -/
def encodeLimit : Nat := 1000

/-- Whether characters may be the meaning of a label: they do not start with a
mark, joiners stand only where they matter. -/
def isMeaning (text : List Char) : Bool :=
  !text.head?.any Text.isMark && Text.hasProperJoiners [] text

/-- Whether characters may be encoded: some are not of ASCII, all are read as
they are, they are composed, and announce nothing. -/
def isEncodable (text : List Char) : Bool :=
  !text.all isAscii && text.all isPlain && Text.compose text == text &&
    (announced? text).isNone

/-- The label that is written as spelled characters. -/
def ofText? (text : List Char) : Option Label :=
  match announced? text with
  | some code => do
      if !text.all isAscii || decodeLimit < code.length then none
      let meaning ← decode? code
      if isEncodable meaning && isMeaning meaning then some ⟨text, meaning⟩
      else none
  | none =>
      if text.all isAscii then some ⟨text, text⟩
      else if text.length ≤ encodeLimit && isMeaning text then
        some ⟨announcement ++ encode text, text⟩
      else none

/-- How the characters of the meaning are written. -/
def directions (label : Label) : List Text.Direction :=
  label.meaning.map Text.Direction.ofCharacter

end Label

/-- Whether the labels of a name keep their look next to each other. -/
def areSteady (labels : List Label) : Bool :=
  labels.all (fun label => label.meaning.all isAscii)
    || !(labels.any fun label => label.directions.any Text.Direction.turns)
    || labels.all fun label => Text.Direction.isSteady label.directions

/-- Characters that no domain name has. -/
def isForbiddenInName (character : Char) : Bool :=
  character.toNat ≤ 0x20 || character.toNat == 0x7F ||
    ['%', '#', '/', ':', '<', '>', '?', '@', '[', '\\', ']', '^',
    '|'].contains character

/-- The form in which a domain name is sent, when the text is one. -/
def domain? (text : List Char) : Option (List Char) := do
  let name ← spelledName? (unescapedText text).toList
  if name.any isForbiddenInName then none
  let labels ← (Text.splitList (· == '.') name).mapM Label.ofText?
  if areSteady labels then some (['.'].intercalate (labels.map (·.form)))
  else none

end TaskSieve.Url
