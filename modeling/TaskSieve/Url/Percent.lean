import TaskSieve.Text.Digits
import TaskSieve.Text.Utf8

/-!
# Percent-encoding

Bytes that may not stand in a part of an address are written as a percent sign
and two hexadecimal digits.  Escapes that are already there stay as they are.
-/

namespace TaskSieve.Url

/-- A byte as an escape. -/
def escape (byte : UInt8) : List Char :=
  let digit (value : Nat) : Char := (Nat.digitChar value).toUpper
  ['%', digit (byte.toNat / 16), digit (byte.toNat % 16)]

/-- A character of a part of an address, in which the given ASCII characters are
escaped, as are controls and all characters that are not ASCII. -/
def escapeCharacter (escaped : List Char) (character : Char) : List Char :=
  if character.toNat < 0x20 || 0x7E < character.toNat ||
    escaped.contains character then
    (String.singleton character).toUTF8.toList.flatMap escape
  else [character]

/-- A part of an address with all characters escaped that need to be. -/
def escapeAll (escaped : List Char) (text : List Char) : List Char :=
  text.flatMap (escapeCharacter escaped)

/-- What is escaped in a fragment. -/
def inFragment : List Char := [' ', '"', '<', '>', '\x60']

/-- What is escaped in a path. -/
def inPath : List Char := inFragment ++ ['#', '?', '\x7b', '\x7d']

/-- What is escaped in credentials. -/
def inCredentials : List Char :=
  inPath ++ ['/', ':', ';', '=', '@', '[', '\\', ']', '^', '|']

/-- What is escaped in a query. -/
def inQuery : List Char := [' ', '"', '#', '<', '>']

/-- What is escaped in the query of an address of a scheme of known kind. -/
def inKnownQuery : List Char := inQuery ++ ['\'']

/-- The bytes of a text in which escapes stand for bytes. -/
def unescape : List Char → List UInt8
  | [] => []
  | '%' :: high :: low :: rest =>
      match Digits.digit? high, Digits.digit? low with
      | some upper, some lower =>
          UInt8.ofNat (16 * upper + lower) :: unescape rest
      | _, _ =>
          (String.singleton '%').toUTF8.toList ++ unescape (high :: low :: rest)
  | character :: rest =>
      (String.singleton character).toUTF8.toList ++ unescape rest

/-- The bytes of a text in which escapes stand for bytes, as one piece. -/
def unescaped (text : List Char) : ByteArray := ⟨(unescape text).toArray⟩

/-- The text of a text in which escapes stand for bytes, if these are text. -/
def unescapedText? (text : List Char) : Option String :=
  Utf8.decode? (unescaped text)

/-- The text of a text in which escapes stand for bytes, with replacement
characters for those that are no text. -/
def unescapedText (text : List Char) : String :=
  Utf8.decodeLossy (unescaped text)

end TaskSieve.Url
