/-!
# Reading UTF-8

Any bytes are read as pieces: each is a character, or the longest run of bytes
that starts a character but does not finish it, or a byte that starts none.
-/

namespace TaskSieve.Utf8

/-- A character whose first bytes have been read: its value so far, how many
bytes are still owed, and the range the next byte must lie in. -/
structure Pending where
  value : Nat
  owed : Nat
  low : Nat
  high : Nat

/-- Where reading stands: the pieces so far, backwards, and an unfinished
character. -/
structure Progress where
  /-- Nothing stands for a piece that is no character. -/
  pieces : List (Option Char)
  pending : Option Pending

/-- The character that stands for bytes that are no text. -/
def replacement : Char := '\uFFFD'

/-- What the first byte of a longer character announces. -/
def Pending.ofLead (byte : Nat) : Option Pending :=
  if 0xC2 ≤ byte && byte ≤ 0xDF then some ⟨byte - 0xC0, 1, 0x80, 0xBF⟩
  else if byte = 0xE0 then some ⟨0, 2, 0xA0, 0xBF⟩
  else if byte = 0xED then some ⟨0xD, 2, 0x80, 0x9F⟩
  else if 0xE1 ≤ byte && byte ≤ 0xEF then some ⟨byte - 0xE0, 2, 0x80, 0xBF⟩
  else if byte = 0xF0 then some ⟨0, 3, 0x90, 0xBF⟩
  else if 0xF1 ≤ byte && byte ≤ 0xF3 then some ⟨byte - 0xF0, 3, 0x80, 0xBF⟩
  else if byte = 0xF4 then some ⟨4, 3, 0x80, 0x8F⟩
  else none

/-- Reads a byte where a character may start. -/
def Progress.start (pieces : List (Option Char)) (byte : Nat) : Progress :=
  if byte < 0x80 then ⟨some (Char.ofNat byte) :: pieces, none⟩
  else match Pending.ofLead byte with
    | some pending => ⟨pieces, some pending⟩
    | none => ⟨none :: pieces, none⟩

/-- Reads the next byte. -/
def Progress.step (progress : Progress) (byte : UInt8) : Progress :=
  match progress.pending with
  | none => .start progress.pieces byte.toNat
  | some pending =>
      if pending.low ≤ byte.toNat && byte.toNat ≤ pending.high then
        let value := pending.value * 64 + (byte.toNat - 0x80)
        if pending.owed ≤ 1 then
          ⟨some (Char.ofNat value) :: progress.pieces, none⟩
        else ⟨progress.pieces, some ⟨value, pending.owed - 1, 0x80, 0xBF⟩⟩
      else .start (none :: progress.pieces) byte.toNat

/-- All pieces read, when no more bytes follow. -/
def Progress.finish (progress : Progress) : List (Option Char) :=
  match progress.pending with
  | none => progress.pieces.reverse
  | some _ => (none :: progress.pieces).reverse

/-- The pieces of any bytes. -/
def pieces (bytes : ByteArray) : List (Option Char) :=
  (bytes.toList.foldl Progress.step ⟨[], none⟩).finish

/-- The text of any bytes, with replacement characters for those that are no
text. -/
def decodeLossy (bytes : ByteArray) : String :=
  String.ofList ((pieces bytes).map (·.getD replacement))

/-- How many bytes characters take. -/
def sizeOf (text : List Char) : Nat :=
  text.foldl (fun size character => size + character.utf8Size) 0

/-- The text of bytes that are text. -/
def decode? (bytes : ByteArray) : Option String := String.fromUTF8? bytes

end TaskSieve.Utf8
