import TaskSieve.Text.Digits
import TaskSieve.Text.Utf8

/-!
# Scalars of YAML

A scalar is written plain, in quotes, or as a block of lines.  Line breaks
inside plain and quoted scalars fold into spaces; blocks keep or fold theirs
as their header says.  Each reader starts at a place in the text and gives the
scalar's text with the place behind it.
-/

namespace TaskSieve.Yaml

/-- Whether a character ends a line. -/
def isBreak (character : Char) : Bool :=
  character == '\n' || character == '\r' || character == '\u0085' ||
    character == '\u2028'
    || character == '\u2029'

/-- What a line break counts as in a text. -/
def breakText (character : Char) : Char :=
  if character == '\u2028' || character == '\u2029' then character else '\n'

/-- Whether a character is a space or a tab. -/
def isBlank (character : Char) : Bool := character == ' ' || character == '\t'

/-- Whether a text starts with a blank or a line break, or is at its end. -/
def atGap : List Char → Bool
  | [] => true
  | character :: _ => isBlank character || isBreak character

/-- Whether a document may hold a character. -/
def isAllowed (character : Char) : Bool :=
  let point := character.toNat
  character == '\t' || character == '\n' || character == '\r' || point == 0x85
    || (0x20 ≤ point && point ≤ 0x7E) || (0xA0 ≤ point && point ≤ 0xD7FF)
    || (0xE000 ≤ point && point ≤ 0xFFFD) || 0x10000 ≤ point

/-- A place in a text: what follows, and how many bytes, lines and columns
precede. -/
structure Cursor where
  rest : List Char
  index : Nat := 0
  line : Nat := 0
  column : Nat := 0

namespace Cursor

/-- The place after so many characters of the same line. -/
def forward (cursor : Cursor) (count : Nat) : Cursor :=
  { cursor with
    rest := cursor.rest.drop count
    index := cursor.index + Utf8.sizeOf (cursor.rest.take count)
    column := cursor.column + count }

/-- The place after the characters for which the test holds, all of the same
line. -/
def skip (test : Char → Bool) (cursor : Cursor) : Cursor :=
  cursor.forward (cursor.rest.takeWhile test).length

/-- The place after a line break. -/
def newline (cursor : Cursor) : Cursor :=
  let count := match cursor.rest with
    | '\r' :: '\n' :: _ => 2
    | _ => 1
  { rest := cursor.rest.drop count
    index := cursor.index + Utf8.sizeOf (cursor.rest.take count)
    line := cursor.line + 1
    column := 0 }

/-- The place at the end of the line, or at the end of the text. -/
def lineEnd (cursor : Cursor) : Cursor :=
  cursor.skip fun character => !isBreak character

/-- The place after blanks and a comment, which must be the end of the line. -/
def afterLine? (cursor : Cursor) : Option Cursor :=
  let cursor := cursor.skip isBlank
  let cursor := if cursor.rest.head? == some '#' then cursor.lineEnd else cursor
  match cursor.rest with
  | [] => some cursor
  | character :: _ => if isBreak character then some cursor.newline else none

/-- Whether the line at this place is the mark at the start of a document. -/
def atStartMark (cursor : Cursor) : Bool :=
  cursor.column == 0 && match cursor.rest with
    | '-' :: '-' :: '-' :: after => atGap after
    | _ => false

/-- Whether the line at this place is the mark at the end of a document. -/
def atEndMark (cursor : Cursor) : Bool :=
  cursor.column == 0 && match cursor.rest with
    | '.' :: '.' :: '.' :: after => atGap after
    | _ => false

/-- Whether the line at this place is a mark of a document. -/
def atMark (cursor : Cursor) : Bool := cursor.atStartMark || cursor.atEndMark

end Cursor

/-- Blanks and line breaks inside a scalar. -/
structure Gap where
  /-- The blanks, if there is no line break. -/
  blanks : List Char := []
  breaks : List Char := []
  /-- Whether an escaped line break precedes. -/
  joined : Bool := false

namespace Gap

/-- Whether the gap reaches over a line break. -/
def broken (gap : Gap) : Bool := gap.joined || !gap.breaks.isEmpty

/-- What a gap between two parts of a scalar counts as. -/
def text (gap : Gap) : List Char :=
  if gap.joined then gap.breaks
  else match gap.breaks with
    | [] => gap.blanks
    | ['\n'] => [' ']
    | '\n' :: others => others
    | breaks => breaks

/-- Adds the blanks and line breaks that follow.  After a line break, a tab left
of the margin is refused. -/
def extend (margin : Nat) : Nat → Gap → Cursor → Option (Gap × Cursor)
  | 0, gap, cursor => some (gap, cursor)
  | steps + 1, gap, cursor =>
      match cursor.rest with
      | [] => some (gap, cursor)
      | character :: _ =>
          if isBlank character then
            if !gap.broken then
              extend margin steps { gap with
                  blanks := gap.blanks ++ [character] }
                (cursor.forward 1)
            else if character == '\t' && cursor.column < margin then none
            else extend margin steps gap (cursor.forward 1)
          else if isBreak character then
            extend margin steps { gap with
                breaks := gap.breaks ++ [breakText character] }
              cursor.newline
          else some (gap, cursor)

/-- The gap at a place, which may be empty, and the place behind it. -/
def take (margin : Nat) (cursor : Cursor) : Option (Gap × Cursor) :=
  extend margin cursor.rest.length {} cursor

end Gap

/-- Whether a character is a bracket or comma of the compact notation. -/
def isFlowMark (character : Char) : Bool :=
  character == ',' || character == '[' || character == ']' ||
    character == '\x7b'
    || character == '\x7d'

/-- The part of a plain scalar up to the next gap or the end of the scalar. -/
def plainWord (inFlow : Bool) : List Char → Option (List Char)
  | [] => some []
  | character :: rest =>
      if isBlank character || isBreak character then some []
      else if inFlow && character == ':' && rest.head?.any fun next =>
        isFlowMark next || next == '?'
        then none
      else if character == ':' && atGap rest then some []
      else if inFlow && isFlowMark character then some []
      else (plainWord inFlow rest).map (character :: ·)

/-- What a reader of scalars gives: the text, whether a line break was passed
after it, and the place behind. -/
structure Reading where
  text : List Char
  broken : Bool
  cursor : Cursor

/-- Goes on with a plain scalar after its text so far and a gap. -/
def plainFrom (inFlow : Bool) (margin : Nat) :
    Nat → List Char → Gap → Cursor → Option Reading
  | 0, _, _, _ => none
  | steps + 1, text, gap, cursor =>
      if cursor.atMark || cursor.rest.head? == some '#' then
        some ⟨text, gap.broken, cursor⟩
      else do
        let word ← plainWord inFlow cursor.rest
        if word.isEmpty then return ⟨text, gap.broken, cursor⟩
        let text := text ++ gap.text ++ word
        let after := cursor.forward word.length
        if !atGap after.rest then return ⟨text, false, after⟩
        let (gap, next) ← Gap.take margin after
        if !inFlow && next.column < margin then return ⟨text, gap.broken, next⟩
        plainFrom inFlow margin steps text gap next

/-- Reads a plain scalar.  Outside the compact notation it ends left of the
margin. -/
def plain? (inFlow : Bool) (margin : Nat) (cursor : Cursor) : Option Reading :=
  plainFrom inFlow margin (cursor.rest.length + 1) [] {} cursor

/-- The character that so many hexadecimal digits denote. -/
def coded? (count : Nat) (text : List Char) : Option Char :=
  let digits := text.take count
  if digits.length == count then Digits.character? digits else none

/-- What an escape after its backslash denotes, and how long it is. -/
def escape? : List Char → Option (Char × Nat)
  | [] => none
  | mark :: rest =>
      match mark with
      | '0' => some ('\x00', 1)
      | 'a' => some ('\x07', 1)
      | 'b' => some ('\x08', 1)
      | 't' => some ('\t', 1)
      | '\t' => some ('\t', 1)
      | 'n' => some ('\n', 1)
      | 'v' => some ('\x0b', 1)
      | 'f' => some ('\x0c', 1)
      | 'r' => some ('\r', 1)
      | 'e' => some ('\x1b', 1)
      | ' ' => some (' ', 1)
      | '"' => some ('"', 1)
      | '/' => some ('/', 1)
      | '\\' => some ('\\', 1)
      | 'N' => some ('\u0085', 1)
      | '_' => some ('\u00a0', 1)
      | 'L' => some ('\u2028', 1)
      | 'P' => some ('\u2029', 1)
      | 'x' => (coded? 2 rest).map fun character => (character, 3)
      | 'u' => (coded? 4 rest).map fun character => (character, 5)
      | 'U' => (coded? 8 rest).map fun character => (character, 9)
      | _ => none

/-- Goes on with a quoted scalar after its text so far, held backwards. -/
def quotedFrom (quote : Char) : Nat → List Char → Cursor → Option Reading
  | 0, _, _ => none
  | steps + 1, held, cursor =>
      if cursor.atMark then none
      else match cursor.rest with
        | [] => none
        | character :: rest =>
            if isBlank character || isBreak character then do
              let (gap, next) ← Gap.take 0 cursor
              quotedFrom quote steps (gap.text.reverse ++ held) next
            else if character == quote then
              if quote == '\'' && rest.head? == some quote then
                quotedFrom quote steps (quote :: held) (cursor.forward 2)
              else some ⟨held.reverse, false, cursor.forward 1⟩
            else if quote == '"' && character == '\\' then
              if rest.head?.any isBreak then do
                let after := (cursor.forward 1).newline
                let (gap, next) ←
                    Gap.extend 0 rest.length { joined := true } after
                quotedFrom quote steps (gap.text.reverse ++ held) next
              else do
                let (value, length) ← escape? rest
                quotedFrom quote steps (value :: held)
                  (cursor.forward (length + 1))
            else quotedFrom quote steps (character :: held) (cursor.forward 1)

/-- Reads a scalar in quotes or apostrophes. -/
def quoted? (quote : Char) (cursor : Cursor) : Option Reading :=
  quotedFrom quote cursor.rest.length [] (cursor.forward 1)

/-- What becomes of the line breaks at the end of a block. -/
inductive Chomping
  /-- None is kept. -/
  | strip
  /-- The first is kept. -/
  | clip
  /-- All are kept. -/
  | keep
  deriving DecidableEq

/-- The chomping that a sign in a header asks for. -/
def chomping? : Char → Option Chomping
  | '+' => some .keep
  | '-' => some .strip
  | _ => none

/-- The indentation that a digit in a header asks for. -/
def step? (character : Char) : Option Nat :=
  if character != '0' && Decimal.isDigit character then
    some (Decimal.digitValue character)
  else none

/-- The chomping and the indentation in a header, and how many characters state
them. -/
def header : List Char → Chomping × Option Nat × Nat
  | [] => (.clip, none, 0)
  | first :: rest =>
      let second := rest.head?
      match chomping? first, step? first with
      | some chomping, _ =>
          match second.bind step? with
          | some step => (chomping, some step, 2)
          | none => (chomping, none, 1)
      | none, some step =>
          match second.bind chomping? with
          | some chomping => (chomping, some step, 2)
          | none => (.clip, some step, 1)
      | none, none => (.clip, none, 0)

/-- The empty lines before a line of a block. -/
structure Lead where
  /-- Their line breaks. -/
  breaks : List Char := []
  /-- The greatest indentation among them and of the line. -/
  widest : Nat := 0
  cursor : Cursor

/-- Passes indentation and empty lines.  Lines are indented by at most so much
if that is known; a tab in the indentation is refused. -/
def Lead.extend (indent : Option Nat) : Nat → Lead → Option Lead
  | 0, lead => some lead
  | steps + 1, lead =>
      let inIndent (column : Nat) : Bool := indent.all (column < ·)
      let spaces := (lead.cursor.rest.takeWhile (· == ' ')).length
      let count := match indent with
        | none => spaces
        | some indent => Min.min spaces (indent - lead.cursor.column)
      let cursor := lead.cursor.forward count
      let lead := { lead with
          widest := Max.max lead.widest cursor.column, cursor := cursor }
      match cursor.rest with
      | [] => some lead
      | character :: _ =>
          if character == '\t' && inIndent cursor.column then none
          else if isBreak character then
            extend indent steps
              { lead with
                breaks := lead.breaks ++ [breakText character],
                cursor := cursor.newline }
          else some lead

/-- The empty lines at a place. -/
def Lead.take (indent : Option Nat) (cursor : Cursor) : Option Lead :=
  Lead.extend indent (cursor.rest.length + 1) { cursor := cursor }

/-- A block while it is read. -/
structure Block where
  /-- The text so far, backwards, without what the last line ends with. -/
  held : List Char := []
  /-- The line break of the last line. -/
  ending : List Char := []
  /-- Whether the last line starts with a blank. -/
  afterBlank : Bool := false
  /-- The empty lines that follow it. -/
  lead : Lead

/-- Reads the lines of a block.  In a folded one, a line break between lines
that start with no blank counts as a space, or as nothing when empty lines
follow. -/
def Block.extend (folded : Bool) (indent : Nat) : Nat → Block → Option Block
  | 0, block => some block
  | steps + 1, block =>
      let cursor := block.lead.cursor
      match cursor.rest with
      | [] => some block
      | character :: _ =>
          if cursor.column != indent then some block
          else do
            let blank := isBlank character
            let joins :=
              folded && block.ending == ['\n'] && !block.afterBlank && !blank
            let ending :=
              if !joins then block.ending
              else if block.lead.breaks.isEmpty then [' ']
              else []
            let line :=
              cursor.rest.takeWhile fun character => !isBreak character
            let after := cursor.forward line.length
            let (lineEnding, next) := match after.rest with
              | [] => ([], after)
              | character :: _ => ([breakText character], after.newline)
            extend folded indent steps
              { held := (ending ++ block.lead.breaks ++ line).reverse ++
                block.held
                ending := lineEnding
                afterBlank := blank
                lead := ← Lead.take (some indent) next }

/-- Reads a block after the mark that announces it.  Its lines are indented as
the header says relative to the margin, or as the first of them is. -/
def block? (folded : Bool) (margin : Nat) (cursor : Cursor) :
    Option Reading := do
  let (chomping, step, length) := header cursor.rest
  let start ← (cursor.forward length).afterLine?
  let known := step.map fun step => margin - 1 + step
  let lead ← Lead.take known start
  let indent := known.getD (Max.max lead.widest (Max.max margin 1))
  let block ← Block.extend folded indent cursor.rest.length { lead := lead }
  let tail := match chomping with
    | .strip => []
    | .clip => block.ending
    | .keep => block.ending ++ block.lead.breaks
  return ⟨block.held.reverse ++ tail, true, block.lead.cursor⟩

end TaskSieve.Yaml
