import TaskSieve.Url.Percent
import TaskSieve.Yaml.Scalar

/-!
# Tokens of YAML

Indentation becomes tokens that open and close blocks.  Whether a scalar or a
collection is a key shows only at the colon behind it, so the place of the last
possible key is kept, and the tokens that announce a key are put there when the
colon comes.  A key must end on the line on which it starts.
-/

namespace TaskSieve.Yaml

/-- How a scalar is written. -/
inductive Style
  | plain
  | quoted
  | literal
  | folded
  deriving DecidableEq, Repr

/-- A token. -/
inductive Token
  | version (major minor : Nat)
  /-- A directive that gives a handle of tags its meaning. -/
  | handle (name meaning : String)
  | documentStart
  | documentEnd
  | sequenceStart
  | mappingStart
  | blockEnd
  | flowSequenceStart
  | flowSequenceEnd
  | flowMappingStart
  | flowMappingEnd
  /-- The dash before an item of a block. -/
  | item
  | comma
  | key
  | value
  | alias (name : String)
  | anchor (name : String)
  /-- A tag; one without a handle is written out. -/
  | tag (handle rest : String)
  | scalar (style : Style) (text : String)
  deriving DecidableEq, Repr

/-- A token that may turn out to be the start of a key. -/
structure PendingKey where
  /-- How many tokens precede it. -/
  place : Nat
  start : Cursor
  /-- Whether nothing but a key may stand there. -/
  required : Bool

/-- The text while it is cut into tokens. -/
structure Layout where
  cursor : Cursor
  tokens : List Token := []
  /-- What is nested in the innermost block stands at this column or right of
  it. -/
  margin : Nat := 0
  /-- The margins of the blocks around it. -/
  outer : List Nat := []
  /-- Whether a key of a block may start here. -/
  keyAllowed : Bool := true
  pending : Option PendingKey := none
  /-- What was pending before each bracket that is open. -/
  suspended : List (Option PendingKey) := []

namespace Layout

/-- Whether the place is within brackets. -/
def inFlow (layout : Layout) : Bool := !layout.suspended.isEmpty

/-- Adds a token. -/
def put (token : Token) (layout : Layout) : Layout :=
  { layout with tokens := layout.tokens ++ [token] }

/-- Goes on behind so many characters of the line. -/
def forward (count : Nat) (layout : Layout) : Layout :=
  { layout with cursor := layout.cursor.forward count }

/-- Goes on with or without permission for a key of a block. -/
def allowKey (allowed : Bool) (layout : Layout) :
    Layout := { layout with keyAllowed := allowed }

/-- Drops a pending key whose line has ended or that has more than 1024 bytes;
nothing if it is required. -/
def expire (cursor : Cursor) : Option PendingKey → Option (Option PendingKey)
  | none => some none
  | some key =>
      if key.start.line == cursor.line &&
        cursor.index ≤ key.start.index + 1024 then some (some key)
      else if key.required then none
      else some none

/-- Drops every pending key that can no longer be one. -/
def expireKeys (layout : Layout) : Option Layout := do
  return {
    layout with
    pending := ← expire layout.cursor layout.pending
    suspended := ← layout.suspended.mapM (expire layout.cursor) }

/-- Gives up the pending key, which must not be required. -/
def dropKey (layout : Layout) : Option Layout :=
  if layout.pending.any (·.required) then
    none else some { layout with pending := none }

/-- Notes that the next token may start a key. -/
def noteKey (layout : Layout) : Option Layout :=
  if layout.keyAllowed then do
    let required := !layout.inFlow && layout.margin == layout.cursor.column + 1
    return {
      (← layout.dropKey) with
      pending := some ⟨layout.tokens.length, layout.cursor, required⟩ }
  else some layout

/-- Closes the blocks whose margin is greater. -/
def closeBlocks (margin : Nat) (layout : Layout) : Layout :=
  if layout.inFlow then layout
  else
    let closed := (layout.margin :: layout.outer).takeWhile (margin < ·)
    match (layout.margin :: layout.outer).dropWhile (margin < ·) with
    | [] => layout
    | current :: outer =>
        { layout with
          tokens := layout.tokens ++ List.replicate closed.length .blockEnd
          margin := current
          outer := outer }

/-- Opens a block at a column unless one is open there; its token precedes those
that follow a place. -/
def openBlock (token : Token) (column place : Nat) (layout : Layout) : Layout :=
  if layout.inFlow || column < layout.margin then layout
  else
    { layout with
      tokens := layout.tokens.take place ++ token :: layout.tokens.drop place
      margin := column + 1
      outer := layout.margin :: layout.outer }

/-- Opens a block at the current column, where a key must be allowed. -/
def openHere (token : Token) (layout : Layout) : Option Layout :=
  if layout.inFlow then some layout
  else if layout.keyAllowed then
    some (layout.openBlock token layout.cursor.column layout.tokens.length)
  else none

/-- Passes a byte order mark at the start of a line, which counts as a
column. -/
def skipMark (layout : Layout) : Layout :=
  if layout.cursor.column == 0 && layout.cursor.rest.head? == some '\uFEFF' then
    layout.forward 1
  else layout

/-- Passes blanks, comments and line breaks. -/
def skipGaps : Nat → Layout → Layout
  | 0, layout => layout
  | steps + 1, layout =>
      let layout := layout.skipMark
      let tabs := layout.inFlow || !layout.keyAllowed
      let cursor := layout.cursor.skip fun character =>
        character == ' ' || (tabs && character == '\t')
      let cursor :=
        if cursor.rest.head? == some '#' then cursor.lineEnd else cursor
      match cursor.rest with
      | [] => { layout with cursor := cursor }
      | character :: _ =>
          if isBreak character then
            skipGaps steps
              { layout with
                cursor := cursor.newline
                keyAllowed := layout.keyAllowed || !layout.inFlow }
          else { layout with cursor := cursor }

/-- Adds a token of a given length that may start a key. -/
def putStart (token : Token) (count : Nat) (layout : Layout) :
    Option Layout := do
  return (← layout.noteKey).put token |>.forward count |>.allowKey false

/-- Opens a bracket. -/
def openBracket (token : Token) (layout : Layout) : Option Layout := do
  let layout ← layout.noteKey
  return {
    layout with
    pending := none
    suspended := layout.pending ::
      layout.suspended } |>.put token |>.forward 1 |>.allowKey true

/-- Closes a bracket. -/
def closeBracket (token : Token) (layout : Layout) : Option Layout := do
  let layout ← layout.dropKey
  let layout := match layout.suspended with
    | [] => layout
    | pending :: suspended =>
        { layout with pending := pending, suspended := suspended }
  return layout.put token |>.forward 1 |>.allowKey false

/-- Adds a comma. -/
def putComma (layout : Layout) : Option Layout := do
  return (← layout.dropKey).put .comma |>.forward 1 |>.allowKey true

/-- Adds the dash of an item. -/
def putItem (layout : Layout) : Option Layout := do
  return (← (← layout.openHere .sequenceStart).dropKey).put .item |>.forward
    1 |>.allowKey true

/-- Adds the question mark of a key. -/
def putKey (layout : Layout) : Option Layout := do
  let layout ← (← layout.openHere .mappingStart).dropKey
  return layout.put .key |>.forward 1 |>.allowKey !layout.inFlow

/-- Adds the colon of a value, and announces the pending key in front of it. -/
def putValue (layout : Layout) : Option Layout := do
  let layout ← match layout.pending with
    | some key =>
        let tokens :=
          layout.tokens.take key.place ++ .key :: layout.tokens.drop key.place
        some <| { layout with tokens := tokens, pending := none }
          |>.openBlock .mappingStart key.start.column key.place
            |>.allowKey false
    | none => do
        let layout ← layout.openHere .mappingStart
        some (layout.allowKey !layout.inFlow)
  return layout.put .value |>.forward 1

/-- Adds the mark of a document, which closes all blocks. -/
def putMark (token : Token) (layout : Layout) : Option Layout := do
  return (← (layout.closeBlocks 0).dropKey).put token |>.forward 3
    |>.allowKey false

/-- Adds a scalar. -/
def putScalar (style : Style) (keyAllowed : Bool) (reading : Reading)
    (layout : Layout) : Layout :=
  { layout.put (.scalar style (String.ofList reading.text)) with
    cursor := reading.cursor
    keyAllowed := keyAllowed }

/-- Adds a plain scalar. -/
def putPlain (layout : Layout) : Option Layout := do
  let layout ← layout.noteKey
  let reading ← plain? layout.inFlow layout.margin layout.cursor
  return layout.putScalar .plain reading.broken reading

/-- Adds a scalar in quotes. -/
def putQuoted (quote : Char) (layout : Layout) : Option Layout := do
  let layout ← layout.noteKey
  return layout.putScalar .quoted false (← quoted? quote layout.cursor)

/-- Adds a block scalar. -/
def putBlock (style : Style) (layout : Layout) : Option Layout := do
  let layout ← layout.dropKey
  let reading ←
      block? (style == .folded) layout.margin (layout.cursor.forward 1)
  return layout.putScalar style true reading

end Layout

/-- Whether a character may stand in names of anchors, handles and
directives. -/
def isNameCharacter (character : Char) : Bool :=
  character.isAlphanum || character == '_' || character == '-'

/-- The name of an anchor or alias after its mark. -/
def anchorName? (text : List Char) : Option String :=
  let name := text.takeWhile isNameCharacter
  let ends := match text.dropWhile isNameCharacter with
    | [] => true
    | next :: _ =>
        isBlank next || isBreak next || "?:,]\x7d%@\x60".contains next
  if name.isEmpty || !ends then none else some (String.ofList name)

/-- How many more bytes a first byte announces; nothing for one that cannot be
first. -/
def announced? (byte : Nat) : Option Nat :=
  if byte < 0x80 then some 0
  else if byte < 0xC0 then none
  else if byte < 0xE0 then some 1
  else if byte < 0xF0 then some 2
  else if byte < 0xF8 then some 3
  else none

/-- Whether every percent sign starts an escape and the escaped bytes of a
character stand together, so many of which are still owed. -/
def isEscaped : Nat → List Char → Bool
  | owed, [] => owed == 0
  | owed, '%' :: high :: low :: rest =>
      match Digits.digit? high, Digits.digit? low with
      | some upper, some lower =>
          let byte := 16 * upper + lower
          if owed == 0 then
            match announced? byte with
            | some more => isEscaped more rest
            | none => false
          else 0x80 ≤ byte && byte < 0xC0 && isEscaped (owed - 1) rest
      | _, _ => false
  | owed, character :: rest => owed == 0 && character != '%' && isEscaped 0 rest

/-- The characters at the start that may stand in a tag. -/
def tagCharacters (brackets : Bool) (text : List Char) : List Char :=
  text.takeWhile fun character =>
    isNameCharacter character || ";/?:@&=+$.!~*'()%".contains character
      || (brackets && ",[]".contains character)

/-- What the characters of a tag denote. -/
def tagText? (characters : List Char) : Option String :=
  if isEscaped 0 characters then some (Url.unescapedText characters) else none

/-- A handle of tags at the start of a text. -/
def handle? : List Char → Option (List Char)
  | '!' :: rest =>
      let name := rest.takeWhile isNameCharacter
      if (rest.drop name.length).head? == some '!' then
        some ('!' :: name ++ ['!'])
      else some ('!' :: name)
  | _ => none

/-- A tag, and how many characters it has. -/
def tag? (text : List Char) : Option (Token × Nat) :=
  match text with
  | '!' :: '<' :: rest => do
      let characters := tagCharacters true rest
      if characters.isEmpty || (rest.drop characters.length).head? !=
        some '>' then none
      return (.tag "" (← tagText? characters), characters.length + 3)
  | _ => do
      let handle ← handle? text
      let characters := tagCharacters false (text.drop handle.length)
      let length := handle.length + characters.length
      if handle.length != 1 && handle.getLast? == some '!' then
        if characters.isEmpty then none
        return (.tag (String.ofList handle) (← tagText? characters), length)
      let name ← tagText? (handle.drop 1 ++ characters)
      return (if name.isEmpty then .tag "" "!" else .tag "!" name, length)

namespace Layout

/-- Adds an anchor or alias. -/
def putName (token : String → Token) (layout : Layout) : Option Layout := do
  let name ← anchorName? (layout.cursor.rest.drop 1)
  layout.putStart (token name) (name.length + 1)

/-- Adds a tag. -/
def putTag (layout : Layout) : Option Layout := do
  let (token, length) ← tag? layout.cursor.rest
  let after := layout.cursor.rest.drop length
  if atGap after || (layout.inFlow && after.head? == some ',') then
    layout.putStart token length
  else none

/-- A number of a version, and how many digits it has. -/
def versionNumber? (text : List Char) : Option (Nat × Nat) :=
  let digits := text.takeWhile Decimal.isDigit
  if digits.isEmpty || 9 < digits.length then none
  else some (Decimal.value digits, digits.length)

/-- Adds a directive. -/
def putDirective (layout : Layout) : Option Layout := do
  let layout ← (layout.closeBlocks 0).dropKey
  let start := layout.cursor.forward 1
  let name := start.rest.takeWhile isNameCharacter
  let start := start.forward name.length
  if !atGap start.rest then none
  let start := start.skip isBlank
  let (token, after) ← match String.ofList name with
    | "YAML" => do
        let (major, length) ← versionNumber? start.rest
        let point := start.forward length
        if point.rest.head? != some '.' then none
        let point := point.forward 1
        let (minor, length) ← versionNumber? point.rest
        some (Token.version major minor, point.forward length)
    | "TAG" => do
        let handle ← handle? start.rest
        if handle.length != 1 && handle.getLast? != some '!' then none
        let after := start.forward handle.length
        if !after.rest.head?.any isBlank then none
        let after := after.skip isBlank
        let characters := tagCharacters true after.rest
        if characters.isEmpty || !atGap (after.rest.drop characters.length) then
          none
        let meaning ← tagText? characters
        some (Token.handle (String.ofList handle) meaning,
          after.forward characters.length)
    | _ => none
  return { layout.put token with
      cursor := ← after.afterLine?, keyAllowed := false }

/-- Whether a plain scalar may start with these characters. -/
def startsPlain (inFlow : Bool) : List Char → Bool
  | [] => false
  | character :: rest =>
      if character == '-' then !rest.head?.any isBlank
      else if character == '?' || character == ':' then !inFlow && !atGap rest
      else !isBlank character && !isBreak character && !isFlowMark character
        && !"#&*!|>'\"%@\x60".contains character

/-- Adds the token at the current place, which is not the end of the text. -/
def putNext (layout : Layout) : Option Layout :=
  let cursor := layout.cursor
  let gapAhead := atGap (cursor.rest.drop 1)
  match cursor.rest.head? with
  | none => some layout
  | some mark =>
    if cursor.column == 0 && mark == '%' then layout.putDirective
    else if cursor.atStartMark then layout.putMark .documentStart
    else if cursor.atEndMark then layout.putMark .documentEnd
    else if mark == '[' then layout.openBracket .flowSequenceStart
    else if mark == '\x7b' then layout.openBracket .flowMappingStart
    else if mark == ']' then layout.closeBracket .flowSequenceEnd
    else if mark == '\x7d' then layout.closeBracket .flowMappingEnd
    else if mark == ',' then layout.putComma
    else if mark == '-' && gapAhead then layout.putItem
    else if mark == '?' && (layout.inFlow || gapAhead) then layout.putKey
    else if mark == ':' && (layout.inFlow || gapAhead) then layout.putValue
    else if mark == '*' then layout.putName .alias
    else if mark == '&' then layout.putName .anchor
    else if mark == '!' then layout.putTag
    else if mark == '|' && !layout.inFlow then layout.putBlock .literal
    else if mark == '>' && !layout.inFlow then layout.putBlock .folded
    else if mark == '\'' || mark == '"' then layout.putQuoted mark
    else if startsPlain layout.inFlow cursor.rest then layout.putPlain
    else none

/-- Adds all tokens from the current place on. -/
def putAll : Nat → Layout → Option Layout
  | 0, _ => none
  | steps + 1, layout => do
      let layout ← (layout.skipGaps (layout.cursor.rest.length + 1)).expireKeys
      let layout := layout.closeBlocks (layout.cursor.column + 1)
      if layout.cursor.rest.isEmpty then (layout.closeBlocks 0).dropKey
      else putAll steps (← layout.putNext)

end Layout

/-- The tokens of a text. -/
def tokens? (text : String) : Option (List Token) := do
  let characters := text.toList
  if characters.all isAllowed then
    let layout ←
      Layout.putAll (characters.length + 1) { cursor := { rest := characters } }
    return layout.tokens
  else none

end TaskSieve.Yaml
