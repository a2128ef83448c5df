import TaskSieve.Url.Host

/-!
# Addresses of resources

`Url.parse` reads an absolute address the way browsers do: blanks around it
and line breaks inside it do not count, backslashes stand for slashes in web
addresses, and path segments that go up or stay are worked off.
-/

namespace TaskSieve

/-- An absolute address. -/
structure Url where
  scheme : String
  credentials : String := ""
  /-- The host; nothing when the address has none. -/
  host : Option String := none
  /-- The port, when it is not the one its scheme implies. -/
  port : Option Nat := none
  path : String := ""
  query : Option String := none
  fragment : Option String := none
  deriving DecidableEq, Repr

namespace Url

/-- The port that a scheme implies. -/
def impliedPort? : String → Option Nat
  | "http" => some 80
  | "ws" => some 80
  | "https" => some 443
  | "wss" => some 443
  | "ftp" => some 21
  | _ => none

/-- Whether a scheme is one of those whose addresses name a host over the
network. -/
def isWeb (scheme : String) : Bool := (impliedPort? scheme).isSome

/-- Whether a character separates path segments in an address of a scheme of
known kind. -/
def isSlash (character : Char) : Bool := character == '/' || character == '\\'

/-- The characters that count: none up to a space at either end, no tabs and
line breaks. -/
def significant (text : String) : List Char :=
  let low (character : Char) : Bool := character.toNat ≤ 0x20
  let trimmed := ((text.toList.dropWhile low).reverse.dropWhile low).reverse
  trimmed.filter fun character =>
    !(character == '\t' || character == '\n' || character == '\r')

/-- The scheme at the start of an address, in lower case, and what follows its
colon. -/
def scheme? (text : List Char) : Option (String × List Char) :=
  let isInner (character : Char) : Bool :=
    character.isAlphanum || character == '+' || character == '-' ||
      character == '.'
  match text with
  | [] => none
  | first :: _ =>
      if !first.isAlpha then none
      else match text.dropWhile isInner with
        | ':' :: rest =>
            some (String.ofList ((text.takeWhile isInner).map Char.toLower),
              rest)
        | _ => none

/-- Divides what precedes the first character with a property from the rest. -/
def spanUntil (stop : Char → Bool) (text : List Char) : List Char × List Char :=
  (text.takeWhile fun character => !stop character,
    text.dropWhile fun character => !stop character)

/-- The credentials before the last at-sign of an authority. -/
def splitCredentials (web : Bool) (text : List Char) :
    Except Fault (String × Bool × List Char) :=
  let isEnd (character : Char) : Bool :=
    character == '/' || character == '?' || character == '#' ||
      (web && character == '\\')
  let (authority, rest) := spanUntil isEnd text
  let host := (authority.reverse.takeWhile (· != '@')).reverse
  let before := authority.take (authority.length - host.length)
  match before with
  | [] => .ok ("", false, text)
  | ['@'] =>
      if host.isEmpty && !rest.isEmpty then
        .error .emptyHost else .ok ("", false, host ++ rest)
  | _ =>
      let (name, secret) := spanUntil (· == ':') before.dropLast
      let secret := secret.drop 1
      let written := escapeAll inCredentials name ++
        (if secret.isEmpty then [] else ':' :: escapeAll inCredentials secret)
      .ok (String.ofList written, !written.isEmpty, host ++ rest)

/-- The text of a host before a port or a path; brackets keep colons inside. -/
def spanHost (web : Bool) : Bool → List Char → List Char × List Char
  | _, [] => ([], [])
  | inside, character :: rest =>
      let isEnd := (character == ':' && !inside) || character == '/' ||
        character == '?'
        || character == '#' || (web && character == '\\')
      if isEnd then ([], character :: rest)
      else
        let inside := if character == '[' then
          true else if character == ']' then false else inside
        let (host, after) := spanHost web inside rest
        (character :: host, after)

/-- The port after a host and what follows it. -/
def splitPort (scheme : String) (text : List Char) :
    Except Fault (Option Nat × List Char) :=
  let digits := text.takeWhile Decimal.isDigit
  let rest := text.dropWhile Decimal.isDigit
  let value := Decimal.value digits
  if 65535 < value then .error .badPort
  else
    let ended := match rest with
      | [] => true
      | character :: _ =>
          isSlash character || character == '?' || character == '#'
    if !ended then .error .badPort
    else
      .ok (if digits.isEmpty || impliedPort? scheme == some value then
          none else some value, rest)

/-- Whether a segment goes up one level. -/
def goesUp (segment : List Char) : Bool :=
  ["..", ".%2e", "%2e.", "%2e%2e"].contains
    (String.ofList (segment.map Char.toLower))

/-- Whether a segment stays where it is. -/
def stays (segment : List Char) : Bool :=
  [".", "%2e"].contains (String.ofList (segment.map Char.toLower))

/-- Whether a segment is a drive letter with its mark. -/
def isDrive : List Char → Bool
  | [letter, mark] => letter.isAlpha && (mark == ':' || mark == '|')
  | _ => false

/-- The segments, held backwards, one level up.  A drive letter stays. -/
def goUp : List (List Char) → List (List Char)
  | [] => []
  | last :: before => if isDrive last then last :: before else before

/-- Works off the segments of a path that go up or stay, from left to right.
The result is backwards; a path that ends with such a segment ends with a
slash. -/
def workOff : List (List Char) → List (List Char) → List (List Char)
  | done, [] => done
  | done, [segment] =>
      if goesUp segment then [] :: goUp done
      else if stays segment then [] :: done
      else segment :: done
  | done, segment :: rest =>
      if goesUp segment then workOff (goUp done) rest
      else if stays segment then workOff done rest
      else workOff (segment :: done) rest

/-- The segments of a path that starts with a slash, from the text after that
slash. -/
def segmentsOf (known : Bool) (text : List Char) : List (List Char) :=
  let segments := Text.splitList (fun character =>
    character == '/' || (known && character == '\\')) text
  (workOff [] (segments.map (escapeAll inPath))).reverse

/-- A path of segments. -/
def pathOf (segments : List (List Char)) : String :=
  String.ofList (segments.flatMap fun segment => '/' :: segment)

/-- The segments of a path of a file.  A drive letter at the start is marked
with a colon; else the path does not start with empty segments. -/
def fileSegments (segments : List (List Char)) : List (List Char) :=
  match segments with
  | [letter, '|'] :: rest =>
      if letter.isAlpha then [letter, ':'] :: rest else segments
  | _ =>
      match segments.dropWhile List.isEmpty with
      | [] => [[]]
      | kept => kept

/-- Divides a query and a fragment from what precedes them. -/
def splitEnds (text : List Char) :
    List Char × Option (List Char) × Option (List Char) :=
  let (front, fragment) := spanUntil (· == '#') text
  let (body, query) := spanUntil (· == '?') front
  let tail (part : List Char) : Option (List Char) :=
    if part.isEmpty then none else some (part.drop 1)
  (body, tail query, tail fragment)

/-- Whether addresses of a scheme have a path that starts with a slash, whatever
is written. -/
def isKnown (scheme : String) : Bool := isWeb scheme || scheme == "file"

/-- Adds a query and a fragment to an address. -/
def withEnds (url : Url) (query fragment : Option (List Char)) : Url :=
  let queryEscapes := if isKnown url.scheme then inKnownQuery else inQuery
  { url with
    query := query.map fun part => String.ofList (escapeAll queryEscapes part)
    fragment :=
      fragment.map fun part => String.ofList (escapeAll inFragment part) }

/-- Adds path, query and fragment to an address.  A path that starts with a
drive letter leaves a file without host. -/
def withRest (url : Url) (text : List Char) : Url :=
  let known := isKnown url.scheme
  let (body, query, fragment) := splitEnds text
  let segments := match body with
    | [] => if known then [[]] else []
    | first :: rest =>
        segmentsOf known (if first == '/' || (known && first == '\\') then
            rest else body)
  let url :=
    if url.scheme == "file" then
      let host := if segments.head?.any isDrive then some "" else url.host
      { url with host, path := pathOf (fileSegments segments) }
    else { url with path := pathOf segments }
  url.withEnds query fragment

/-- Reads an authority and what follows it. -/
def parseAuthority (scheme : String) (text : List Char) : Except Fault Url := do
  let web := isWeb scheme
  let (credentials, present, text) ← splitCredentials web text
  let (host, rest) := spanHost web false text
  if web && host.isEmpty then throw .emptyHost
  let host ← if web then webHost host else opaqueHost host
  if host.isEmpty && rest.head? == some ':' then throw .emptyHost
  let (port, rest) ← match rest with
    | ':' :: after => splitPort scheme after
    | _ => pure (none, rest)
  if host.isEmpty && present then throw .emptyHost
  return withRest
    { scheme, credentials, host := some (String.ofList host), port } rest

/-- Reads what follows the scheme of a file address. -/
def parseFile (text : List Char) : Except Fault Url := do
  match text with
  | first :: second :: rest =>
      if isSlash first && isSlash second then
        let (host, after) := spanUntil (fun character =>
          isSlash character || character == '?' || character == '#') rest
        if isDrive host then
          return withRest { scheme := "file", host := some "" } rest
        let host ← if host.isEmpty then pure [] else webHost host
        let name := String.ofList host
        return withRest
          { scheme := "file",
            host := some (if name == "localhost" then "" else name) }
          after
      else return withRest { scheme := "file", host := some "" } text
  | _ => return withRest { scheme := "file", host := some "" } text

/-- Reads what follows a scheme of unknown kind. -/
def parseOther (scheme : String) (text : List Char) : Except Fault Url :=
  match text with
  | '/' :: '/' :: rest => parseAuthority scheme rest
  | '/' :: _ => .ok (withRest { scheme } text)
  | _ =>
      let (body, query, fragment) := splitEnds text
      .ok (withEnds { scheme, path := String.ofList (escapeAll [] body) }
        query fragment)

/-- Reads an absolute address. -/
def parse (text : String) : Except Fault Url :=
  match scheme? (significant text) with
  | none => .error .noBase
  | some (scheme, rest) =>
      if scheme == "file" then parseFile rest
      else if isWeb scheme then parseAuthority scheme (rest.dropWhile isSlash)
      else parseOther scheme rest

/-- An optional part of an address with its mark. -/
def marked (mark : String) : Option String → String
  | none => ""
  | some part => mark ++ part

/-- What a request asks its server for: path and query. -/
def target (url : Url) : String := url.path ++ marked "?" url.query

/-- The text of an address.  Where there is no host, a path does not start like
one. -/
def text (url : Url) : String :=
  let authority := match url.host with
    | none => if url.path.startsWith "//" then "/." else ""
    | some host =>
        "//" ++
          (if url.credentials.isEmpty then "" else url.credentials ++ "@") ++
          host
          ++ marked ":" (url.port.map toString)
  url.scheme ++ ":" ++ authority ++ url.target ++ marked "#" url.fragment

/-- The address without credentials if these are text. -/
def withoutCredentials (url : Url) : Url :=
  let isText (part : List Char) : Bool := (unescapedText? part).isSome
  let (name, secret) := spanUntil (· == ':') url.credentials.toList
  let secret := secret.drop 1
  let telling := !name.isEmpty || (!secret.isEmpty && isText secret)
  if isText name && telling then { url with credentials := "" } else url

/-- The address without its fragment. -/
def withoutFragment (url : Url) : Url := { url with fragment := none }

end Url

end TaskSieve
