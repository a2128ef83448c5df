import TaskSieve.Text.Blank

/-!
# Paths

A path is a text of segments with slashes between them.  Empty segments and
single dots lead nowhere, two dots lead up.  A path that starts with a slash
starts at the root.
-/

namespace TaskSieve.Path

/-- The segments of a path. -/
def segments (path : String) : List String :=
  (Text.splitList (· == '/') path.toList).map String.ofList

/-- Whether a segment leads nowhere. -/
def isIdle (segment : String) : Bool := segment == "" || segment == "."

/-- Whether a path has the character that ends paths, and so is none. -/
def isMalformed (path : String) : Bool := path.toList.contains '\x00'

/-- Whether a path has more bytes than paths may have. -/
def isTooLong (path : String) : Bool := 4095 < path.utf8ByteSize

/-- Whether a segment has more bytes than names may have. -/
def isTooLongName (segment : String) : Bool := 255 < segment.utf8ByteSize

/-- Whether a path starts at the root. -/
def isAbsolute (path : String) : Bool := path.toList.head? == some '/'

/-- The path of a name in a directory.  An absolute path is the same in every
directory, and an empty name leads to the directory itself. -/
def join (directory name : String) : String :=
  if isAbsolute name then name
  else if directory.isEmpty || directory.toList.getLast? == some '/' then
    directory ++ name
  else directory ++ "/" ++ name

/-- The path from the root over the given segments. -/
def ofSegments (segments : List String) : String :=
  "/" ++ "/".intercalate segments

/-- Segments, the last one first, without those at the end that lead nowhere.
The first segment of a path stays: it is empty if the path starts at the
root. -/
def trimmed : List String → List String
  | [] => []
  | [first] => [first]
  | segment :: above =>
      if isIdle segment then trimmed above else segment :: above

/-- The path with the given segments, the last one first. -/
def ofBackwards : List String → String
  | [""] => "/"
  | segments => "/".intercalate segments.reverse

/-- The path without its last component.  The root and the empty path have
none. -/
def parent? (path : String) : Option String :=
  match trimmed (segments path).reverse with
  | [] => none
  | [first] => if first == "" then none else some ""
  | _ :: above => some (ofBackwards (trimmed above))

/-- The directories above a place, the nearest one first.  The place is given by
its segments, the last one first.  Above the first component of a path that does
not start at the root is the empty path. -/
def ancestorsOf : List String → List String
  | [] => []
  | [first] => if first == "" then [] else [""]
  | segment :: above =>
      if isIdle segment then ancestorsOf above
      else ofBackwards (trimmed above) :: ancestorsOf above

/-- A path and the directories above it, as far as the path tells of them. -/
def levels (path : String) : List String :=
  path :: ancestorsOf (segments path).reverse

/-- What follows the last dot in the name that a path ends with, unless the dot
comes first. -/
def extension? (path : String) : Option String := do
  let name ← (segments path).reverse.find? fun segment => !isIdle segment
  if name == ".." then none
  let backwards := name.toList.reverse
  let ending := backwards.takeWhile (· != '.')
  if (backwards.drop (ending.length + 1)).isEmpty then none
  else some (String.ofList ending.reverse)

/-- A path without segments that lead nowhere or up. -/
def plain (path : String) : String :=
  ofSegments ((segments path).foldl follow []).reverse
where
  /-- Follows a segment from a place whose segments are given, the last one
  first. -/
  follow (place : List String) (segment : String) : List String :=
    if isIdle segment then place
    else if segment == ".." then place.drop 1
    else segment :: place

end TaskSieve.Path
