import TaskSieve.Table
import TaskSieve.Text.Blank

/-!
# Tests near changed files

A test group is relevant to a change when it is a changed directory or lies
below one.  Files at the root of the tree change no directory.
-/

namespace TaskSieve.RelevantTests

/-- What precedes the last slash of a path. -/
def directory? (file : List Char) : Option (List Char) :=
  match file.reverse.dropWhile (· != '/') with
  | [] => none
  | _ :: front => some front.reverse

/-- The directories that hold changed files, the root left out. -/
def directories (files : List String) : Names :=
  let found := files.filterMap fun file => directory? file.toList
  Names.ofList
    ((found.filter fun directory => !directory.isEmpty).map String.ofList)

/-- Whether a path is a directory or lies below it. -/
def isUnder (path directory : String) : Bool :=
  match directory.toList.isPrefixOf? path.toList with
  | none => false
  | some [] => true
  | some (next :: _) => next == '/'

/-- Whether some path is a directory of the set or lies below one. -/
def anyUnder (paths : List String) (directories : Names) : Bool :=
  paths.any fun path => directories.keys.any (isUnder path)

end TaskSieve.RelevantTests
