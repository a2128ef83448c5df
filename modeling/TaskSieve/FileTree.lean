import TaskSieve.Path
import TaskSieve.Text.Utf8

/-!
# Files and directories

A tree of directories with files in them, and what a path leads to in it.  The
rest of the library knows files only by what paths lead to.
-/

namespace TaskSieve

/-- Why a path leads nowhere. -/
inductive PathFault
  | missing
  /-- A file stands where a directory would be needed. -/
  | blocked
  /-- The path or a name in it is too long. -/
  | tooLong
  /-- The path has a character that no path has. -/
  | malformed
  deriving DecidableEq, Repr

/-- The message of a fault. -/
def PathFault.message : PathFault → String
  | .missing => "No such file or directory (os error 2)"
  | .blocked => "Not a directory (os error 20)"
  | .tooLong => "File name too long (os error 36)"
  | .malformed => "file name contained an unexpected NUL byte"

/-- What a path leads to. -/
inductive Found
  | nowhere (fault : PathFault)
  | directory
  | file (content : ByteArray)

/-- The files of a machine, by absolute path. -/
abbrev Files := String → Found

/-- Why a file cannot be read as text. -/
inductive ReadFault
  | nowhere (fault : PathFault)
  | directory
  | notText
  deriving DecidableEq, Repr

/-- The message of a fault. -/
def ReadFault.message : ReadFault → String
  | .nowhere fault => fault.message
  | .directory => "Is a directory (os error 21)"
  | .notText => "stream did not contain valid UTF-8"

namespace Files

/-- Whether a path leads anywhere. -/
def hasEntry (files : Files) (path : String) : Bool :=
  match files path with
  | .nowhere _ => false
  | .directory => true
  | .file _ => true

/-- The text in a file. -/
def read (files : Files) (path : String) : Except ReadFault String :=
  match files path with
  | .nowhere fault => .error (.nowhere fault)
  | .directory => .error .directory
  | .file content =>
      match Utf8.decode? content with
      | some text => .ok text
      | none => .error .notText

/-- The files of a machine by their paths from a directory. -/
def within (files : Files) (directory : String) : Files := fun path =>
  if Path.isMalformed path then .nowhere .malformed
  else if Path.isTooLong path then .nowhere .tooLong
  else files (Path.join directory path)

end Files

/-- A file, or a directory with its entries. -/
inductive FileTree
  | file (content : ByteArray)
  | directory (entries : List (String × FileTree))
  deriving Inhabited

namespace FileTree

/-- What the place itself is. -/
def found : FileTree → Found
  | .file content => .file content
  | .directory _ => .directory

/-- What segments lead to from a place below the given directories, the nearest
one first. -/
def follow (above : List FileTree) (place : FileTree) : List String → Found
  | [] => place.found
  | segment :: rest =>
      match place with
      | .file _ => .nowhere .blocked
      | .directory entries =>
          if Path.isIdle segment then follow above place rest
          else if segment == ".." then
            match above with
            | [] => follow [] place rest
            | parent :: above => follow above parent rest
          else match entries.find? fun entry => entry.1 == segment with
            | none =>
                .nowhere
                  (if Path.isTooLongName segment then .tooLong else .missing)
            | some entry => follow (place :: above) entry.2 rest

/-- The files of a machine whose root is this tree. -/
def files (root : FileTree) :
    Files := fun path => root.follow [] (Path.segments path)

/-- A tree with a file at a place, or with a directory if no content is given.
Directories are made on the way. -/
def put (content : Option ByteArray) : List String → FileTree → FileTree
  | [], place =>
      match content, place with
      | some content, _ => .file content
      | none, .directory entries => .directory entries
      | none, .file _ => .directory []
  | segment :: rest, place =>
      if Path.isIdle segment then put content rest place
      else
        let entries := match place with
          | .directory entries => entries
          | .file _ => []
        let child := match entries.find? fun entry => entry.1 == segment with
          | some entry => entry.2
          | none => .directory []
        .directory ((entries.filter fun entry => entry.1 != segment)
          ++ [(segment, put content rest child)])

end FileTree

end TaskSieve
