import TaskSieve.Command.Run

/-!
# The program

Looks up the files that the command line leads to, runs the command, and
prints its report.  There is no connection to a network, so requests go
unanswered.
-/

open TaskSieve

/-- What a path leads to on this machine. -/
def findFile (path : String) : IO Found := do
  try
    return .file (← IO.FS.readBinFile path)
  catch failure =>
    try
      if ← (← IO.FS.realPath path).isDir then return .directory
    catch _ => pure ()
    match failure with
    | .inappropriateType .. => return .nowhere .blocked
    | .invalidArgument .. => return .nowhere .tooLong
    | _ => return .nowhere .missing

/-- The files of this machine at the given paths. -/
def findFiles (paths : List String) : IO Files := do
  let found ← paths.mapM fun path => return (path, ← findFile path)
  let table := Table.ofList found
  return fun path => (table.find? path).getD (.nowhere .missing)

/-- Runs the command line. -/
def main (words : List String) : IO UInt32 := do
  let directory := toString (← IO.FS.realPath ".")
  let config ← IO.getEnv "GANTRY_CONFIG"
  let paths := match Command.read config words with
    | .ok (settings, action) =>
        Command.pathsOfInterest directory settings action
    | .error _ => []
  let files ← findFiles paths
  let ending := Command.run
    { directory, config, files, server := Web.Server.unreachable } words
  IO.print ending.output
  IO.eprint ending.errors
  return UInt32.ofNat ending.status
