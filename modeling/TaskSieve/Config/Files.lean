import TaskSieve.Config.Check
import TaskSieve.Config.Notation
import TaskSieve.FileTree

/-!
# Configuration files

The configuration is the nearest file with one of four names, in a directory
or in its directory `.github`, going up from where the search starts.  Where
there is none, every setting has its default.
-/

namespace TaskSieve.Config

/-- The names of configuration files, the preferred ones first. -/
def fileNames : List String :=
  ["gantry.toml", "gantry.yaml", ".gantry.toml", ".gantry.yaml"]

/-- Reads and checks the configuration at a path. -/
def load (files : Files) (path : String) : Except ConfigError Config := do
  let text ← match files.read path with
    | .ok text => .ok text
    | .error .notText => .error .notText
    | .error _ => .error (.notFound path)
  let config ← if Path.extension? path == some "toml" then
      ofToml text else ofYaml text
  config.check
  return config

/-- Where a configuration of a directory may be, in the order of preference: for
each name, the directory itself before its directory `.github`. -/
def places (directory : String) : List String :=
  fileNames.flatMap fun name =>
    [Path.join directory name, Path.join (Path.join directory ".github") name]

/-- Where a configuration may be that applies to a directory: nearer places
first. -/
def searchPath (start : String) : List String :=
  (Path.levels start).flatMap places

/-- The first place on the search path where there is something. -/
def find? (files : Files) (start : String) : Option String :=
  (searchPath start).find? files.hasEntry

/-- The configuration that applies to a directory, and where it was found. -/
def loadOrDefault (files : Files) (start : String) :
    Except ConfigError (Config × Option String) :=
  match find? files start with
  | some path => (load files path).map fun config => (config, some path)
  | none => .ok ({}, none)

end TaskSieve.Config
