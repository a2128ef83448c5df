import TaskSieve.Binary64.Rounding
import TaskSieve.Failure
import TaskSieve.Importance
import TaskSieve.Spec

/-!
# Configuration

Settings of the predictor, the push log, the push gates, the selection by
confidence, the dispersal of groups, and further project policies.  Every
setting has a default.
-/

namespace TaskSieve

/-- Decimal constants of the configuration. -/
def Binary64.tenths (count : Nat) : Binary64 := .ofDecimal false count (-1)

/-- How the predictor is asked. -/
structure PredictorSettings where
  baseUrl : String := "https://bugbug.herokuapp.com"
  /-- The key that is sent with each request. -/
  apiKey : Option String := some "gecko-taskgraph"
  /-- How long to wait for a push in all, in seconds. -/
  timeoutSeconds : Nat := 480
  /-- How long to wait between two requests, in seconds. -/
  retrySeconds : Nat := 10
  /-- The projects that the predictor has data for. -/
  projects : List String := ["autoland", "try"]
  deriving DecidableEq, Repr

/-- How the push log is asked. -/
structure PushLogSettings where
  timeoutSeconds : Nat := 30
  deriving DecidableEq, Repr

/-- Which pushes run every task. -/
structure BackstopSettings where
  /-- Every push whose id is a multiple of this runs everything. -/
  pushInterval : Int := 20
  /-- The projects where the push interval removes tasks; all when absent. -/
  removeOnProjects : Option (List String) := none
  deriving DecidableEq, Repr

/-- How tasks are selected by confidence. -/
structure SelectionSettings where
  threshold : Binary64 := .tenths 8
  deriving DecidableEq, Repr

/-- How many tasks keep a group, by its importance.  These are words, and so
are their sums: a sum that no word holds comes round to a smaller one. -/
structure Targets where
  low : UInt64 := 1
  medium : UInt64 := 2
  high : UInt64 := 3
  /-- How many more tasks keep a group if their configuration does not run it
  yet. -/
  unseen : UInt64 := 1
  deriving DecidableEq, Repr

/-- The number of tasks wanted for a group of some importance. -/
def Targets.count (targets : Targets) : Importance → UInt64
  | .low => targets.low
  | .medium => targets.medium
  | .high => targets.high

/-- A policy of the configuration. -/
structure PolicySettings where
  project : String
  purpose : String
  strategy : Spec

/-- The configuration. -/
structure Config where
  predictor : PredictorSettings := {}
  pushLog : PushLogSettings := {}
  backstop : BackstopSettings := {}
  selection : SelectionSettings := {}
  dispersal : Targets := {}
  policies : List PolicySettings := []

namespace PredictorSettings

/-- How long to wait for a push in all. -/
def timeout (settings : PredictorSettings) : Nat :=
  Duration.ofSeconds settings.timeoutSeconds

/-- How long to wait between two requests. -/
def retryInterval (settings : PredictorSettings) : Nat :=
  Duration.ofSeconds settings.retrySeconds

end PredictorSettings

end TaskSieve
