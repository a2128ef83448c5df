import TaskSieve.Strategy.Basic
import TaskSieve.Config.Basic

/-!
# Strategies by name

A registry holds each name once.  The built-in registry is made from the
configuration; trees of names are built into strategies against a registry.
-/

namespace TaskSieve

/-- Strategies by name. -/
abbrev Registry := Table String Strategy

namespace Registry

/-- Adds a strategy under a name that must be new. -/
def register (registry : Registry) (name : String) (strategy : Strategy) :
    Except StrategyError Registry :=
  if registry.contains name then
    .error (.duplicate name) else .ok (registry.insert name strategy)

/-- The strategy under a name, which must be there. -/
def require (registry : Registry) (name : String) :
    Except StrategyError Strategy :=
  match registry.find? name with
  | some strategy => .ok strategy
  | none => .error (.unknown name)

/-- The names and descriptions of all strategies. -/
def listing (registry : Registry) : List (String × String) :=
  registry.toList.map fun entry => (entry.1, entry.2.description)

/-- The gates by push id and backstop flag. -/
def gates (config : Config) : Except ConfigError (List (String × Strategy)) :=
  do
  let every ← PushInterval.make config.backstop.pushInterval
  let gate := match config.backstop.removeOnProjects with
    | none => every
    | some projects => every.onlyProjects projects
  let half ← PushInterval.half config.backstop.pushInterval
  return [
    ("skip-unless-backstop", .backstop),
    ("skip-unless-push-interval", .pushInterval gate),
    ("skip-unless-expanded", .expanded half)]

/-- The strategies that look at the task and its context. -/
def contextual (config : Config) : List (String × Strategy) :=
  [("skip-unless-debug", .debug),
    ("skip-unless-schedules", .schedules),
    ("skip-unless-has-relevant-tests", .relevantTests),
    ("disperse-groups", .disperse config.dispersal),
    ("platform-disperse", .disperse config.dispersal)]

/-- A predictor rule with a threshold, as the built-in registry has them. -/
structure BuiltinRule where
  name : String
  threshold : Binary64
  tasksOnly : Bool := false
  reducedTasks : Bool := false
  /-- Whether tasks near changed files are kept when the predictor times out. -/
  fallback : Bool := false
  pushes : Nat := 1

/-- The built-in predictor rules. -/
def builtinRules (config : Config) : List BuiltinRule :=
  let low := Binary64.tenths 7
  let medium := Binary64.tenths 8
  let high := Binary64.tenths 9
  [{ name := "bugbug-push-schedules", threshold := config.selection.threshold },
    { name := "bugbug-low", threshold := low },
    { name := "bugbug-medium", threshold := medium },
    { name := "bugbug-high", threshold := high },
    { name := "bugbug-tasks-medium", threshold := medium, tasksOnly := true },
    { name := "bugbug-tasks-high", threshold := high, tasksOnly := true },
    { name := "bugbug-reduced", threshold := medium, tasksOnly := true,
      reducedTasks := true },
    { name := "bugbug-reduced-high", threshold := high, tasksOnly := true,
      reducedTasks := true },
    { name := "bugbug-reduced-fallback", threshold := medium, tasksOnly := true,
      reducedTasks := true, fallback := true },
    { name := "bugbug-reduced-manifests-fallback", threshold := medium,
      reducedTasks := true, fallback := true },
    { name := "bugbug-reduced-manifests-fallback-last-10-pushes",
      threshold := Binary64.tenths 3, reducedTasks := true, fallback := true,
      pushes := 10 }]

/-- The strategy of a built-in rule in the projects of the predictor. -/
def BuiltinRule.strategy (rule : BuiltinRule) (projects : List String) :
    Except ConfigError Strategy := do
  let base ← PredictorRule.ofThreshold rule.threshold
  let selector := { base.selector with
    tasksOnly := rule.tasksOnly, reducedTasks := rule.reducedTasks }
  let window ←
    { base with selector, projects := some projects }.withPushes rule.pushes
  return if rule.fallback then .predictorOr window .relevantTests
    else .predictor window

/-- Names and strategies of the built-in registry. -/
def builtinEntries (config : Config) :
    Except ConfigError (List (String × Strategy)) := do
  let gates ← gates config
  let rules ← (builtinRules config).mapM fun rule => do
    return (rule.name, ← rule.strategy config.predictor.projects)
  return gates ++ contextual config ++ rules

/-- Registers strategies one after the other. -/
def registerAll (registry : Registry) (entries : List (String × Strategy)) :
    Except StrategyError Registry :=
  entries.foldlM (fun registry entry => registry.register entry.1 entry.2)
    registry

/-- The built-in registry. -/
def builtin (config : Config) : Except Failure Registry := do
  let entries ← (builtinEntries config).mapError .config
  (registerAll ∅ entries).mapError .strategy

end Registry

namespace Spec

mutual

/-- The strategy of a tree whose names a registry holds. -/
def build (registry : Registry) : Spec → Except StrategyError Strategy
  | .named name => registry.require name
  | .any children => do return .any (← buildAll registry children)
  | .all children => do return .all (← buildAll registry children)
  | .not child => do return .not (← child.build registry)

/-- The strategies of several trees. -/
def buildAll (registry : Registry) :
    List Spec → Except StrategyError (List Strategy)
  | [] => return []
  | child :: rest =>
      do return (← child.build registry) :: (← buildAll registry rest)

end

end Spec

end TaskSieve
