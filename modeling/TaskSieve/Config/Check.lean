import TaskSieve.Config.Basic
import TaskSieve.Binary64.Shortest
import TaskSieve.Url.Address

/-!
# Checking a configuration

A configuration is checked part by part, and the first fault is reported with
the name of its setting.
-/

namespace TaskSieve

/-- Checks that a threshold lies between 0 and 1. -/
def checkThreshold (field : String) (threshold : Binary64) :
    Except ConfigError Unit :=
  if threshold.isFraction then .ok ()
  else .error (.invalid field s!"{threshold.text} is outside [0, 1]")

/-- Checks how the predictor is asked. -/
def PredictorSettings.check (settings : PredictorSettings) :
    Except ConfigError Unit :=
  match Url.parse settings.baseUrl with
  | .error fault => .error (.invalid "predictor.base_url" fault.message)
  | .ok _ =>
      if settings.retrySeconds = 0 then
        .error (.invalid "predictor.retry_interval_secs" "must be positive")
      else if settings.timeoutSeconds < settings.retrySeconds then
        .error (.invalid "predictor.timeout_secs"
          "must be at least predictor.retry_interval_secs")
      else .ok ()

/-- Checks which pushes run every task; half the interval must still be
positive. -/
def BackstopSettings.check (settings : BackstopSettings) :
    Except ConfigError Unit :=
  if settings.pushInterval < 2 then
    .error (.invalid "backstop.push_interval" "must be at least 2")
  else if (settings.removeOnProjects.getD []).any String.isEmpty then
    .error
      (.invalid "backstop.remove_on_projects" "project names cannot be empty")
  else .ok ()

/-- Checks a policy at its place in the list. -/
def PolicySettings.check (index : Nat) (settings : PolicySettings) :
    Except ConfigError Unit :=
  if settings.project.isEmpty then
    .error (.invalid s!"policies[{index}].project" "project cannot be empty")
  else if settings.purpose.isEmpty then
    .error (.invalid s!"policies[{index}].purpose" "purpose cannot be empty")
  else match settings.strategy.fault? with
    | some fault => .error (.invalid s!"policies[{index}].strategy" fault)
    | none => .ok ()

/-- Checks policies from a place in the list on. -/
def checkPolicies : Nat → List PolicySettings → Except ConfigError Unit
  | _, [] => .ok ()
  | index, policy :: rest =>
      match policy.check index with
      | .error error => .error error
      | .ok () => checkPolicies (index + 1) rest

/-- Checks a configuration. -/
def Config.check (config : Config) : Except ConfigError Unit := do
  config.predictor.check
  config.backstop.check
  checkThreshold "selection.default_threshold" config.selection.threshold
  checkPolicies 0 config.policies

end TaskSieve
