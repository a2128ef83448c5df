import TaskSieve.Config.Basic

/-!
# Configurations as document values

What is missing in a document has its default.  A written configuration lists
every setting; only the projects of the push interval are left out when absent.
-/

namespace TaskSieve

namespace PredictorSettings

/-- The fields of the predictor's settings. -/
def names : List String :=
  ["base_url", "api_key", "timeout_secs", "retry_interval_secs", "projects"]

/-- Reads the predictor's settings. -/
def decode : Decoder PredictorSettings := fun value => do
  let fields ← Decoder.fieldsOf names value
  let defaults : PredictorSettings := {}
  return {
    baseUrl :=
      ← Decoder.withDefault fields "base_url" defaults.baseUrl Decoder.text
    apiKey := ← Decoder.withDefault fields "api_key" defaults.apiKey
      (Decoder.optional Decoder.text)
    timeoutSeconds :=
      ← Decoder.withDefault fields "timeout_secs" defaults.timeoutSeconds
      Decoder.unsigned
    retrySeconds :=
      ← Decoder.withDefault fields "retry_interval_secs" defaults.retrySeconds
      Decoder.unsigned
    projects := ← Decoder.withDefault fields "projects" defaults.projects
      (Decoder.list Decoder.text) }

/-- The predictor's settings as a record. -/
def encode (settings : PredictorSettings) : Datum :=
  .record [
    ("base_url", .text settings.baseUrl),
    ("api_key", Datum.ofOption .text settings.apiKey),
    ("timeout_secs", .int settings.timeoutSeconds),
    ("retry_interval_secs", .int settings.retrySeconds),
    ("projects", Datum.ofNames settings.projects)]

end PredictorSettings

namespace PushLogSettings

/-- The fields of the push log's settings. -/
def names : List String := ["timeout_secs"]

/-- Reads the push log's settings. -/
def decode : Decoder PushLogSettings := fun value => do
  let fields ← Decoder.fieldsOf names value
  return {
    timeoutSeconds := ← Decoder.withDefault fields "timeout_secs"
      ({} : PushLogSettings).timeoutSeconds Decoder.unsigned }

/-- The push log's settings as a record. -/
def encode (settings : PushLogSettings) : Datum :=
  .record [("timeout_secs", .int settings.timeoutSeconds)]

end PushLogSettings

namespace BackstopSettings

/-- The fields of the settings of the push gates. -/
def names : List String := ["push_interval", "remove_on_projects"]

/-- Reads the settings of the push gates. -/
def decode : Decoder BackstopSettings := fun value => do
  let fields ← Decoder.fieldsOf names value
  let defaults : BackstopSettings := {}
  return {
    pushInterval :=
      ← Decoder.withDefault fields "push_interval" defaults.pushInterval
      Decoder.signed
    removeOnProjects := ← Decoder.withDefault fields "remove_on_projects"
      defaults.removeOnProjects (Decoder.optional (Decoder.list Decoder.text)) }

/-- The settings of the push gates as a record. -/
def encode (settings : BackstopSettings) : Datum :=
  .record (("push_interval", .int settings.pushInterval) ::
    match settings.removeOnProjects with
    | none => []
    | some projects => [("remove_on_projects", Datum.ofNames projects)])

end BackstopSettings

namespace SelectionSettings

/-- The fields of the settings of the selection. -/
def names : List String := ["default_threshold"]

/-- Reads the settings of the selection. -/
def decode : Decoder SelectionSettings := fun value => do
  let fields ← Decoder.fieldsOf names value
  return {
    threshold := ← Decoder.withDefault fields "default_threshold"
      ({} : SelectionSettings).threshold Decoder.real }

/-- The settings of the selection as a record. -/
def encode (settings : SelectionSettings) : Datum :=
  .record [("default_threshold", .real settings.threshold)]

end SelectionSettings

namespace Targets

/-- The fields of dispersal targets. -/
def names : List String := ["low", "medium", "high", "unseen_modifier"]

/-- Reads dispersal targets. -/
def decode : Decoder Targets := fun value => do
  let fields ← Decoder.fieldsOf names value
  let defaults : Targets := {}
  return {
    low := ← Decoder.withDefault fields "low" defaults.low Decoder.word
    medium := ← Decoder.withDefault fields "medium" defaults.medium Decoder.word
    high := ← Decoder.withDefault fields "high" defaults.high Decoder.word
    unseen := ← Decoder.withDefault fields "unseen_modifier" defaults.unseen
      Decoder.word }

/-- Dispersal targets as a record. -/
def encode (targets : Targets) : Datum :=
  .record [
    ("low", .int targets.low.toNat),
    ("medium", .int targets.medium.toNat),
    ("high", .int targets.high.toNat),
    ("unseen_modifier", .int targets.unseen.toNat)]

end Targets

namespace PolicySettings

/-- The fields of a policy. -/
def names : List String := ["project", "purpose", "strategy"]

/-- Reads a policy whose tree may nest so many levels. -/
def decode (levels : Nat) : Decoder PolicySettings := fun value => do
  let fields ← Decoder.fieldsOf names value
  return {
    project := ← Decoder.required fields "project" Decoder.text
    purpose := ← Decoder.required fields "purpose" Decoder.text
    strategy := ← Decoder.required fields "strategy" (Spec.decode levels) }

/-- A policy as a record. -/
def encode (settings : PolicySettings) : Datum :=
  .record [
    ("project", .text settings.project),
    ("purpose", .text settings.purpose),
    ("strategy", settings.strategy.encode)]

end PolicySettings

namespace Config

/-- The fields of a configuration. -/
def names : List String :=
  ["predictor", "pushlog", "backstop", "selection", "dispersal", "policies"]

/-- Reads a configuration that may nest so many levels. -/
def decode (levels : Nat) : Decoder Config := fun value => do
  let fields ← Decoder.fieldsOf names value
  return {
    predictor :=
      ← Decoder.withDefault fields "predictor" {} PredictorSettings.decode
    pushLog := ← Decoder.withDefault fields "pushlog" {} PushLogSettings.decode
    backstop :=
      ← Decoder.withDefault fields "backstop" {} BackstopSettings.decode
    selection :=
      ← Decoder.withDefault fields "selection" {} SelectionSettings.decode
    dispersal := ← Decoder.withDefault fields "dispersal" {} Targets.decode
    policies := ← Decoder.withDefault fields "policies" []
      (Decoder.list (PolicySettings.decode (levels - 3))) }

/-- A configuration as a record. -/
def encode (config : Config) : Datum :=
  .record [
    ("predictor", config.predictor.encode),
    ("pushlog", config.pushLog.encode),
    ("backstop", config.backstop.encode),
    ("selection", config.selection.encode),
    ("dispersal", config.dispersal.encode),
    ("policies", .list (config.policies.map PolicySettings.encode))]

end Config

end TaskSieve
