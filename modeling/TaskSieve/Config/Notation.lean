import TaskSieve.Config.Codec
import TaskSieve.Toml.Read
import TaskSieve.Yaml.Resolve

/-!
# Configurations as text

A configuration is written in TOML or in YAML.  The kinds of its settings tell
what plain scalars of YAML mean.  Of a list that stands for a section in TOML
only as many items count as the section has settings.
-/

namespace TaskSieve.Config

/-- The kinds of the settings. -/
def shape : Yaml.Shape :=
  .record [
    ("predictor", .record [
      ("base_url", .text),
      ("api_key", .optional .text),
      ("timeout_secs", .unsigned),
      ("retry_interval_secs", .unsigned),
      ("projects", .list .text)]),
    ("pushlog", .record [("timeout_secs", .unsigned)]),
    ("backstop", .record [
      ("push_interval", .signed),
      ("remove_on_projects", .optional (.list .text))]),
    ("selection", .record [("default_threshold", .real)]),
    ("dispersal", .record (Targets.names.map fun name => (name, .unsigned))),
    ("policies", .list (.record [
      ("project", .text),
      ("purpose", .text),
      ("strategy", .free)]))]

/-- The greatest nesting of a configuration in YAML. -/
def yamlLevels : Nat := 128

/-- The settings of each section. -/
def sections : List (String × List String) :=
  [("predictor", PredictorSettings.names), ("pushlog", PushLogSettings.names),
    ("backstop", BackstopSettings.names),
    ("selection", SelectionSettings.names), ("dispersal", Targets.names)]

/-- A value without the items that a list has beyond the given fields. -/
def clip (fields : List String) : Datum → Datum
  | .list items => .list (items.take fields.length)
  | value => value

/-- The value of a section or of the policies without the items that count for
nothing. -/
def clipSection (name : String) (value : Datum) : Datum :=
  match sections.lookup name, value with
  | some settings, _ => clip settings value
  | none, .list items =>
      if name == "policies" then .list (items.map (clip PolicySettings.names))
      else value
  | none, _ => value

/-- A document without the items that count for nothing. -/
def clipDocument : Datum → Datum
  | .record fields =>
      .record (fields.map fun field => (field.1, clipSection field.1 field.2))
  | value => value

/-- The configuration that a text in TOML denotes. -/
def ofToml (text : String) : Except ConfigError Config :=
  match Toml.read? text with
  | some datum =>
      match decode (text.length + 4) (clipDocument datum) with
      | some config => .ok config
      | none => .error .toml
  | none => .error .toml

/-- The configuration that a text in YAML denotes. -/
def ofYaml (text : String) : Except ConfigError Config :=
  match Yaml.read? yamlLevels shape text with
  | some datum =>
      match decode yamlLevels datum with
      | some config => .ok config
      | none => .error .yaml
  | none => .error .yaml

end TaskSieve.Config
