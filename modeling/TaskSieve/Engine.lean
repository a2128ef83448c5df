import TaskSieve.Config.Files
import TaskSieve.Outcome
import TaskSieve.Policy
import TaskSieve.Web.PushHistory

/-!
# The engine

What a configuration makes: a client of the predictor, the strategies by name,
and the policies of projects.
-/

namespace TaskSieve

/-- Everything that decisions are made with. -/
structure Engine where
  config : Config
  /-- Where the configuration was found. -/
  path : Option String
  client : Client
  registry : Registry
  policies : Policies

namespace Engine

/-- The engine of a checked configuration, whose requests go to a server. -/
def ofConfig (server : Web.Server) (config : Config) (path : Option String) :
    Except Failure Engine := do
  let settings := config.predictor
  let polling ←
      (Polling.make settings.retryInterval settings.timeout).mapError .config
  let registry ← Registry.builtin config
  let policies ← (Policies.ofConfig config registry).mapError .strategy
  return {
    config := config
    path := path
    client := ⟨Web.environment server settings, polling⟩
    registry := registry
    policies := policies }

end Engine

end TaskSieve
