import TaskSieve.Word

/-!
# Failures

Why an operation has no result: the configuration, the predictor, the push
log, or the strategies asked for.  Each cause has one message.
-/

namespace TaskSieve

/-!
Lengths of time are whole numbers of nanoseconds.
-/

namespace Duration

/-- So many whole seconds. -/
def ofSeconds (count : Nat) : Nat := count * 1000000000

/-- So many whole milliseconds. -/
def ofMilliseconds (count : Nat) : Nat := count * 1000000

/-- The whole seconds of a length of time. -/
def wholeSeconds (duration : Nat) : Nat := duration / 1000000000

/-- The whole milliseconds of a length of time. -/
def wholeMilliseconds (duration : Nat) : Nat := duration / 1000000

/-- The longest length of time that is told apart from longer ones. -/
def longest : Nat := Word.count * 1000000000 - 1

end Duration

/-- Why a configuration is refused. -/
inductive ConfigError
  | notFound (path : String)
  | invalid (field detail : String)
  | toml
  | yaml
  | notText
  deriving DecidableEq, Repr

/-- The message of a configuration error. -/
def ConfigError.message : ConfigError → String
  | .notFound path => s!"Configuration file not found at {path}"
  | .invalid field detail => s!"Invalid configuration: {field} - {detail}"
  | .toml => "TOML parsing error: the text is not a configuration"
  | .yaml => "YAML parsing error: the text is not a configuration"
  | .notText => "IO error reading config: stream did not contain valid UTF-8"

/-- Why there is no evidence from the predictor. -/
inductive EvidenceError
  | timeout (branch revision : String) (elapsed : Nat)
  | http (url : String) (status : Option Nat) (detail : String)
  | decode (url detail : String)
  deriving DecidableEq, Repr

/-- The message of an evidence error. -/
def EvidenceError.message : EvidenceError → String
  | .timeout branch revision elapsed =>
      s!"Timed out after {Duration.wholeSeconds elapsed}s waiting for "
        ++ s!"predictor results for {branch}@{revision}"
  | .http url _ detail => s!"Predictor request to {url} failed: {detail}"
  | .decode url detail =>
      s!"Failed to decode predictor reply from {url}: {detail}"

/-- Why earlier pushes could not be resolved. -/
inductive PushLogError
  | http (url detail : String)
  | decode (url detail : String)
  | missingPush (id first last : Int)
  | emptyPush (id : Int)
  deriving DecidableEq, Repr

/-- The message of a push log error. -/
def PushLogError.message : PushLogError → String
  | .http url detail => s!"Push log request to {url} failed: {detail}"
  | .decode url detail =>
      s!"Failed to decode push log reply from {url}: {detail}"
  | .missingPush id first last =>
      s!"Push log is missing push {id} (requested {first}..={last})"
  | .emptyPush id => s!"Push {id} has no changesets"

/-- Why a strategy or a policy could not be had. -/
inductive StrategyError
  | duplicate (name : String)
  | unknown (name : String)
  | noPolicy (project purpose : String)
  deriving DecidableEq, Repr

/-- The message of a strategy error. -/
def StrategyError.message : StrategyError → String
  | .duplicate name => s!"Strategy '{name}' is already registered"
  | .unknown name => s!"Unknown optimization strategy: {name}"
  | .noPolicy project purpose =>
      s!"No optimization policy for project '{project}' and purpose '{purpose}'"

/-- Why an operation failed. -/
inductive Failure
  | config (error : ConfigError)
  | evidence (error : EvidenceError)
  | pushLog (error : PushLogError)
  | strategy (error : StrategyError)
  deriving DecidableEq, Repr

/-- The message of a failure. -/
def Failure.message : Failure → String
  | .config error => error.message
  | .evidence error => error.message
  | .pushLog error => error.message
  | .strategy error => error.message

end TaskSieve
