import TaskSieve.Json.Read
import TaskSieve.Config.Basic
import TaskSieve.Polling
import TaskSieve.Web.Exchange

/-!
# The predictor on the web

The predictor serves evidence for a revision of a branch at an address of its
own.  A push that it has accepted but not finished is pending; an empty reply
is empty evidence.
-/

namespace TaskSieve.Web

/-- The address of the evidence for a revision of a branch. -/
def schedulesUrl (baseUrl branch revision : String) : String :=
  Text.trimEndOf (· == '/') baseUrl ++ s!"/push/{branch}/{revision}/schedules"

/-- The request for the evidence at an address. -/
def scheduleRequest (apiKey : Option String) (address : String) :
    Except String Request := do
  let url ← requestUrl address
  if !(apiKey.all isHeaderValue) then throw "builder error"
  return {
    url, apiKey := apiKey.map headerValue, userAgent := some "gantry/0.1.0" }

/-- What a response says about a push. -/
def readSchedules (address : String) (response : Response) :
    Except EvidenceError Reply :=
  if response.status = 202 then .ok .pending
  else if !isSuccess response.status then
    .error (.http address (some response.status)
      s!"unexpected status {statusText response.status}")
  else if !response.complete then
    .error (.decode address "error decoding response body")
  else
    let body := Utf8.decodeLossy response.body
    if Text.isAllBlank body then .ok (.ready {})
    else match (Json.read? body).bind Evidence.decode with
      | some evidence => .ok (.ready evidence)
      | none => .error (.decode address "the reply is no evidence")

/-- Asks the predictor once. -/
def fetchSchedules (server : Server) (settings : PredictorSettings)
    (branch revision : String) : Except EvidenceError Reply :=
  let address := schedulesUrl settings.baseUrl branch revision
  match scheduleRequest settings.apiKey address with
  | .error detail => .error (.http address none detail)
  | .ok request =>
      match server request with
      | .error detail => .error (.http address none detail)
      | .ok response => readSchedules address response

end TaskSieve.Web
