import TaskSieve.Json.Read
import TaskSieve.PushLog
import TaskSieve.Web.Predictor

/-!
# Push logs on the web

A repository serves its push log next to itself.  The first push of a range is
asked for by the id before it.
-/

namespace TaskSieve.Web

/-- The address of a range of pushes. -/
def pushesUrl (repository : String) (first last : Int) : String :=
  Text.trimEndOf (· == '/') repository
    ++ s!"/json-pushes/?version=2&startID={first - 1}&endID={last}"

/-- The request for the pushes at an address. -/
def pushesRequest (address : String) : Except String Request := do
  return { url := ← requestUrl address }

/-- What a response says about pushes. -/
def readPushes (address : String) (request : Request) (response : Response) :
    Except PushLogError PushLog :=
  let refused (side : String) : Except PushLogError PushLog :=
    let asked := request.url.withoutFragment.text
    let status := statusText response.status
    .error (.http address
      s!"HTTP status {side} error ({status}) for url ({asked})")
  if isClientError response.status then refused "client"
  else if isServerError response.status then refused "server"
  else if !response.complete then
    .error (.decode address "error decoding response body")
  else match (Json.readBytes? response.body).bind PushLog.decodeReply with
    | some log => .ok log
    | none => .error (.decode address "the reply is no push log")

/-- Asks a push log for a range of pushes. -/
def fetchPushes (server : Server) (repository : String) (first last : Int) :
    Except PushLogError PushLog :=
  let address := pushesUrl repository first last
  match pushesRequest address with
  | .error detail => .error (.http address detail)
  | .ok request =>
      match server request with
      | .error detail => .error (.http address detail)
      | .ok response => readPushes address request response

/-- The environment of a server.  Each request takes a moment. -/
def environment (server : Server) (settings : PredictorSettings) :
    Environment where
  fetch _ branch revision := (fetchSchedules server settings branch revision, 1)
  pushes _ repository first last := fetchPushes server repository first last

/-- The request that an event of a run stands for, when it could be made. -/
def requestOf? (settings : PredictorSettings) : Event → Option Request
  | .fetched branch revision =>
      (scheduleRequest settings.apiKey
        (schedulesUrl settings.baseUrl branch revision)).toOption
  | .queried repository first last =>
      (pushesRequest (pushesUrl repository first last)).toOption
  | _ => none

/-- The requests of a run, in order. -/
def requests (settings : PredictorSettings) (state : State) : List Request :=
  state.history.reverse.filterMap (requestOf? settings)

end TaskSieve.Web
