import TaskSieve.PushLog
import TaskSieve.State

/-!
# Asking the predictor until it is ready

The predictor answers that a push is pending until its results are there.
`Client.poll` asks again after each interval, as long as the next answer can
still come in time.
-/

namespace TaskSieve

/-- What the predictor answers. -/
inductive Reply
  | pending
  | ready (evidence : Evidence)
  deriving DecidableEq, Repr

/-- How often and how long to ask. -/
structure Polling where
  interval : Nat
  timeout : Nat
  positive : 0 < interval

namespace Polling

/-- The polling with an interval and a timeout. -/
def make (interval timeout : Nat) : Except ConfigError Polling :=
  if positive : 0 < interval then .ok { interval, timeout, positive }
  else .error (.invalid "predictor.retry_interval_secs" "must be positive")

/-- How long to ask about a push to a branch: a third longer for `try`. -/
def limit (polling : Polling) (branch : String) : Nat :=
  if branch = "try" then
    min (polling.timeout + polling.timeout / 3) Duration.longest
  else polling.timeout

end Polling

/-- Whoever answers requests.  An answer may depend on what was asked before. -/
structure Environment where
  /-- What the predictor answers about a revision of a branch, and how long that
  takes. -/
  fetch : List Event → (branch revision : String) →
    Except EvidenceError Reply × Nat
  /-- What the push log of a repository answers about a range of pushes. -/
  pushes : List Event → (repository : String) → (first last : Int) →
    Except PushLogError PushLog

/-- What a run asks, and how patiently. -/
structure Client where
  environment : Environment
  polling : Polling

namespace Client

/-- Asks the predictor once. -/
def ask (client : Client) (branch revision : String) (state : State) :
    Except EvidenceError Reply × State :=
  let (reply, duration) :=
    client.environment.fetch state.history branch revision
  (reply, (state.record (.fetched branch revision)).advance duration)

theorem now_le_ask (client : Client) (branch revision : String)
    (state : State) : state.now ≤ (client.ask branch revision state).2.now := by
  exact Nat.le_add_right _ _

/-- Asks the predictor, from a starting time on, until it is ready or fails, or
until the next answer would come too late. -/
def pollFrom (client : Client) (branch revision : String) (start : Nat)
    (state : State) : Except EvidenceError Evidence × State :=
  match _asked : client.ask branch revision state with
  | (.error error, after) => (.error error, after)
  | (.ok (.ready evidence), after) => (.ok evidence, after)
  | (.ok .pending, after) =>
      if _inTime : after.now - start + client.polling.interval ≤
        client.polling.limit branch then
        client.pollFrom branch revision start
          (after.sleep client.polling.interval)
      else (.error (.timeout branch revision (after.now - start)), after)
termination_by start + client.polling.limit branch + 1 - state.now
decreasing_by
  have progress := client.now_le_ask branch revision state
  have positive := client.polling.positive
  rw [_asked] at progress
  simp only [State.sleep, State.advance, State.record] at progress ⊢
  omega

/-- Asks the predictor about a revision until it is ready or fails. -/
def poll (client : Client) (branch revision : String) (state : State) :
    Except EvidenceError Evidence × State :=
  client.pollFrom branch revision state.now state

end Client

end TaskSieve
