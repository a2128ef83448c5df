import TaskSieve.Polling
import TaskSieve.Push

/-!
# Evidence for a push

Evidence is gathered from the push itself or from a window of pushes that ends
with it.  What was gathered, and that the predictor timed out, is remembered;
other failures are not.
-/

namespace TaskSieve.Client

/-- Evidence for one revision, remembered or asked for. -/
def evidenceOf (client : Client) (branch revision : String) :
    Step Evidence := fun state =>
  let key : CacheKey := ⟨branch, revision, 1⟩
  match state.cache.find? key with
  | some remembered =>
      ((remembered.answer branch revision).mapError .evidence, state)
  | none =>
      match client.poll branch revision state with
      | (.ok evidence, after) =>
          (.ok evidence, after.remember key (.ready evidence))
      | (.error (.timeout _ _ elapsed), after) =>
          (.error (.evidence (.timeout branch revision elapsed)),
            after.remember key (.timedOut elapsed))
      | (.error error, after) => (.error (.evidence error), after)

/-- The first push of a window of so many pushes that ends with a push; no
window reaches below the first push of all.  The pushes are counted back in a
signed word, which may come round to a push after the last. -/
def windowStart (id : Int) (pushes : Nat) : Int :=
  max (Word.comeRound (id - pushes + 1)) 1

/-- The revisions of a range of pushes, which the push log tells; an empty range
is not asked for. -/
def resolve (environment : Environment) (repository : String)
    (first last : Int) :
    Step (List (Int × String)) := fun state =>
  if last < first then (.ok [], state)
  else
    let after := state.record (.queried repository first last)
    match environment.pushes state.history repository first last with
    | .error error => (.error (.pushLog error), after)
    | .ok log => ((log.revisions first last).mapError .pushLog, after)

/-- The revisions of a window: those of the earlier pushes, then that of the
push itself. -/
def window (client : Client) (push : Push) (pushes : Nat) :
    Step (List String) := do
  let earlier ←
      resolve client.environment push.repository (windowStart push.id pushes)
    (push.id - 1)
  return earlier.map (·.2) ++ [push.revision]

/-- Gathers evidence of revisions one after the other on top of what is gathered
already.  When one times out, that is remembered for the whole window. -/
def gather (client : Client) (branch : String) (key : CacheKey)
    (gathered : Evidence) :
    List String → Step Evidence
  | [] => fun state => (.ok gathered, state.remember key (.ready gathered))
  | revision :: rest => fun state =>
      match client.evidenceOf branch revision state with
      | (.ok evidence, after) =>
          client.gather branch key (gathered.merge evidence) rest after
      | (.error (.evidence (.timeout _ _ elapsed)), after) =>
          (.error (.evidence (.timeout branch revision elapsed)),
            after.remember key (.timedOut elapsed))
      | (.error failure, after) => (.error failure, after)

/-- Evidence for a push from a window of so many pushes. -/
def evidenceFor (client : Client) (push : Push) (pushes : Nat) :
    Step Evidence :=
  if pushes ≤ 1 then client.evidenceOf push.branch push.revision
  else fun state =>
    let key : CacheKey := ⟨push.branch, push.revision, pushes⟩
    match state.cache.find? key with
    | some remembered =>
        ((remembered.answer push.branch push.revision).mapError .evidence,
          state)
    | none =>
        (do
          let revisions ← client.window push pushes
          client.gather push.branch key {} revisions) state

end TaskSieve.Client
