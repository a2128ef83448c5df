import TaskSieve.Cache
import TaskSieve.Dispersal

/-!
# The state of a run

A run remembers evidence and values derived from its context, and keeps a
history of what it did: every request, every query, every wait.  A step is a
computation that may fail and that reads and changes the state.
-/

namespace TaskSieve

/-- Something a run did. -/
inductive Event
  /-- Asked the predictor about a revision of a branch. -/
  | fetched (branch revision : String)
  /-- Asked the push log of a repository for a range of pushes. -/
  | queried (repository : String) (first last : Int)
  /-- Waited. -/
  | slept (duration : Nat)
  /-- Asked a strategy with given votes about a task. -/
  | asked (label : String)
  /-- Computed a value from the context. -/
  | derived (key : String)
  deriving DecidableEq, Repr

/-- A value derived from a context. -/
inductive Derived
  | directories (names : Names)
  | plan (plan : Plan)
  | number (value : Int)
  | text (value : String)
  deriving DecidableEq, Repr

/-- The values derived so far, by key. -/
abbrev Memo := Table String Derived

/-- The state of a run. -/
structure State where
  cache : Cache := ∅
  /-- How long the run has lasted. -/
  now : Nat := 0
  /-- What the run did, the latest first. -/
  history : List Event := []
  memo : Memo := ∅

namespace State

/-- Adds an event to the history. -/
def record (state : State) (event : Event) : State :=
  { state with history := event :: state.history }

/-- Lets time pass. -/
def advance (state : State) (duration : Nat) : State :=
  { state with now := state.now + duration }

/-- Waits. -/
def sleep (state : State) (duration : Nat) : State :=
  (state.advance duration).record (.slept duration)

/-- Remembers evidence. -/
def remember (state : State) (key : CacheKey) (value : Remembered) : State :=
  { state with cache := state.cache.insert key value }

/-- How often the run waited. -/
def sleeps (state : State) : Nat :=
  state.history.countP fun event => match event with
    | .slept _ => true
    | _ => false

end State

/-- A computation that may fail and that reads and changes the state. -/
def Step (α : Type) : Type := State → Except Failure α × State

namespace Step

/-- A step that answers without touching the state. -/
def answer (result : Except Failure α) : Step α := fun state => (result, state)

/-- A step followed by another, unless the first fails. -/
def andThen (first : Step α) (next : α → Step β) : Step β := fun state =>
  match first state with
  | (.ok value, state) => next value state
  | (.error failure, state) => (.error failure, state)

instance : Monad Step where
  pure value := answer (.ok value)
  bind := andThen

/-- A step that changes the state. -/
def update (change : State → State) :
    Step Unit := fun state => (.ok (), change state)

/-- A value derived from the context under a key: the one that is there, or else
a computed one, which is then kept.  A value of another kind under the key stays
and is not used. -/
def derive (key : String) (take : Derived → Option α) (wrap : α → Derived)
    (compute : Unit → α) : Step α := fun state =>
  match state.memo.find? key with
  | none =>
      let value := compute ()
      (.ok value, { state.record (.derived key) with
        memo := state.memo.insert key (wrap value) })
  | some held =>
      match take held with
      | some value => (.ok value, state)
      | none => (.ok (compute ()), state.record (.derived key))

end Step

end TaskSieve
