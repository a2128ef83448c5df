import TaskSieve.Client

/-!
# Sequences of calls on a client

A client is asked for the evidence of single revisions and of windows of
pushes, and what it remembers may be cleared in between.  An invariant that
every operation of a sequence keeps holds after the whole sequence.
-/

namespace TaskSieve

/-- A question to a client. -/
inductive Call where
  /-- The evidence of one revision of a branch. -/
  | single (branch revision : String)
  /-- The evidence of a window of so many pushes that ends with a push. -/
  | window (push : Push) (pushes : Nat)

/-- What a call answers, and the state that it leaves. -/
def Call.ask (client : Client) (call : Call) : Step Evidence :=
  match call with
  | .single branch revision => client.evidenceOf branch revision
  | .window push pushes => client.evidenceFor push pushes

/-- What may be done with a client. -/
inductive Operation where
  | ask (call : Call)
  /-- Forgets all evidence. -/
  | clear

namespace Operation

/-- The state after an operation. -/
def apply (client : Client) (state : State) : Operation → State
  | .ask call => (call.ask client state).2
  | .clear => { state with cache := ∅ }

/-- The push that an operation asks about a window of. -/
def push? : Operation → Option Push
  | .ask (.window push _) => some push
  | _ => none

/-- The state after a sequence of operations. -/
def run (client : Client) (operations : List Operation) (state : State) :
    State :=
  operations.foldl (apply client) state

theorem run_invariant {client : Client} {invariant : State → Prop}
    (operations : List Operation)
    (kept : ∀ operation ∈ operations, ∀ state, invariant state →
      invariant (operation.apply client state))
    (state : State) (holds : invariant state) :
    invariant (run client operations state) := by
  induction operations generalizing state with
  | nil => exact holds
  | cons operation rest induction =>
      have first := kept operation (by simp) state holds
      exact induction (fun later member => kept later (by simp [member]))
        _ first

end Operation

end TaskSieve
