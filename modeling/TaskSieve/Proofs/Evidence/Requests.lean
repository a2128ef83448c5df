import TaskSieve.Proofs.Evidence.Gathering

/-!
# Polls as the predictor sees them

The predictor sees requests and waits, and knows what it answered.  That is
enough to tell how a poll ended: a poll goes on only after a pending answer,
and then it waits first.  So the last request of a poll is the one that was
answered with evidence or a failure, or that was answered as pending without a
wait after it.
-/

namespace TaskSieve

/-- Answers that tell a value or a timeout. -/
def Conclusive {α : Type} : Except Failure α → Prop
  | .ok _ => True
  | .error failure => failure.isTimeout = true

@[simp] theorem conclusive_mapError_ok (evidence : Evidence) :
    Conclusive (Except.mapError Failure.evidence (.ok evidence)) :=
  trivial

@[simp] theorem conclusive_mapError_error (error : EvidenceError) :
    Conclusive (Except.mapError Failure.evidence
      (.error error : Except EvidenceError Evidence)) ↔
      (Failure.evidence error).isTimeout = true :=
  Iff.rfl

theorem Remembered.conclusive_iff {outcome : Except EvidenceError Evidence} :
    Conclusive (outcome.mapError .evidence) ↔
      ∃ value, ofOutcome outcome = .ok value := by
  cases outcome with
  | ok evidence => simp [ofOutcome]
  | error error =>
      cases error with
      | timeout branch revision elapsed =>
          simp [ofOutcome, Failure.isTimeout]
      | http url status detail =>
          simp [ofOutcome, Failure.isTimeout]
      | decode url detail => simp [ofOutcome, Failure.isTimeout]

/-- A member of two lists in a row is in one of them. -/
theorem split_append {α : Type} {front back later between : List α} {member : α}
    (split : front ++ back = later ++ member :: between) :
    (∃ follows, later = front ++ follows ∧
      back = follows ++ member :: between) ∨
      ∃ rest, front = later ++ member :: rest ∧ between = rest ++ back := by
  rcases List.append_eq_append_iff.mp split with ⟨follows, inBack, rest⟩
    | ⟨ahead, inFront, rest⟩
  · exact .inl ⟨follows, inBack, rest⟩
  · rcases List.cons_eq_append_iff.mp rest with
      ⟨rfl, sameBack⟩ | ⟨others, rfl, sameBetween⟩
    · exact .inl ⟨[], by simpa using inFront.symm, sameBack⟩
    · exact .inr ⟨others, inFront, sameBetween⟩

theorem split_append_pair {α : Type} {front later between : List α}
    {first second member : α}
    (split : front ++ [second, first] = later ++ member :: between) :
    (member = first ∧ between = [] ∧ later = front ++ [second]) ∨
      (member = second ∧ between = [first] ∧ later = front) ∨
      ∃ rest, between = rest ++ [second, first] ∧
        front = later ++ member :: rest := by
  rcases split_append split with ⟨follows, rfl, ends⟩
    | ⟨rest, inFront, sameBetween⟩
  · match follows with
    | [] =>
        cases ends
        exact .inr (.inl ⟨rfl, rfl, by simp⟩)
    | [_] =>
        cases ends
        exact .inl ⟨rfl, rfl, rfl⟩
    | _ :: _ :: _ => simp at ends
  · exact .inr (.inr ⟨rest, sameBetween, inFront⟩)

namespace Environment

/-- A request, between the events before and after it, was the last of a poll
that ended in evidence or a timeout: it was answered with one of these, or that
the results are pending, and the next event is no wait. -/
def Concludes (environment : Environment) (branch revision : String)
    (earlier later : List Event) : Prop :=
  match (environment.fetch earlier branch revision).1 with
  | .ok (.ready _) => True
  | .ok .pending => ∀ duration, later.getLast? ≠ some (.slept duration)
  | .error error => (Failure.evidence error).isTimeout = true

/-- The predictor answered with evidence about a revision after the events of
`before`, as part of the history `after`. -/
def Received (environment : Environment) (branch revision : String)
    (evidence : Evidence) (before after : List Event) : Prop :=
  ∃ later between,
    after = later ++ .fetched branch revision :: (between ++ before) ∧
    (environment.fetch (between ++ before) branch revision).1 =
      .ok (.ready evidence)

/-- A poll that starts after a history adds these events to it and has this
outcome. -/
inductive Polled (environment : Environment) (branch revision : String) :
    List Event → List Event → Except EvidenceError Evidence → Prop where
  | ready {history : List Event} {evidence : Evidence}
      (reply : (environment.fetch history branch revision).1 =
        .ok (.ready evidence)) :
      Polled environment branch revision history [.fetched branch revision]
        (.ok evidence)
  | failed {history : List Event} {error : EvidenceError}
      (reply : (environment.fetch history branch revision).1 = .error error) :
      Polled environment branch revision history [.fetched branch revision]
        (.error error)
  | late {history : List Event} (elapsed : Nat)
      (reply : (environment.fetch history branch revision).1 = .ok .pending) :
      Polled environment branch revision history [.fetched branch revision]
        (.error (.timeout branch revision elapsed))
  | again {history added : List Event} {outcome : Except EvidenceError Evidence}
      (duration : Nat)
      (reply : (environment.fetch history branch revision).1 = .ok .pending)
      (rest : Polled environment branch revision
        (.slept duration :: .fetched branch revision :: history) added
          outcome) :
      Polled environment branch revision history
        (added ++ [.slept duration, .fetched branch revision]) outcome

variable {environment : Environment} {branch revision : String}

theorem Received.mono {evidence : Evidence}
    {before after earlier later : List Event}
    (received : environment.Received branch revision evidence before after)
    (start : earlier <:+ before) (finish : after <:+ later) :
    environment.Received branch revision evidence earlier later := by
  obtain ⟨older, rfl⟩ := start
  obtain ⟨newer, rfl⟩ := finish
  obtain ⟨follows, between, rfl, reply⟩ := received
  exact ⟨newer ++ follows, between ++ older, by simp, by simpa using reply⟩

/-- Events after a request, other than the very next one, do not bear on whether
it concludes. -/
theorem Concludes.of_append {earlier later added : List Event}
    (concludes :
      environment.Concludes branch revision earlier (added ++ later)) :
    environment.Concludes branch revision earlier later := by
  unfold Concludes at concludes ⊢
  split at concludes
  · trivial
  · intro duration follows
    apply concludes duration
    rw [List.getLast?_append, follows]
    rfl
  · exact concludes

/-- Only whether a wait follows bears on whether a request concludes. -/
theorem concludes_iff_of_no_wait {earlier later : List Event}
    (noWait : ∀ duration, later.getLast? ≠ some (.slept duration)) :
    environment.Concludes branch revision earlier later ↔
      environment.Concludes branch revision earlier [] := by
  unfold Concludes
  split
  · exact Iff.rfl
  · exact iff_of_true noWait nofun
  · exact Iff.rfl

namespace Polled

variable {history added : List Event} {outcome : Except EvidenceError Evidence}

theorem eq_fetched_or_slept
    (polled : environment.Polled branch revision history added outcome)
    {event : Event} (member : event ∈ added) :
    event = .fetched branch revision ∨ ∃ duration, event = .slept duration := by
  induction polled with
  | ready reply => exact .inl (List.mem_singleton.mp member)
  | failed reply => exact .inl (List.mem_singleton.mp member)
  | late elapsed reply => exact .inl (List.mem_singleton.mp member)
  | again duration reply rest induction =>
      simp only [List.mem_append, List.mem_cons, List.not_mem_nil, or_false]
          at member
      rcases member with later | rfl | rfl
      · exact induction later
      · exact .inr ⟨duration, rfl⟩
      · exact .inl rfl

theorem exists_last
    (polled : environment.Polled branch revision history added outcome) :
    ∃ between, added = .fetched branch revision :: between := by
  induction polled with
  | ready reply => exact ⟨[], rfl⟩
  | failed reply => exact ⟨[], rfl⟩
  | late elapsed reply => exact ⟨[], rfl⟩
  | again duration reply rest induction =>
      obtain ⟨between, rfl⟩ := induction
      exact ⟨_, rfl⟩

theorem getLast?_eq
    (polled : environment.Polled branch revision history added outcome) :
    added.getLast? = some (.fetched branch revision) := by
  cases polled with
  | ready reply => rfl
  | failed reply => rfl
  | late elapsed reply => rfl
  | again duration reply rest => simp

/-- A request of a poll concludes exactly when it is the last one and the poll
ended in evidence or a timeout. -/
theorem concludes_iff
    (polled : environment.Polled branch revision history added outcome)
    {later between : List Event}
    (split : added = later ++ .fetched branch revision :: between) :
    environment.Concludes branch revision (between ++ history) later ↔
      later = [] ∧ Conclusive (outcome.mapError .evidence) := by
  induction polled generalizing between with
  | ready reply =>
      obtain ⟨rfl, rfl⟩ : later = [] ∧ between = [] := by
        cases later <;> simp_all
      simp [Concludes, reply]
  | failed reply =>
      obtain ⟨rfl, rfl⟩ : later = [] ∧ between = [] := by
        cases later <;> simp_all
      simp [Concludes, reply]
  | late elapsed reply =>
      obtain ⟨rfl, rfl⟩ : later = [] ∧ between = [] := by
        cases later <;> simp_all
      simp [Concludes, reply, Failure.isTimeout]
  | @again history added outcome duration reply rest induction =>
      -- The request is the first one of the poll, or it belongs to the rest of
      -- it.
      rcases split_append_pair split with ⟨_, rfl, rfl⟩ | ⟨clash, _⟩
        | ⟨front, rfl, sameAdded⟩
      · simp [Concludes, reply]
      · cases clash
      · simpa using induction sameAdded

/-- Evidence that a poll ends with was received during the poll. -/
theorem received {evidence : Evidence}
    (polled : environment.Polled branch revision history added (.ok evidence)) :
    environment.Received branch revision evidence history
      (added ++ history) := by
  generalize ended : Except.ok evidence = outcome at polled
  induction polled with
  | ready reply =>
      cases ended
      exact ⟨[], [], rfl, reply⟩
  | failed reply => cases ended
  | late elapsed reply => cases ended
  | again duration reply rest induction =>
      apply (induction ended).mono
      · exact ⟨[.slept duration, .fetched branch revision], rfl⟩
      · simp

end Polled

end Environment

namespace Client

variable {client : Client} {branch revision : String}

theorem pollFrom_polled (start : Nat) (state : State) :
    ∃ added, (client.pollFrom branch revision start state).2.history =
      added ++ state.history ∧
      client.environment.Polled branch revision state.history added
        (client.pollFrom branch revision start state).1 := by
  fun_induction pollFrom client branch revision start state with
  | case1 state error after answered =>
      rw [ask_eq, Prod.mk.injEq] at answered
      obtain ⟨reply, rfl⟩ := answered
      exact ⟨_, rfl, .failed reply⟩
  | case2 state evidence after answered =>
      rw [ask_eq, Prod.mk.injEq] at answered
      obtain ⟨reply, rfl⟩ := answered
      exact ⟨_, rfl, .ready reply⟩
  | case3 state after answered inTime induction =>
      rw [ask_eq, Prod.mk.injEq] at answered
      obtain ⟨reply, rfl⟩ := answered
      obtain ⟨added, grown, polled⟩ := induction
      refine ⟨added ++
        [.slept client.polling.interval, .fetched branch revision], ?_, ?_⟩
      · rw [grown]
        simp [State.sleep, State.record, State.advance, asked]
      · exact .again client.polling.interval reply polled
  | case4 state after answered late =>
      rw [ask_eq, Prod.mk.injEq] at answered
      obtain ⟨reply, rfl⟩ := answered
      exact ⟨_, rfl, .late _ reply⟩

theorem poll_polled (client : Client) (branch revision : String)
    (state : State) :
    ∃ added, (client.poll branch revision state).2.history =
      added ++ state.history ∧
      client.environment.Polled branch revision state.history added
        (client.poll branch revision state).1 :=
  pollFrom_polled state.now state

end Client

end TaskSieve
