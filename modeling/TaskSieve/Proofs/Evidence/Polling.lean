import TaskSieve.Client
import TaskSieve.Proofs.Step

/-!
# What polling does and what it depends on

Polling asks, waits and lets time pass; it touches nothing else.  What it
answers depends on the replies alone: with a constant reply the answer is that
reply or a timeout, and with replies that depend on how often a revision was
asked about, the answer depends on that number only.
-/

namespace TaskSieve

/-- How often the predictor was asked about a revision of a branch. -/
def State.fetches (state : State) (branch revision : String) : Nat :=
  state.history.count (.fetched branch revision)

/-- What the same question is answered every time, however long that takes. -/
def Environment.AnswersAlways (environment : Environment)
    (replies : (branch revision : String) → Except EvidenceError Reply) :
    Prop :=
  ∀ history branch revision,
    (environment.fetch history branch revision).1 = replies branch revision

/-- Replies and their durations that depend only on how often the revision was
asked about. -/
def Environment.FollowsScript (environment : Environment)
    (script : (branch revision : String) → Nat →
      Except EvidenceError Reply × Nat) : Prop :=
  ∀ history branch revision,
    environment.fetch history branch revision =
      script branch revision (history.count (.fetched branch revision))

/-- A push log whose answers never change. -/
def Environment.HasFixedLog (environment : Environment)
    (log : (repository : String) → (first last : Int) →
      Except PushLogError PushLog) : Prop :=
  ∀ history, environment.pushes history = log

namespace Client

variable {client : Client} {branch revision : String}

/-- The state after asking once. -/
def asked (client : Client) (branch revision : String) (state : State) :
    State :=
  (state.record (.fetched branch revision)).advance
    (client.environment.fetch state.history branch revision).2

theorem ask_eq (client : Client) (branch revision : String) (state : State) :
    client.ask branch revision state =
      ((client.environment.fetch state.history branch revision).1,
        client.asked branch revision state) := rfl

theorem pollFrom_ready {state : State} {evidence : Evidence} (start : Nat)
    (reply : (client.environment.fetch state.history branch revision).1 =
      .ok (.ready evidence)) :
    client.pollFrom branch revision start state =
      (.ok evidence, client.asked branch revision state) := by
  have answered := client.ask_eq branch revision state
  rw [reply] at answered
  rw [pollFrom]
  split <;> simp_all

theorem pollFrom_failed {state : State} {error : EvidenceError} (start : Nat)
    (reply : (client.environment.fetch state.history branch revision).1 =
      .error error) :
    client.pollFrom branch revision start state =
      (.error error, client.asked branch revision state) := by
  have answered := client.ask_eq branch revision state
  rw [reply] at answered
  rw [pollFrom]
  split <;> simp_all

theorem pollFrom_pending {state : State} (start : Nat)
    (reply : (client.environment.fetch state.history branch revision).1 =
      .ok .pending) :
    client.pollFrom branch revision start state =
      let after := client.asked branch revision state
      if after.now - start + client.polling.interval ≤
        client.polling.limit branch then
        client.pollFrom branch revision start
          (after.sleep client.polling.interval)
      else (.error (.timeout branch revision (after.now - start)), after) := by
  have answered := client.ask_eq branch revision state
  rw [reply] at answered
  rw [pollFrom]
  split <;> simp_all

/-- An invariant that asking and waiting keep is kept by polling. -/
theorem pollFrom_keeps (invariant : State → Prop)
    (kept :
      ∀ state, invariant state → invariant (client.asked branch revision state))
    (waited : ∀ state,
      invariant state → invariant (state.sleep client.polling.interval))
    (start : Nat) (state : State) (holds : invariant state) :
    invariant (client.pollFrom branch revision start state).2 := by
  have keptAsking : ∀ {state reply after}, invariant state →
      client.ask branch revision state = (reply, after) → invariant after := by
    intro state reply after holds answered
    rw [ask_eq, Prod.mk.injEq] at answered
    rw [← answered.2]
    exact kept state holds
  fun_induction pollFrom client branch revision start state with
  | case1 state error after answered => exact keptAsking holds answered
  | case2 state evidence after answered => exact keptAsking holds answered
  | case3 state after answered inTime induction =>
      exact induction (waited after (keptAsking holds answered))
  | case4 state after answered late => exact keptAsking holds answered

theorem poll_keeps (invariant : State → Prop)
    (kept :
      ∀ state, invariant state → invariant (client.asked branch revision state))
    (waited : ∀ state,
      invariant state → invariant (state.sleep client.polling.interval))
    (state : State) (holds : invariant state) :
    invariant (client.poll branch revision state).2 :=
  pollFrom_keeps invariant kept waited state.now state holds

theorem poll_cache (client : Client) (branch revision : String)
    (state : State) :
    (client.poll branch revision state).2.cache = state.cache :=
  poll_keeps (fun after => after.cache = state.cache)
    (fun _ same => same) (fun _ same => same) state rfl

theorem poll_memo (client : Client) (branch revision : String) (state : State) :
    (client.poll branch revision state).2.memo = state.memo :=
  poll_keeps (fun after => after.memo = state.memo)
    (fun _ same => same) (fun _ same => same) state rfl

/-- Polling one revision asks about no other. -/
theorem poll_fetches_of_ne (client : Client)
    {branch revision otherBranch other : String}
    (different : ¬(otherBranch = branch ∧ other = revision)) (state : State) :
    (client.poll branch revision state).2.fetches otherBranch other =
      state.fetches otherBranch other := by
  have distinct : ¬(branch = otherBranch ∧ revision = other) := by
    rintro ⟨rfl, rfl⟩
    exact different ⟨rfl, rfl⟩
  apply poll_keeps (fun after =>
    after.fetches otherBranch other = state.fetches otherBranch other)
  · intro after same
    rw [← same]
    simp [State.fetches, asked, State.record, State.advance, distinct]
  · intro after same
    rw [← same]
    simp [State.fetches, State.sleep, State.record, State.advance]
  · rfl

section Constant

variable {replies : (branch revision : String) → Except EvidenceError Reply}

theorem poll_always_ready (constant : client.environment.AnswersAlways replies)
    {evidence : Evidence}
    (ready : replies branch revision = .ok (.ready evidence)) (state : State) :
    (client.poll branch revision state).1 = .ok evidence := by
  have reply := (constant state.history branch revision).trans ready
  rw [poll, pollFrom_ready state.now reply]

theorem poll_always_failed (constant : client.environment.AnswersAlways replies)
    {error : EvidenceError} (failed : replies branch revision = .error error)
    (state : State) :
    (client.poll branch revision state).1 = .error error := by
  have reply := (constant state.history branch revision).trans failed
  rw [poll, pollFrom_failed state.now reply]

theorem pollFrom_always_pending
    (constant : client.environment.AnswersAlways replies)
    (pending : replies branch revision = .ok .pending) (start : Nat)
    (state : State) :
    ∃ elapsed, (client.pollFrom branch revision start state).1 =
      .error (.timeout branch revision elapsed) := by
  fun_induction pollFrom client branch revision start state with
  | case1 state error after answered =>
      rw [ask_eq, Prod.mk.injEq, constant, pending] at answered
      simp at answered
  | case2 state evidence after answered =>
      rw [ask_eq, Prod.mk.injEq, constant, pending] at answered
      simp at answered
  | case3 state after answered inTime induction => exact induction
  | case4 state after answered late => exact ⟨_, rfl⟩

end Constant

section Script

variable
  {script : (branch revision : String) → Nat → Except EvidenceError Reply × Nat}

theorem fetches_sleep (state : State) (duration : Nat) :
    (state.sleep duration).fetches branch revision =
      state.fetches branch revision := by
  simp [State.fetches, State.sleep, State.record, State.advance]

theorem fetches_asked (client : Client) (state : State) :
    (client.asked branch revision state).fetches branch revision =
      state.fetches branch revision + 1 := by
  simp [State.fetches, asked, State.record, State.advance]

/-- After as many questions the next one is answered alike. -/
theorem fetch_scripted (scripted : client.environment.FollowsScript script)
    {state otherState : State}
    (sameFetches :
      state.fetches branch revision = otherState.fetches branch revision) :
    client.environment.fetch otherState.history branch revision =
      client.environment.fetch state.history branch revision := by
  rw [scripted, scripted]
  exact congrArg (script branch revision) sameFetches.symm

theorem elapsed_asked {start other : Nat} {state otherState : State}
    (started : start ≤ state.now) (otherStarted : other ≤ otherState.now)
    (sameElapsed : state.now - start = otherState.now - other)
    (sameFetch : client.environment.fetch otherState.history branch revision =
      client.environment.fetch state.history branch revision) :
    (client.asked branch revision state).now - start =
      (client.asked branch revision otherState).now - other := by
  simp only [asked, State.record, State.advance, sameFetch]
  omega

theorem now_sleep (state : State) (duration : Nat) :
    (state.sleep duration).now = state.now + duration := rfl

theorem now_le_asked (client : Client) (branch revision : String)
    (state : State) :
    state.now ≤ (client.asked branch revision state).now :=
  Nat.le_add_right _ _

/-- Two polls that have asked as often and waited as long from now on go
alike. -/
theorem pollFrom_scripted (scripted : client.environment.FollowsScript script)
    (start other : Nat) (state otherState : State)
    (started : start ≤ state.now) (otherStarted : other ≤ otherState.now)
    (sameElapsed : state.now - start = otherState.now - other)
    (sameFetches :
      state.fetches branch revision = otherState.fetches branch revision) :
    (client.pollFrom branch revision start state).1 =
      (client.pollFrom branch revision other otherState).1 := by
  fun_induction pollFrom client branch revision start state
    generalizing otherState with
  | case1 state error after answered =>
      have reply := fetch_scripted scripted sameFetches
      rw [ask_eq, Prod.mk.injEq, ← reply] at answered
      rw [pollFrom_failed other answered.1]
  | case2 state evidence after answered =>
      have reply := fetch_scripted scripted sameFetches
      rw [ask_eq, Prod.mk.injEq, ← reply] at answered
      rw [pollFrom_ready other answered.1]
  | case3 state after answered inTime induction =>
      have reply := fetch_scripted scripted sameFetches
      rw [ask_eq, Prod.mk.injEq] at answered
      have otherPending := answered.1
      rw [← reply] at otherPending
      have sameDuration := elapsed_asked started otherStarted sameElapsed reply
      rw [answered.2] at sameDuration
      rw [pollFrom_pending other otherPending]
      simp only [← sameDuration, if_pos inTime]
      have asking : state.now ≤ after.now :=
        answered.2 ▸ client.now_le_asked branch revision state
      have otherAsking := client.now_le_asked branch revision otherState
      apply induction
      · rw [now_sleep]
        omega
      · rw [now_sleep]
        omega
      · rw [now_sleep, now_sleep]
        omega
      · rw [fetches_sleep, fetches_sleep, fetches_asked, ← answered.2,
          fetches_asked, sameFetches]
  | case4 state after answered late =>
      have reply := fetch_scripted scripted sameFetches
      rw [ask_eq, Prod.mk.injEq] at answered
      have otherPending := answered.1
      rw [← reply] at otherPending
      have sameDuration := elapsed_asked started otherStarted sameElapsed reply
      rw [answered.2] at sameDuration
      rw [pollFrom_pending other otherPending]
      simp only [← sameDuration, if_neg late]

theorem poll_scripted (scripted : client.environment.FollowsScript script)
    {state otherState : State}
    (sameFetches :
      state.fetches branch revision = otherState.fetches branch revision) :
    (client.poll branch revision state).1 =
      (client.poll branch revision otherState).1 :=
  pollFrom_scripted scripted state.now otherState.now state otherState
    (Nat.le_refl _) (Nat.le_refl _) (by simp) sameFetches

end Script

end Client

end TaskSieve
