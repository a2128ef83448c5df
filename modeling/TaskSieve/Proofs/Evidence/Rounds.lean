import Mathlib.Algebra.Order.Field.Power
import Mathlib.Logic.Function.Iterate
import TaskSieve.Proofs.Evidence.Polling

/-!
# The rounds of a poll

A poll goes on in rounds.  In each round the predictor is asked once; the poll
goes on to another one if the answer is that the push is pending and the limit
leaves room for the interval, which is then waited for.  The last round decides
what the poll answers.  Every wait takes its interval off the limit, so there
are no more of them than intervals fit into it.
-/

namespace TaskSieve.Client

variable {client : Client} {branch revision : String}

/-- What the predictor answers about a revision in a state. -/
def reply (client : Client) (branch revision : String) (state : State) :
    Except EvidenceError Reply :=
  (client.environment.fetch state.history branch revision).1

/-- The state after a round with another one to come. -/
def again (client : Client) (branch revision : String) (state : State) :
    State :=
  (client.asked branch revision state).sleep client.polling.interval

/-- The state in which a round begins after so many others. -/
def round (client : Client) (branch revision : String) (state : State)
    (count : Nat) : State :=
  (client.again branch revision)^[count] state

/-- The time from the start of a poll to the answer of a round that begins in a
state. -/
def elapsed (client : Client) (branch revision : String) (start : Nat)
    (state : State) : Nat :=
  (client.asked branch revision state).now - start

/-- Whether a poll goes on after a round that begins in a state. -/
def GoesOn (client : Client) (branch revision : String) (start : Nat)
    (state : State) : Prop :=
  client.reply branch revision state = .ok .pending ∧
    client.elapsed branch revision start state + client.polling.interval ≤
      client.polling.limit branch

/-- What a poll answers whose last round begins in a state. -/
def ending (client : Client) (branch revision : String) (start : Nat)
    (state : State) :
    Except EvidenceError Evidence :=
  match client.reply branch revision state with
  | .ok (.ready evidence) => .ok evidence
  | .ok .pending =>
      .error
        (.timeout branch revision (client.elapsed branch revision start state))
  | .error error => .error error

@[simp] theorem round_zero (state : State) :
    client.round branch revision state 0 = state := rfl

theorem round_succ (state : State) (count : Nat) :
    client.round branch revision state (count + 1) =
      client.again branch revision (client.round branch revision state count) :=
  Function.iterate_succ_apply' _ _ _

theorem round_again (state : State) (count : Nat) :
    client.round branch revision (client.again branch revision state) count =
      client.round branch revision state (count + 1) :=
  (Function.iterate_succ_apply _ _ _).symm

/-- A poll has as many rounds as go on, and one more. -/
theorem pollFrom_rounds (client : Client) (branch revision : String)
    (start : Nat) (state : State) :
    ∃ count,
      (∀ earlier < count, client.GoesOn branch revision start
        (client.round branch revision state earlier)) ∧
      ¬client.GoesOn branch revision start
        (client.round branch revision state count) ∧
      client.pollFrom branch revision start state =
        (client.ending branch revision start
          (client.round branch revision state count),
          client.asked branch revision
            (client.round branch revision state count)) := by
  fun_induction pollFrom client branch revision start state with
  | case1 state error after answered =>
      rw [ask_eq, Prod.mk.injEq] at answered
      obtain ⟨failed, rfl⟩ := answered
      refine ⟨0, fun _ less => absurd less (Nat.not_lt_zero _), ?_, ?_⟩
      · simp [GoesOn, reply, failed]
      · simp [ending, reply, failed]
  | case2 state evidence after answered =>
      rw [ask_eq, Prod.mk.injEq] at answered
      obtain ⟨ready, rfl⟩ := answered
      refine ⟨0, fun _ less => absurd less (Nat.not_lt_zero _), ?_, ?_⟩
      · simp [GoesOn, reply, ready]
      · simp [ending, reply, ready]
  | case3 state after answered inTime induction =>
      rw [ask_eq, Prod.mk.injEq] at answered
      obtain ⟨pending, rfl⟩ := answered
      obtain ⟨count, goesOn, stops, polled⟩ := induction
      have next :
          (client.asked branch revision state).sleep client.polling.interval =
          client.again branch revision state := rfl
      rw [next] at goesOn stops polled
      simp only [round_again] at goesOn stops polled
      refine ⟨count + 1, ?_, stops, polled⟩
      intro earlier less
      cases earlier with
      | zero => exact ⟨pending, inTime⟩
      | succ before => exact goesOn before (by omega)
  | case4 state after answered late =>
      rw [ask_eq, Prod.mk.injEq] at answered
      obtain ⟨pending, rfl⟩ := answered
      refine ⟨0, fun _ less => absurd less (Nat.not_lt_zero _), ?_, ?_⟩
      · rintro ⟨_, inTime⟩
        exact late inTime
      · simp [ending, reply, elapsed, pending]

/-- The requests and the waits of so many rounds with another one to come. -/
def roundEvents (client : Client) (branch revision : String) (count : Nat) :
    List Event :=
  (List.replicate
    count [.slept client.polling.interval, .fetched branch revision]).flatten

theorem round_history (state : State) (count : Nat) :
    (client.round branch revision state count).history =
      client.roundEvents branch revision count ++ state.history := by
  induction count with
  | zero => rfl
  | succ count induction =>
      have grown : (client.round branch revision state (count + 1)).history =
          [.slept client.polling.interval, .fetched branch revision] ++
            (client.round branch revision state count).history := by
        rw [round_succ]
        rfl
      rw [grown, induction, roundEvents, roundEvents, List.replicate_succ,
        List.flatten_cons, List.append_assoc]

theorem round_fetches (client : Client) (branch revision : String)
    (state : State) (count : Nat) :
    (client.round branch revision state count).fetches branch revision =
      state.fetches branch revision + count := by
  induction count with
  | zero => rfl
  | succ count induction =>
      rw [round_succ, again, fetches_sleep, fetches_asked, induction,
        Nat.add_assoc]

theorem now_round (client : Client) (branch revision : String) (state : State)
    (count : Nat) :
    state.now + count * client.polling.interval ≤
      (client.round branch revision state count).now := by
  induction count with
  | zero => simp
  | succ count induction =>
      have asking := client.now_le_asked branch revision
        (client.round branch revision state count)
      rw [round_succ, again, now_sleep, Nat.succ_mul]
      omega

/-- Up to an answer each round so far took the time of its answer, and all but
the last the interval as well. -/
theorem now_asked_round (client : Client) (branch revision : String)
    (state : State) (count : Nat) :
    (client.asked branch revision
      (client.round branch revision state count)).now =
      state.now + (count * client.polling.interval +
        ((List.range (count + 1)).map fun earlier =>
          (client.environment.fetch
            (client.round branch revision state earlier).history
            branch revision).2).sum) := by
  have step : ∀ before, (client.asked branch revision before).now =
      before.now +
        (client.environment.fetch before.history branch revision).2 :=
    fun _ => rfl
  induction count with
  | zero => simp [step]
  | succ count induction =>
      rw [step, round_succ, again, now_sleep, induction, Nat.succ_mul,
        List.range_succ (n := count + 1), List.map_append, List.sum_append]
      simp only [List.map_cons, List.map_nil, List.sum_cons, List.sum_nil,
        round_succ, again]
      omega

theorem elapsed_round {durations : Nat → Nat}
    (lasts : ∀ history, (client.environment.fetch history branch revision).2 =
      durations (history.count (.fetched branch revision))) (state : State)
    (count : Nat) :
    client.elapsed branch revision state.now
      (client.round branch revision state count) =
      count * client.polling.interval +
        ((List.range (count + 1)).map fun earlier =>
          durations (state.fetches branch revision + earlier)).sum := by
  have counted : ∀ earlier,
      (client.round branch revision state earlier).history.count
        (.fetched branch revision) =
        state.fetches branch revision + earlier :=
    client.round_fetches branch revision state
  simp only [elapsed, now_asked_round, lasts, counted, Nat.add_sub_cancel_left]

/-- The limit has room for all waits of a poll. -/
theorem rounds_le {start count : Nat} {state : State}
    (started : start ≤ state.now)
    (goesOn : ∀ earlier < count, client.GoesOn branch revision start
      (client.round branch revision state earlier)) :
    count ≤ client.polling.limit branch / client.polling.interval := by
  rw [Nat.le_div_iff_mul_le client.polling.positive]
  cases count with
  | zero => simp
  | succ waited =>
      obtain ⟨_, inTime⟩ := goesOn waited (Nat.lt_succ_self waited)
      have waits := client.now_round branch revision state waited
      have asking := client.now_le_asked branch revision
        (client.round branch revision state waited)
      rw [elapsed] at inTime
      rw [Nat.succ_mul]
      omega

end TaskSieve.Client
