import TaskSieve.Proofs.Evidence.Spending

/-!
# How long a poll lasts

The replies of the predictor alone decide how a poll goes on.  After each of
them that says pending, the time that has gone by and one more interval are
held against the limit of the branch, which is a third longer for `try`.  The
first reply that says something else, or that comes too late for another
interval, ends the poll.  Requests take time as well, so there may be fewer of
them than intervals fit into the limit, but never more than one above that.
-/

namespace TaskSieve

theorem Polling.limit_eq {polling : Polling} {branch : String}
    (bounded : branch = "try" →
      polling.timeout + polling.timeout / 3 ≤ Duration.longest) :
    polling.limit branch =
      if branch = "try" then polling.timeout + polling.timeout / 3
      else polling.timeout := by
  unfold limit
  split
  · next onTry => exact Nat.min_eq_left (bounded onTry)
  · rfl

namespace Client

variable {client : Client} {branch revision : String}

section Ending

variable {start : Nat} {state : State}

theorem ending_of_ready {evidence : Evidence}
    (ready : client.reply branch revision state = .ok (.ready evidence)) :
    client.ending branch revision start state = .ok evidence := by
  rw [ending, ready]

theorem ending_of_error {error : EvidenceError}
    (failed : client.reply branch revision state = .error error) :
    client.ending branch revision start state = .error error := by
  rw [ending, failed]

theorem ending_of_pending
    (pending : client.reply branch revision state = .ok .pending) :
    client.ending branch revision start state =
      .error (.timeout branch revision
        (client.elapsed branch revision start state)) := by
  rw [ending, pending]

/-- A timeout is what the predictor itself has answered, or else the last answer
was pending. -/
theorem reply_of_ending_timeout {otherBranch other : String} {lasted : Nat}
    (late : client.ending branch revision start state =
      .error (.timeout otherBranch other lasted)) :
    client.reply branch revision state =
      .error (.timeout otherBranch other lasted) ∨
      client.reply branch revision state = .ok .pending ∧
        lasted = client.elapsed branch revision start state := by
  cases replied : client.reply branch revision state with
  | error error =>
      rw [ending_of_error replied] at late
      cases late
      exact .inl rfl
  | ok reply =>
      cases reply with
      | ready evidence =>
          rw [ending_of_ready replied] at late
          cases late
      | pending =>
          rw [ending_of_pending replied] at late
          cases late
          exact .inr ⟨rfl, rfl⟩

end Ending

section Counting

variable {state : State}

theorem sleeps_asked :
    (client.asked branch revision state).sleeps = state.sleeps := by
  simp [State.sleeps, asked, State.record, State.advance]

theorem sleeps_again :
    (client.again branch revision state).sleeps = state.sleeps + 1 := by
  simp [State.sleeps, again, asked, State.sleep, State.record, State.advance]

theorem sleeps_round (client : Client) (branch revision : String)
    (state : State) (count : Nat) :
    (client.round branch revision state count).sleeps =
      state.sleeps + count := by
  induction count with
  | zero => rfl
  | succ count induction =>
      rw [round_succ, sleeps_again, induction, Nat.add_assoc]

end Counting

/-- The rounds before the last one are those up to which all go on. -/
theorem lt_last_iff {goesOn : Nat → Prop} {last : Nat}
    (before : ∀ earlier < last, goesOn earlier) (stops : ¬goesOn last)
    (round : Nat) : round < last ↔ ∀ earlier ≤ round, goesOn earlier := by
  constructor
  · intro less earlier upTo
    exact before earlier (Nat.lt_of_le_of_lt upTo less)
  · intro all
    by_contra passed
    exact stops (all last (Nat.le_of_not_lt passed))

/-- What the predictor answers to a poll that begins in a state after so many
requests and waits, and how long that takes. -/
def answerAfter (client : Client) (branch revision : String) (state : State)
    (requests : Nat) : Except EvidenceError Reply × Nat :=
  client.environment.fetch
    (client.roundEvents branch revision requests ++ state.history) branch
    revision

theorem fetch_round (client : Client) (branch revision : String) (state : State)
    (count : Nat) :
    client.environment.fetch (client.round branch revision state count).history
      branch revision =
      client.answerAfter branch revision state count := by
  rw [round_history, answerAfter]

theorem reply_round (client : Client) (branch revision : String) (state : State)
    (count : Nat) :
    client.reply branch revision (client.round branch revision state count) =
      (client.answerAfter branch revision state count).1 :=
  congrArg Prod.fst (client.fetch_round branch revision state count)

theorem now_at_answer (client : Client) (branch revision : String)
    (state : State) (request : Nat) :
    (client.asked branch revision
      (client.round branch revision state request)).now =
      state.now + (request * client.polling.interval +
        ((List.range (request + 1)).map fun earlier =>
          (client.answerAfter branch revision state earlier).2).sum) := by
  rw [now_asked_round]
  simp only [fetch_round]

theorem elapsed_at_answer (client : Client) (branch revision : String)
    (state : State) (request : Nat) :
    client.elapsed branch revision state.now
      (client.round branch revision state request) =
      request * client.polling.interval +
        ((List.range (request + 1)).map fun earlier =>
          (client.answerAfter branch revision state earlier).2).sum := by
  rw [Client.elapsed, now_at_answer, Nat.add_sub_cancel_left]

/-- The replies decide which request of a poll is the last one: the first that
is not answered as pending, or so late that the limit has no room for another
interval.  Its answer is that of the poll, or else the poll times out with the
time that has gone by.  So a poll

* makes one request more than it waits, and waits as often as intervals fit into
  the limit at most;
* waits no longer than the limit in all;
* times out only when another interval would exceed the limit, unless the
  predictor itself answers with a timeout;
* answers with evidence as soon as it has received it. -/
theorem poll_decided_by_replies (client : Client) (branch revision : String)
    (state : State) (bounded : branch = "try" →
      client.polling.timeout + client.polling.timeout / 3 ≤ Duration.longest) :
    let interval := client.polling.interval
    let limit := if branch = "try" then
      client.polling.timeout + client.polling.timeout / 3
      else client.polling.timeout
    let reply (request : Nat) :=
      (client.answerAfter branch revision state request).1
    let elapsed (request : Nat) := request * interval +
      ((List.range (request + 1)).map fun earlier =>
        (client.answerAfter branch revision state earlier).2).sum
    let polled := client.poll branch revision state
    ∃ last,
      (∀ request, request < last ↔ ∀ earlier ≤ request,
        reply earlier = .ok .pending ∧ elapsed earlier + interval ≤ limit) ∧
      (∀ evidence, reply last = .ok (.ready evidence) →
        polled.1 = .ok evidence) ∧
      (∀ error, reply last = .error error → polled.1 = .error error) ∧
      (reply last = .ok .pending → limit < elapsed last + interval ∧
        polled.1 = .error (.timeout branch revision (elapsed last))) ∧
      polled.2.history =
        .fetched branch revision :: client.roundEvents branch revision last ++
          state.history ∧
      polled.2.now = state.now + elapsed last ∧
      polled.2.fetches branch revision = state.fetches branch revision +
        (last + 1) ∧
      polled.2.sleeps = state.sleeps + last ∧
      last ≤ limit / interval ∧
      Event.waiting (client.roundEvents branch revision last) ≤ limit ∧
      (∀ otherBranch other lasted, polled.1 =
        .error (.timeout otherBranch other lasted) →
        reply last = .error (.timeout otherBranch other lasted) ∨
          lasted = elapsed last ∧ limit < lasted + interval) ∧
      ∀ request ≤ last, ∀ evidence, reply request = .ok (.ready evidence) →
        polled.1 = .ok evidence := by
  intro interval limit reply elapsed polled
  obtain ⟨last, goesOn, stops, ended⟩ :=
    client.pollFrom_rounds branch revision state.now state
  have limited : client.polling.limit branch = limit := Polling.limit_eq bounded
  have few : last ≤ limit / interval :=
    limited ▸ rounds_le (Nat.le_refl _) goesOn
  have replied : ∀ request,
      client.reply branch revision
        (client.round branch revision state request) =
        reply request := client.reply_round branch revision state
  have timed : ∀ request,
      client.elapsed branch revision state.now
        (client.round branch revision state request) =
        elapsed request := client.elapsed_at_answer branch revision state
  simp only [GoesOn, replied, timed, limited] at goesOn stops
  have late : reply last = .ok .pending → limit < elapsed last + interval :=
    fun pending => Nat.lt_of_not_le fun inTime => stops ⟨pending, inTime⟩
  have answer : polled.1 = client.ending branch revision state.now
      (client.round branch revision state last) := congrArg Prod.fst ended
  have after : polled.2 = client.asked branch revision
      (client.round branch revision state last) := congrArg Prod.snd ended
  have answersReady : ∀ evidence, reply last = .ok (.ready evidence) →
      polled.1 = .ok evidence :=
    fun evidence ready =>
      answer.trans (ending_of_ready ((replied last).trans ready))
  refine ⟨last, lt_last_iff goesOn stops, answersReady, ?_, ?_, ?_, ?_,
    ?_, ?_, few, ?_, ?_, ?_⟩
  · intro error failed
    exact answer.trans (ending_of_error ((replied last).trans failed))
  · intro pending
    refine ⟨late pending, ?_⟩
    rw [answer, ending_of_pending ((replied last).trans pending), timed]
  · rw [after, List.cons_append, ← round_history]
    rfl
  · rw [after]
    exact client.now_at_answer branch revision state last
  · rw [after, fetches_asked, round_fetches, Nat.add_assoc]
  · rw [after, sleeps_asked, sleeps_round]
  · rw [waiting_roundEvents]
    exact (Nat.le_div_iff_mul_le client.polling.positive).mp few
  · intro otherBranch other lasted timedOut
    have ending := reply_of_ending_timeout (answer.symm.trans timedOut)
    rw [replied, timed] at ending
    apply ending.imp_right
    rintro ⟨pending, rfl⟩
    exact ⟨rfl, late pending⟩
  · intro request upTo evidence ready
    rcases Nat.lt_or_eq_of_le upTo with less | rfl
    · rw [(goesOn request less).1] at ready
      cases ready
    · exact answersReady evidence ready

/-- A predictor that is never ready and answers at once. -/
def pendingClient : Client where
  environment := {
    fetch := fun _ _ _ => (.ok .pending, 0)
    pushes := fun _ _ _ _ => .ok ∅ }
  polling := { interval := 2, timeout := 5, positive := Nat.two_pos }

/-- On `try` the limit of 5 becomes 6, so that the request after 4 is followed
by one more, exactly at the limit, and the poll ends with that. -/
theorem poll_decided_by_replies_at_limit :
    ("try" = "try" → 5 + 5 / 3 ≤ Duration.longest) ∧
      (pendingClient.poll "try" "abc" {}).1 = .error (.timeout "try" "abc" 6) ∧
      (pendingClient.poll "try" "abc" {}).2.fetches "try" "abc" = 4 := by
  have bounded : "try" = "try" → 5 + 5 / 3 ≤ Duration.longest := by decide
  obtain ⟨last, ongoing, -, -, timeout, -, -, requests, -⟩ :=
    poll_decided_by_replies pendingClient "try" "abc" {} bounded
  have third : last = 3 := by
    have more : 2 < last := by
      rw [ongoing]
      intro earlier upTo
      obtain rfl | rfl | rfl : earlier = 0 ∨ earlier = 1 ∨ earlier = 2 := by
        omega
      all_goals decide
    have fewer : ¬3 < last := by
      rw [ongoing]
      intro all
      have inTime : 6 + 2 ≤ 6 := (all 3 (Nat.le_refl 3)).2
      omega
    omega
  subst third
  exact ⟨bounded, (timeout rfl).2, requests⟩

end Client

end TaskSieve
